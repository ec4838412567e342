import ObjectBridge.Proofs.Extraction

/-!
# Buildings taken out of a host

A building is made of three arguments and taken out if its attributes are an integer and two texts.
What the arguments count as decides it, whatever has happened to the bridge and its host before.

Main results:

- Theorem `Building.decodeNative_eq_ok_iff`: the attributes that are a building.
- Theorem `Building.not_makes_iff`: the arguments that no building is made of.
- Theorem `Bridge.buildings_of_history`: what becomes of a building, after any history.
-/

namespace ObjectBridge

variable {α : Type}

/-! ## Attributes that are a building -/

namespace Value

variable {v : Value} {entries : List (String × Value)}

/-- Integers and texts are the structural form of nothing but themselves. -/
theorem toJson_eq_scalar_iff :
    (∀ n, v.toJson = .ok (.int n) ↔ v = .int n) ∧ ∀ s, v.toJson = .ok (.str s) ↔ v = .str s := by
  cases v with
  | float x => cases hfinite : x.isFinite <;> simp [toJson, hfinite]
  | list items => cases hitems : toJsonItems items <;> simp [toJson, hitems, Except.map]
  | map entries => cases hentries : toJsonEntries entries <;> simp [toJson, hentries, Except.map]
  | _ => simp [toJson]

/-- A map is turned into JSON when its entries are. -/
theorem toJson_map_eq_ok_iff {j : Json} :
    (map entries).toJson = .ok j ↔
      ∃ fields, toJsonEntries entries = .ok fields ∧ .record fields = j := by
  cases hentries : toJsonEntries entries <;> simp [toJson, hentries, Except.map]

/-- Entries are turned into JSON one after another. -/
theorem toJsonEntries_cons_eq_ok_iff {key : String} {fields : List (String × Json)} :
    toJsonEntries ((key, v) :: entries) = .ok fields ↔
      ∃ j, v.toJson = .ok j ∧ ∃ js, toJsonEntries entries = .ok js ∧ (key, j) :: js = fields := by
  simp only [toJsonEntries, bind_eq_ok_iff, Except.ok.injEq]

end Value

/-- An integer is taken from an integer. -/
theorem Target.int64_decode_eq_ok_iff {j : Json} {n : Int64} :
    int64.decode j = .ok n ↔ j = .int n := by
  cases j <;> simp [int64, of, mismatch]

/-- A text is taken from a text. -/
theorem Target.text_decode_eq_ok_iff {j : Json} {s : String} :
    text.decode j = .ok s ↔ j = .str s := by
  cases j <;> simp [text, of, mismatch]

/-- An object has a native form if its data have a structural form that is decoded. -/
theorem Bridge.decodeNative_eq_ok_iff {target : Target α} {v : Value} {x : α} :
    decodeNative target v = .ok x ↔ ∃ j, v.toJson = .ok j ∧ target.decode j = .ok x := by
  rw [decodeNative]
  cases v.toJson with
  | ok j => cases hdecoded : target.decode j <;> simp [hdecoded, Except.mapError]
  | error err => cases err <;> simp

namespace Building

variable {vs : List Value} {attributes : Attributes} {x : Building}

/-- Three arguments become the attributes of their names, and any other number is refused. -/
theorem construct_eq_ok_iff {ks : List (String × Value)} :
    construct vs ks = .ok attributes ↔ ∃ id name address, vs = [id, name, address] ∧
      attributes = [("address", address), ("id", id), ("name", name)] := by
  match vs with
  | [id, name, address] => simp [construct, eq_comm]
  | [] | [_] | [_, _] | _ :: _ :: _ :: _ :: _ => simp [construct]

/-- A building is taken from a record of its three fields. -/
theorem decode_eq_ok_iff {address id name : Json} :
    target.decode (.record [("address", address), ("id", id), ("name", name)]) = .ok x ↔
      id = .int x.id ∧ name = .str x.name ∧ address = .str x.address := by
  simp only [target, Target.of, List.foldlM_cons, List.foldlM_nil, Draft.add, bind_eq_ok_iff,
    Target.int64_decode_eq_ok_iff, Target.text_decode_eq_ok_iff]
  constructor
  · rintro ⟨_, ⟨_, ⟨address, rfl, ⟨⟩⟩, _, ⟨id, rfl, ⟨⟩⟩, _, ⟨name, rfl, ⟨⟩⟩, ⟨⟩⟩, ⟨⟩⟩
    exact ⟨rfl, rfl, rfl⟩
  · rintro ⟨rfl, rfl, rfl⟩
    exact ⟨_, ⟨_, ⟨_, rfl, rfl⟩, _, ⟨_, rfl, rfl⟩, _, ⟨_, rfl, rfl⟩, rfl⟩, rfl⟩

/-- The attributes of an instance are a building if they are an integer and two texts. -/
theorem decodeNative_eq_ok_iff {address id name : Value} :
    Bridge.decodeNative target (.map [("address", address), ("id", id), ("name", name)]) = .ok x ↔
      id = .int x.id ∧ name = .str x.name ∧ address = .str x.address := by
  simp only [Bridge.decodeNative_eq_ok_iff, Value.toJson_map_eq_ok_iff,
    Value.toJsonEntries_cons_eq_ok_iff]
  constructor
  · rintro ⟨_, ⟨_, ⟨_, haddress, _, hrest, rfl⟩, rfl⟩, hdecoded⟩
    obtain ⟨_, hid, _, hrest, rfl⟩ := hrest
    obtain ⟨_, hname, _, ⟨⟩, rfl⟩ := hrest
    obtain ⟨rfl, rfl, rfl⟩ := decode_eq_ok_iff.mp hdecoded
    exact ⟨(Value.toJson_eq_scalar_iff.1 _).mp hid, (Value.toJson_eq_scalar_iff.2 _).mp hname,
      (Value.toJson_eq_scalar_iff.2 _).mp haddress⟩
  · rintro ⟨rfl, rfl, rfl⟩
    refine ⟨_, ⟨_, ⟨_, rfl, _, ⟨_, rfl, _, ⟨_, rfl, _, rfl, rfl⟩, rfl⟩, rfl⟩, rfl⟩, ?_⟩
    exact decode_eq_ok_iff.mpr ⟨rfl, rfl, rfl⟩

/-- A building is made of three arguments, all of which the host has something for. -/
theorem makes_iff {h : Host} {arguments : List Value} :
    h.Makes hostClass arguments attributes ↔
      (∀ o, .object o ∈ arguments → h.object? o ≠ none) ∧ ∃ id name address,
        arguments.map h.counted = [id, name, address] ∧
          attributes = [("address", address), ("id", id), ("name", name)] := by
  have hinstantiate (vs : List Value) : hostClass.instantiate vs [] = construct vs [] := rfl
  simp only [Host.Makes, Host.mapM_restored_eq_ok_iff, hinstantiate, construct_eq_ok_iff]
  constructor
  · rintro ⟨vs, ⟨hown, rfl⟩, hattributes⟩
    exact ⟨hown, hattributes⟩
  · rintro ⟨hown, hattributes⟩
    exact ⟨_, ⟨hown, rfl⟩, hattributes⟩

/-- No building is made of other than three arguments, or of an object of another host. -/
theorem not_makes_iff {h : Host} {arguments : List Value} :
    (∀ attributes, ¬ h.Makes hostClass arguments attributes) ↔
      arguments.length ≠ 3 ∨ ∃ o, .object o ∈ arguments ∧ h.object? o = none := by
  constructor
  · intro hnone
    by_contra hfits
    rw [not_or, not_not, not_exists] at hfits
    obtain ⟨hlength, hown⟩ := hfits
    obtain ⟨id, name, address, hcounted⟩ :=
      List.length_eq_three.mp ((List.length_map h.counted).trans hlength)
    exact hnone _ (makes_iff.mpr ⟨fun o ho halien => hown o ⟨ho, halien⟩, id, name, address,
      hcounted, rfl⟩)
  · rintro hrejected attributes hmakes
    obtain ⟨hown, id, name, address, hcounted, -⟩ := makes_iff.mp hmakes
    obtain hlength | ⟨o, ho, halien⟩ := hrejected
    · exact hlength ((List.length_map h.counted).symm.trans (congrArg List.length hcounted))
    · exact hown o ho halien

/-- Attributes fit a building when its arguments are of the right kinds. -/
theorem fits_iff {h : Host} {arguments : List Value}
    (hmakes : h.Makes hostClass arguments attributes) :
    Bridge.decodeNative target (.map attributes) = .ok x ↔
      arguments.map h.counted = [.int x.id, .str x.name, .str x.address] := by
  obtain ⟨-, id, name, address, hcounted, rfl⟩ := makes_iff.mp hmakes
  rw [decodeNative_eq_ok_iff, hcounted]
  simp

end Building

/-! ## Buildings after a history -/

/-- Values cannot all be stored if one of them is a number that is not finite. -/
theorem unstorable_iff {vs : List Value} :
    vs.findSome? Value.nonFinite? ≠ none ↔ ∃ x, .float x ∈ vs ∧ x.isFinite = false := by
  have hnumber (v : Value) : v.nonFinite? ≠ none ↔ ∃ x, v = .float x ∧ x.isFinite = false := by
    cases v with
    | float x => cases hfinite : x.isFinite <;> simp [Value.nonFinite?, hfinite]
    | _ => simp [Value.nonFinite?]
  rw [ne_eq, List.findSome?_eq_none_iff, not_forall]
  constructor
  · rintro ⟨v, hv⟩
    obtain ⟨hmem, hfaulty⟩ := Classical.not_imp.mp hv
    obtain ⟨x, rfl, hx⟩ := (hnumber v).mp hfaulty
    exact ⟨x, hmem, hx⟩
  · rintro ⟨x, hmem, hx⟩
    exact ⟨_, Classical.not_imp.mpr ⟨hmem, (hnumber _).mpr ⟨x, rfl, hx⟩⟩⟩

/-- The classes of a module are those of its own definitions. -/
theorem Definitions.class?_append_of_ne {defs more : Definitions} {module name : String}
    (hmore : ∀ d ∈ more, d.1 ≠ module) :
    Definitions.class? (defs ++ more) module name = defs.class? module name := by
  have hnone : more.filter (fun d => d.1 = module) = [] :=
    List.filter_eq_nil_iff.mpr fun d hd => by simpa using hmore d hd
  rw [class?, class?, List.filter_append, hnone, List.append_nil]

/-- What the fixtures define. -/
def fixtureDefinitions : Definitions :=
  [("Car", [Car.hostClass]), ("Building", [Building.hostClass])]

/-- The host of the fixtures defines these. -/
theorem Host.fixtures_defines : Host.fixtures.Defines fixtureDefinitions :=
  (Host.Defines.empty.define "Car" [Car.hostClass]).define "Building" [Building.hostClass]

/-- An operation that fails counts no instance. -/
theorem Posts.instancesCreated_of_failed {σ : Type} {done : List Tally} {a : Action σ α}
    (h : Posts done [.failed] a) {s : Session σ} {err : BridgeError} (herr : (a s).1 = .error err) :
    (a s).2.ledger.counters.instancesCreated = s.ledger.counters.instancesCreated := by
  obtain ⟨t, ⟨m, n, hgrows⟩, hledger⟩ := h s
  have hcounters : (a s).2.ledger.counters = t.ledger.counters.record .failed := by
    rw [hledger, herr]
    rfl
  rw [hcounters, hgrows.counters]
  rfl

namespace Bridge

theorem building_verdict (c : Configuration) (e : Environment) {history : List HostDeed}
    {arguments : List Value} (hkept : ∀ classes, HostDeed.define "Building" classes ∉ history) :
    let b := onHost c e
    let s := b.didAll (b.start Host.fixtures) history
    s.world.refusing = false → (∀ v ∈ arguments, s.world.Knows v) →
      s.world.Verdict Building.hostClass Building.target arguments
        (b.createInstance Building.target "Building" "Building" arguments s).1 := by
  intro b s hwilling hknown
  have hstart : (b.start Host.fixtures).Imported := fun id o hfound => by cases hfound
  obtain ⟨hs, hdefines⟩ :=
    didAll_defines (c := c) (e := e) hstart Host.fixtures_defines history
  have hothers : ∀ d ∈ history.filterMap HostDeed.definition?, d.1 ≠ "Building" := by
    rintro ⟨name, classes⟩ hd rfl
    obtain ⟨deed, hdeed, hdefinition⟩ := List.mem_filterMap.mp hd
    cases deed with
    | define name others =>
      cases hdefinition
      exact hkept _ hdeed
    | _ => cases hdefinition
  have hclass : Definitions.class?
      (fixtureDefinitions ++ history.filterMap HostDeed.definition?) "Building" "Building" =
        some Building.hostClass := by
    rw [Definitions.class?_append_of_ne hothers]
    rfl
  refine createInstance_verdict Building.target ?_ hs hdefines hwilling ?_ ?_ hknown
  · decide
  · exact ⟨("Building", [Building.hostClass]), by simp [fixtureDefinitions], .inl rfl⟩
  · exact .step (.root "Building") (.ofClass hclass)

end Bridge

end ObjectBridge
