import ObjectBridge.Number.Binary

/-!
# Doubles and singles

The two floating-point types that cross the bridge, each as its bit pattern.
Two doubles are the same datum when their patterns agree; they are numerically
equal by the rules of arithmetic, under which zeros of both signs agree and no
number equals itself when it is not a number.

Main results:

- Theorem `Double.numEq_self_iff`: only a pattern that is not a number differs
  from itself.
- Theorems `Double.numEq_comm` and `Double.numEq_trans`: numerical equality is
  symmetric and transitive.
-/

namespace ObjectBridge

/-- A floating-point number of 64 bits. -/
structure Double where
  bits : UInt64
deriving DecidableEq, Repr

/-- A floating-point number of 32 bits. -/
structure Single where
  bits : UInt32
deriving DecidableEq, Repr

namespace Double

/-- The number a pattern stands for. -/
def number (x : Double) : BinaryNumber :=
  BinaryFormat.double.decode x.bits.toNat

/-- The double of a number of any format, rounded to nearest. -/
def ofNumber (n : BinaryNumber) : Double :=
  ⟨(BinaryFormat.double.encode n).toUInt64⟩

/-- The pattern without its sign bit. -/
def magnitude (x : Double) : Nat :=
  x.bits.toNat % BinaryFormat.double.signBit

/-- Whether the pattern stands for no number. -/
def isNaN (x : Double) : Bool :=
  BinaryFormat.double.infinity < x.magnitude

/-- Whether the pattern stands for a finite number. -/
def isFinite (x : Double) : Bool :=
  x.magnitude < BinaryFormat.double.infinity

/-- Whether the pattern is a zero of either sign. -/
def isZero (x : Double) : Bool :=
  x.magnitude == 0

/-- The double nearest to an integer. -/
def ofInt (n : Int) : Double :=
  ⟨(BinaryFormat.double.nearest (decide (n < 0)) n.natAbs 1).toUInt64⟩

/-- Numerical equality: zeros agree whatever their sign, and what is not a number equals nothing. -/
def numEq (x y : Double) : Bool :=
  !x.isNaN && !y.isNaN && (x == y || (x.isZero && y.isZero))

/-- The single nearest to a double. -/
def toSingle (x : Double) : Single :=
  ⟨(BinaryFormat.single.encode x.number).toUInt32⟩

/-! ## Laws of numerical equality -/

/-- A number is equal to itself unless it is no number. -/
theorem numEq_self_iff {x : Double} : x.numEq x = true ↔ x.isNaN = false := by
  have h : (x == x) = true := beq_self_eq_true x
  unfold numEq
  rw [h, Bool.true_or, Bool.and_true]
  cases x.isNaN <;> decide

/-- Numbers are equal in both directions. -/
theorem numEq_comm (x y : Double) : x.numEq y = y.numEq x := by
  have h : (x == y) = (y == x) := by
    rw [Bool.eq_iff_iff, beq_iff_eq, beq_iff_eq]
    exact eq_comm
  simp only [numEq, h, Bool.and_comm x.isZero]
  cases x.isNaN <;> cases y.isNaN <;> rfl

/-- Equality carries over, the two zeros included. -/
theorem numEq_trans {x y z : Double} (hxy : x.numEq y = true) (hyz : y.numEq z = true) :
    x.numEq z = true := by
  simp only [numEq, Bool.and_eq_true, Bool.not_eq_true', Bool.or_eq_true, beq_iff_eq] at *
  obtain ⟨⟨hx, _⟩, hxy⟩ := hxy
  obtain ⟨⟨_, hz⟩, hyz⟩ := hyz
  refine ⟨⟨hx, hz⟩, ?_⟩
  rcases hxy with rfl | ⟨zx, _⟩
  · exact hyz
  · rcases hyz with rfl | ⟨_, zz⟩
    · right; simp_all
    · exact Or.inr ⟨zx, zz⟩

end Double

namespace Single

/-- The number a pattern stands for. -/
def number (x : Single) : BinaryNumber :=
  BinaryFormat.single.decode x.bits.toNat

/-- The double with the same value. -/
def toDouble (x : Single) : Double :=
  Double.ofNumber x.number

end Single

end ObjectBridge
