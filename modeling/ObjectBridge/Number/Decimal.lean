import ObjectBridge.Number.Double

/-!
# Decimal text of doubles

The shortest decimal that reads back as a given double, found by testing, for
one digit after another, the two neighbours of the double on the decimal grid
of that many digits; and the ways in which such a decimal is written.

Main results:

- Definition `Double.shortest`: the digits and the place of the point.
- Definition `Double.plainText`: always positional.
- Definitions `Double.describedText` and `Double.structuralText`: with a fraction
  or an exponent, so that it cannot be taken for an integer.
- Definition `Double.ofDecimal`: the double nearest to a decimal.
-/

namespace ObjectBridge

/-- A decimal `0.d₁d₂…dₙ * 10 ^ point`. -/
structure DecimalDigits where
  digits : List Nat
  point : Int
deriving DecidableEq, Repr

namespace Double

/-! ## The rounding interval -/

/-- The magnitude of a finite double and of the ends of the interval that rounds to it, over one
denominator. -/
structure Interval where
  low : Nat
  value : Nat
  high : Nat
  den : Nat
  closed : Bool

/-- The interval of a finite non-zero double.  Its lower half is smaller at a power of two. -/
def interval (significand : Nat) (exponent : Int) : Interval :=
  let f := BinaryFormat.double
  let gap := if significand = Nat.pow 2 f.significandBits ∧ f.minExponent < exponent then 1 else 2
  let unit := exponent - 2
  let num := Nat.pow 2 unit.toNat
  ⟨(4 * significand - gap) * num, 4 * significand * num, (4 * significand + 2) * num,
    Nat.pow 2 (-unit).toNat, significand % 2 == 0⟩

/-- Whether `candidate * 10 ^ grid` lies in the interval. -/
def Interval.holds (i : Interval) (candidate : Nat) (grid : Int) : Bool :=
  let c := candidate * Nat.pow 10 grid.toNat * i.den
  let scale := Nat.pow 10 (-grid).toNat
  if i.closed then i.low * scale ≤ c && c ≤ i.high * scale
  else i.low * scale < c && c < i.high * scale

/-- The least power of ten above the value of the interval, as an exponent. -/
def Interval.point (i : Interval) : Int :=
  if i.den ≤ i.value then
    (Nat.toDigits 10 (i.value / i.den)).length
  else
    let rec descend : Nat → Nat → Nat → Int
      | 0, _, k => -(k : Int)
      | fuel + 1, num, k => if i.den ≤ num * 10 then -(k : Int) else descend fuel (num * 10) (k + 1)
    descend 400 i.value 0

/-- Which of two candidates that are equally near is taken: the upper or the even one. -/
inductive Tie where
  | up
  | even
deriving DecidableEq, Repr

/-- The candidate of `n` digits, if one of the two neighbours on the grid lies in the interval: the
nearer one of both. -/
def Interval.candidate? (i : Interval) (tie : Tie) (point : Int) (n : Nat) : Option (Nat × Int) :=
  let grid := point - n
  let num := i.value * Nat.pow 10 (-grid).toNat
  let den := i.den * Nat.pow 10 grid.toNat
  let below := num / den
  let remainder := num % den
  match i.holds below grid, i.holds (below + 1) grid with
  | true, true =>
    let takesLower :=
      2 * remainder < den || (2 * remainder == den && tie == .even && below % 2 == 0)
    some (if takesLower then below else below + 1, grid)
  | true, false => some (below, grid)
  | false, true => some (below + 1, grid)
  | false, false => none

/-- The decimal of a candidate on a grid, without trailing zeros. -/
def decimalOf (candidate : Nat) (grid : Int) : DecimalDigits :=
  let all := (Nat.toDigits 10 candidate).map fun c => c.toNat - '0'.toNat
  ⟨(all.reverse.dropWhile (· == 0)).reverse, grid + all.length⟩

/-- The shortest decimal in the rounding interval of a finite non-zero magnitude. -/
def shortest (tie : Tie) (significand : Nat) (exponent : Int) : DecimalDigits :=
  let i := interval significand exponent
  let point := i.point
  match (List.range 17).findSome? fun n => i.candidate? tie point (n + 1) with
  | some (candidate, grid) => decimalOf candidate grid
  | none => ⟨[], 0⟩

/-! ## Writing -/

private def digitText (digits : List Nat) : String :=
  String.ofList (digits.map Nat.digitChar)

private def zeros (n : Nat) : String :=
  String.ofList (List.replicate n '0')

/-- Positional text of a decimal, with at least the given number of fraction digits. -/
def positional (d : DecimalDigits) (fractionDigits : Nat) : String :=
  let whole := d.digits.take d.point.toNat
  let wholeText := digitText whole ++ zeros (d.point.toNat - whole.length)
  let fraction := zeros (-d.point).toNat ++ digitText (d.digits.drop d.point.toNat)
  let fraction := fraction ++ zeros (fractionDigits - fraction.length)
  (if wholeText.isEmpty then "0" else wholeText) ++
    (if fraction.isEmpty then "" else "." ++ fraction)

/-- Text of a decimal with one digit before the point and an exponent, which has `plus` in front
when it is not negative. -/
def scientific (plus : String) (d : DecimalDigits) : String :=
  let fraction := digitText (d.digits.drop 1)
  let exponent := d.point - 1
  digitText (d.digits.take 1) ++ (if fraction.isEmpty then "" else "." ++ fraction) ++ "e" ++
    (if exponent < 0 then "" else plus) ++ toString exponent

private def withNumber (tie : Tie) (x : Double) (write : DecimalDigits → String) : String :=
  match x.number with
  | .notANumber => "NaN"
  | .infinite negative => if negative then "-inf" else "inf"
  | .finite negative significand exponent =>
    let d := if significand = 0 then ⟨[], 0⟩ else shortest tie significand exponent
    (if negative then "-" else "") ++ write d

/-- Plain text: positional, with a point only where there is a fraction. -/
def plainText (x : Double) : String :=
  withNumber .up x fun d => positional d 0

/-- Plain text with at least one fraction digit. -/
def fractionText (x : Double) : String :=
  withNumber .up x fun d => positional d 1

/-- Text inside a description: positional from one ten-thousandth to below ten to the sixteenth,
with an exponent outside of it. -/
def describedText (x : Double) : String :=
  withNumber .up x fun d =>
    if d.digits.isEmpty || (-3 ≤ d.point && d.point ≤ 16) then positional d 1 else scientific "" d

/-- Text inside structural data: positional from one hundred-thousandth to below ten to the
sixteenth, with an exponent and its sign outside of it. -/
def structuralText (x : Double) : String :=
  withNumber .even x fun d =>
    if d.digits.isEmpty || (-4 ≤ d.point && d.point ≤ 16) then positional d 1 else scientific "+" d

/-! ## Reading -/

/-- The double nearest to `mantissa * 10 ^ exponent`. -/
def ofDecimal (negative : Bool) (mantissa : Nat) (exponent : Int) : Double :=
  ⟨(BinaryFormat.double.nearest negative (mantissa * Nat.pow 10 exponent.toNat)
    (Nat.pow 10 (-exponent).toNat)).toUInt64⟩

end Double

end ObjectBridge
