/-!
# Binary floating point

A floating-point number is carried as its bit pattern, and every operation on
it is exact arithmetic on natural numbers.  A format is given by the widths of
its two fields; `nearest` is the one rounding rule, used to read decimals, to
convert integers and to change the format.

Main results:

- Definition `roundHalfEven`: the rounding of a quotient.
- Definition `BinaryFormat.nearest`: the number of a format nearest to a quotient.
-/

namespace ObjectBridge

/-! ## Rounding a quotient -/

/-- The integer nearest to a quotient; a quotient halfway between two goes to the even one. -/
def roundHalfEven (num den : Nat) : Nat :=
  let whole := num / den
  let twice := 2 * (num % den)
  if twice < den then whole
  else if den < twice then whole + 1
  else if whole % 2 = 0 then whole
  else whole + 1

/-! ## Formats -/

/-- A binary interchange format: the widths of its significand and exponent fields. -/
structure BinaryFormat where
  significandBits : Nat
  exponentBits : Nat

namespace BinaryFormat

/-- The format of 64 bits. -/
def double : BinaryFormat := ⟨52, 11⟩

/-- The format of 32 bits. -/
def single : BinaryFormat := ⟨23, 8⟩

/-- The exponent of the unit of the smallest numbers. -/
def minExponent (f : BinaryFormat) : Int :=
  2 - (Nat.pow 2 (f.exponentBits - 1) : Nat) - (f.significandBits : Nat)

/-- The pattern of positive infinity. -/
def infinity (f : BinaryFormat) : Nat :=
  (Nat.pow 2 f.exponentBits - 1) * Nat.pow 2 f.significandBits

/-- The weight of the sign bit. -/
def signBit (f : BinaryFormat) : Nat :=
  Nat.pow 2 (f.significandBits + f.exponentBits)

/-- The pattern that stands for a result that is not a number. -/
def notANumber (f : BinaryFormat) : Nat :=
  f.infinity + Nat.pow 2 (f.significandBits - 1)

end BinaryFormat

/-- What a bit pattern stands for.  A finite one is `significand * 2 ^ exponent`. -/
inductive BinaryNumber where
  | notANumber
  | infinite (negative : Bool)
  | finite (negative : Bool) (significand : Nat) (exponent : Int)
deriving DecidableEq, Repr

namespace BinaryFormat

/-- The number a bit pattern stands for. -/
def decode (f : BinaryFormat) (pattern : Nat) : BinaryNumber :=
  let negative := decide (f.signBit ≤ pattern)
  let magnitude := pattern % f.signBit
  if f.infinity < magnitude then .notANumber
  else if magnitude = f.infinity then .infinite negative
  else
    let field := magnitude / Nat.pow 2 f.significandBits
    let fraction := magnitude % Nat.pow 2 f.significandBits
    if field = 0 then .finite negative fraction f.minExponent
    else
      .finite negative (Nat.pow 2 f.significandBits + fraction) (f.minExponent + (field - 1 : Nat))

/-- The largest `k` with `2 ^ k ≤ num / den`, for positive arguments. -/
def binaryExponent (num den : Nat) : Int :=
  let guess : Int := (Nat.log2 num : Int) - Nat.log2 den
  let fits :=
    if 0 ≤ guess then den * Nat.pow 2 guess.toNat ≤ num else den ≤ num * Nat.pow 2 (-guess).toNat
  if fits then guess else guess - 1

/-- The pattern of the number of this format nearest to a non-negative quotient; what lies beyond
the largest finite number is infinite. -/
def nearest (f : BinaryFormat) (negative : Bool) (num den : Nat) : Nat :=
  let sign := if negative then f.signBit else 0
  if num = 0 then sign
  else
    let unit : Int := max f.minExponent (binaryExponent num den - f.significandBits)
    let significand :=
      if 0 ≤ unit then roundHalfEven num (den * Nat.pow 2 unit.toNat)
      else roundHalfEven (num * Nat.pow 2 (-unit).toNat) den
    let magnitude := (unit - f.minExponent).toNat * Nat.pow 2 f.significandBits + significand
    sign + min magnitude f.infinity

/-- The pattern in this format of a number given in any format. -/
def encode (f : BinaryFormat) : BinaryNumber → Nat
  | .notANumber => f.notANumber
  | .infinite negative => (if negative then f.signBit else 0) + f.infinity
  | .finite negative significand exponent =>
    if 0 ≤ exponent then f.nearest negative (significand * Nat.pow 2 exponent.toNat) 1
    else f.nearest negative significand (Nat.pow 2 (-exponent).toNat)

end BinaryFormat

end ObjectBridge
