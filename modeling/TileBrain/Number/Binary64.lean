/-! # Binary floating-point values

A value of the 64-bit binary format is held exactly, as a sign, a whole significand and a power of
two. Decimal literals are rounded to the nearest value by whole-number arithmetic alone, so that
every definition here evaluates in the kernel.
-/

namespace TileBrain

/-- A 64-bit binary floating-point value. A finite one is `±significand * 2 ^ exponent`. -/
inductive Binary64 where
  | nan
  | infinite (negative : Bool)
  | finite (negative : Bool) (significand : Nat) (exponent : Int)
  deriving DecidableEq, Inhabited

namespace Binary64

/-- The exponent of the least positive value, and of every value too small to be normal. -/
def leastExponent : Int := -1074

/-- The exponent of the largest finite value. -/
def greatestExponent : Int := 971

/-- A zero keeps its sign. -/
def zero (negative : Bool) : Binary64 := .finite negative 0 leastExponent

/-- A power of two. -/
def twoTo (n : Nat) : Nat := Nat.pow 2 n

theorem twoTo_pos (n : Nat) : 0 < twoTo n := Nat.two_pow_pos n

/-- A power of ten. -/
def tenTo (n : Nat) : Nat := Nat.pow 10 n

/-- The quotient rounded to the nearest natural number; a tie goes to the even neighbour. -/
def roundQuotient (numerator denominator : Nat) : Nat :=
  let whole := numerator / denominator
  let twice := 2 * (numerator % denominator)
  if denominator < twice ∨ (denominator = twice ∧ whole % 2 = 1) then whole + 1 else whole

/-- The fraction divided by a power of two, again as a numerator and a denominator. -/
def scaleDown (numerator denominator : Nat) (exponent : Int) : Nat × Nat :=
  (numerator * twoTo (-exponent).toNat, denominator * twoTo exponent.toNat)

/-- The exponent at which the whole part of a positive fraction has 53 bits, or the least one. -/
def exponentOf (numerator denominator : Nat) : Int :=
  let guess : Int := numerator.log2 - denominator.log2 - 52
  let (above, below) := scaleDown numerator denominator guess
  max leastExponent (if above / below < twoTo 52 then guess - 1 else guess)

/-- The value nearest to a positive fraction; past the largest finite value it is an infinity. -/
def ofFraction (negative : Bool) (numerator denominator : Nat) : Binary64 :=
  let exponent := exponentOf numerator denominator
  let (above, below) := scaleDown numerator denominator exponent
  let rounded := roundQuotient above below
  let (significand, exponent) :=
    if rounded = twoTo 53 then (twoTo 52, exponent + 1) else (rounded, exponent)
  if greatestExponent < exponent then .infinite negative
  else .finite negative significand exponent

/-- Powers of ten past this one exceed every finite value, and their inverses round to zero. -/
def decimalRange : Int := 400

/-- The value nearest to `±digits * 10 ^ exponent`, where `count` bounds the number of digits. An
exponent far out of range is settled without forming its power. -/
def ofDecimal (negative : Bool) (digits count : Nat) (exponent : Int) : Binary64 :=
  if digits = 0 ∨ count + exponent < -decimalRange then zero negative
  else if decimalRange < exponent then .infinite negative
  else ofFraction negative (digits * tenTo exponent.toNat) (tenTo (-exponent).toNat)

/-- The whole part, the fraction being dropped; infinities and not-a-number have none. -/
def truncate? : Binary64 → Option Int
  | .finite negative significand exponent =>
    let whole := significand * twoTo exponent.toNat / twoTo (-exponent).toNat
    some (if negative then -whole else whole)
  | _ => none

end Binary64

end TileBrain
