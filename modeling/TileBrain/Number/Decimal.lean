import TileBrain.Number.Binary64

/-! # Shortest decimal text

A finite value is written with the fewest decimal digits that read back to it, and of those the
nearest. Which exponents are written positionally, and how an exponent looks, is one record.

Digits are found by comparing exact values, from few digits to many, with no floating-point
arithmetic in between.
-/

namespace TileBrain

namespace Binary64

/-- The decimals that round to a positive value: `lower ≤ d * scale ≤ upper`, the ends belonging
to it when the significand is even. The value itself is `centre / scale`. -/
structure RoundingInterval where
  lower : Nat
  centre : Nat
  upper : Nat
  scale : Nat
  closed : Bool

/-- The next value below is half as far away when the significand is the least of its exponent. -/
def roundingInterval (significand : Nat) (exponent : Int) : RoundingInterval :=
  let quarter := twoTo (exponent - 2).toNat
  let gap := if significand = twoTo 52 ∧ leastExponent < exponent then 1 else 2
  { lower := (4 * significand - gap) * quarter
    centre := 4 * significand * quarter
    upper := (4 * significand + 2) * quarter
    scale := twoTo (2 - exponent).toNat
    closed := significand % 2 = 0 }

/-- Whether `digits * 10 ^ exponent` rounds to the value. -/
def RoundingInterval.holds (interval : RoundingInterval) (digits : Nat) (exponent : Int) : Bool :=
  let point := digits * interval.scale * tenTo exponent.toNat
  let lower := interval.lower * tenTo (-exponent).toNat
  let upper := interval.upper * tenTo (-exponent).toNat
  if interval.closed then lower ≤ point && point ≤ upper else lower < point && point < upper

/-- Of the two neighbours of the value among the multiples of `10 ^ exponent`, the nearer one that
rounds to it; the even one when both are equally near. -/
def RoundingInterval.nearest? (interval : RoundingInterval) (exponent : Int) : Option Nat :=
  let step := interval.scale * tenTo exponent.toNat
  let centre := interval.centre * tenTo (-exponent).toNat
  let below := centre / step
  let rest := centre % step
  let preferAbove : Bool := step < 2 * rest || (step = 2 * rest && below % 2 = 1)
  let (first, second) := if preferAbove then (below + 1, below) else (below, below + 1)
  if interval.holds first exponent then some first
  else if interval.holds second exponent then some second
  else none

/-- Whether the value is at least `10 ^ exponent`. -/
def RoundingInterval.reaches (interval : RoundingInterval) (exponent : Int) : Bool :=
  interval.scale * tenTo exponent.toNat ≤ interval.centre * tenTo (-exponent).toNat

/-- The power of ten of the leading digit, from the logarithm of two and a look at both sides. -/
def leadingPower (significand : Nat) (exponent : Int) : Int :=
  let interval := roundingInterval significand exponent
  let guess := Int.fdiv ((exponent + significand.log2) * 30103) 100000
  if interval.reaches (guess + 1) then guess + 1
  else if interval.reaches guess then guess
  else guess - 1

/-- Seventeen significant digits always suffice. -/
def mostDigits : Nat := 17

/-- The digits and the power of ten of the last one: the coarsest grid that has a hit wins. -/
def shortest (significand : Nat) (exponent : Int) : Nat × Int :=
  let interval := roundingInterval significand exponent
  let leading := leadingPower significand exponent
  let hit := (List.range mostDigits).findSome? fun (further : Nat) =>
    let power := leading - further
    (interval.nearest? power).map fun digits => (digits, power)
  hit.getD (0, 0)

end Binary64

/-- How a floating-point value is laid out. -/
structure DecimalLayout where
  /-- The least power of ten of a leading digit that is written positionally. -/
  positionalFrom : Int
  /-- The first power of ten of a leading digit that is not. -/
  positionalBelow : Int
  /-- An exponent is filled up with zeros to this width. -/
  exponentWidth : Nat
  nan : String
  infinity : String

namespace DecimalLayout

/-- Positional from a ten-thousandth up to sixteen digits, with a fraction always shown; elsewhere
a signed exponent of two digits or more. -/
def plain : DecimalLayout := ⟨-4, 16, 2, "nan", "inf"⟩

/-- The decimal digits of a natural number. -/
def digitsOf (n : Nat) : List Char := Nat.toDigits 10 n

/-- Digits around a decimal point, the power of the leading digit being given. -/
def positional (digits : List Char) (leading : Int) : List Char :=
  if leading < 0 then '0' :: '.' :: (List.replicate (-leading - 1).toNat '0' ++ digits)
  else
    let whole := leading.toNat + 1
    let filled := digits ++ List.replicate (whole + 1 - digits.length) '0'
    filled.take whole ++ '.' :: filled.drop whole

/-- One digit, a point if more follow, and the exponent. -/
def scientific (layout : DecimalLayout) (digits : List Char) (leading : Int) : List Char :=
  let fraction := digits.drop 1
  let exponent := digitsOf leading.natAbs
  digits.take 1 ++ (if fraction.isEmpty then [] else '.' :: fraction) ++
    ['e', if leading < 0 then '-' else '+'] ++
    List.replicate (layout.exponentWidth - exponent.length) '0' ++ exponent

/-- The text of a value without its sign. -/
def magnitude (layout : DecimalLayout) (significand : Nat) (exponent : Int) : List Char :=
  let (number, power) :=
    if significand = 0 then (0, 0) else Binary64.shortest significand exponent
  let written := digitsOf number
  let leading := power + written.length - 1
  let digits := match (written.reverse.dropWhile (· == '0')).reverse with
    | [] => ['0']
    | kept => kept
  if layout.positionalFrom ≤ leading ∧ leading < layout.positionalBelow then
    positional digits leading
  else layout.scientific digits leading

/-- The text of a value. -/
def text (layout : DecimalLayout) : Binary64 → String
  | .nan => layout.nan
  | .infinite negative => (if negative then "-" else "") ++ layout.infinity
  | .finite negative significand exponent =>
    (if negative then "-" else "") ++ String.ofList (layout.magnitude significand exponent)

end DecimalLayout

end TileBrain
