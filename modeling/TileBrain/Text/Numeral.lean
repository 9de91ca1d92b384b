import TileBrain.Text.Digit
import TileBrain.Text.Quoted

/-! # Reading whole numbers

A numeral may be surrounded by blanks, carry one sign and hold decimal digits of any script with
single underscores between them. Very long numerals are refused.

A numeral is refused for its length before its value is computed, and before what stands behind its
digits is looked at.
-/

namespace TileBrain.Text

/-- A numeral with more digits than this is refused. -/
def digitLimit : Nat := 4300

/-- What a refused numeral is answered. -/
def tooManyDigits (count : Nat) : String :=
  "Exceeds the limit (" ++ toString digitLimit ++ " digits) for integer string conversion: " ++
    "value has " ++ toString count ++
    " digits; use sys.set_int_max_str_digits() to increase the limit"

/-- Why a text is no whole number. -/
inductive NumeralFault where
  | notANumeral (text : String)
  | tooLong (digits : Nat)
  deriving DecidableEq

/-- A message shows no more of a quoted text than this. -/
def longestQuotation : Nat := 200

def NumeralFault.message : NumeralFault → String
  | .notANumeral text =>
    "invalid literal for int() with base 10: " ++
      String.ofList ((quoted text).toList.take longestQuotation)
  | .tooLong digits => tooManyDigits digits

/-- Blanks and digits of every script become ASCII ones. -/
def plainChar (c : Char) : Char :=
  if c.toNat < 0x7f then c
  else if isWideBlank c then ' '
  else match digitValue? c with
    | some value => Char.ofNat ('0'.toNat + value)
    | none => c

/-- Digits, with single underscores between them. -/
def isDigitRun : List Char → Bool
  | [] => false
  | [c] => c.isDigit
  | c :: '_' :: rest => c.isDigit && isDigitRun rest
  | c :: rest => c.isDigit && isDigitRun rest

/-- The sign in front of a numeral, and what follows it. -/
def takeSign : List Char → Bool × List Char
  | '-' :: rest => (true, rest)
  | '+' :: rest => (false, rest)
  | text => (false, text)

/-- The whole number that a text spells. -/
def readInteger (text : String) : Except NumeralFault Int :=
  let (negative, unsigned) := takeSign ((text.toList.map plainChar).dropWhile isAsciiBlank)
  let inRun (c : Char) : Bool := c.isDigit || c = '_'
  let run := unsigned.takeWhile inRun
  let digits := run.filter Char.isDigit
  if !isDigitRun run then .error (.notANumeral text)
  else if digitLimit < digits.length then .error (.tooLong digits.length)
  else if !((unsigned.dropWhile inRun).dropWhile isAsciiBlank).isEmpty then
    .error (.notANumeral text)
  else
    let magnitude : Int := Nat.ofDigitChars 10 digits 0
    .ok (if negative then -magnitude else magnitude)

end TileBrain.Text
