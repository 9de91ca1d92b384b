import TileBrain.Json.Basic
import TileBrain.Text.Numeral

/-! # Reading JSON

A reader over characters. Every step returns what is left of the text, so a fault is known by what
was left when it was found, and its line and column are computed once, at the end. Loops count down
from the length of the text; each round consumes a character, so the count lasts to the end.

A string is a sequence of characters. Half of a surrogate pair, escaped without its other half, is
no character, and `loneUnit` puts U+FFFD in its place.
-/

namespace TileBrain.Json

/-- What is wrong with a text. -/
inductive Fault where
  | byteOrderMark
  | expectingValue
  | expectingName
  | expectingColon
  | expectingComma
  | controlCharacter
  | unterminatedString
  | invalidEscape
  | invalidUnicodeEscape
  | extraData
  deriving DecidableEq

def Fault.text : Fault → String
  | .byteOrderMark => "Unexpected UTF-8 BOM (decode using utf-8-sig)"
  | .expectingValue => "Expecting value"
  | .expectingName => "Expecting property name enclosed in double quotes"
  | .expectingColon => "Expecting ':' delimiter"
  | .expectingComma => "Expecting ',' delimiter"
  | .controlCharacter => "Invalid control character at"
  | .unterminatedString => "Unterminated string starting at"
  | .invalidEscape => "Invalid \\escape"
  | .invalidUnicodeEscape => "Invalid \\uXXXX escape"
  | .extraData => "Extra data"

/-- Why reading stopped: a fault, with the text from the fault on, or a numeral too long. -/
inductive Stop where
  | misread (fault : Fault) (left : List Char)
  | tooLong (digits : Nat)

namespace Reader

/-- White space between tokens. -/
def isBlank (c : Char) : Bool := c = ' ' || c = '\t' || c = '\n' || c = '\r'

def skipBlanks (text : List Char) : List Char := text.dropWhile isBlank

def hexDigit? (c : Char) : Option Nat :=
  if '0' ≤ c ∧ c ≤ '9' then some (c.toNat - '0'.toNat)
  else if 'a' ≤ c ∧ c ≤ 'f' then some (c.toNat - 'a'.toNat + 10)
  else if 'A' ≤ c ∧ c ≤ 'F' then some (c.toNat - 'A'.toNat + 10)
  else none

/-- Four hexadecimal digits. One more character must follow, since a string still has to end. -/
def unit? : List Char → Option (Nat × List Char)
  | a :: b :: c :: d :: next :: rest => do
    let a ← hexDigit? a
    let b ← hexDigit? b
    let c ← hexDigit? c
    let d ← hexDigit? d
    some (((a * 16 + b) * 16 + c) * 16 + d, next :: rest)
  | _ => none

def isHighUnit (unit : Nat) : Bool := 0xd800 ≤ unit && unit < 0xdc00

def isLowUnit (unit : Nat) : Bool := 0xdc00 ≤ unit && unit < 0xe000

/-- The character that a high and a low unit stand for together. -/
def joinUnits (high low : Nat) : Char :=
  Char.ofNat (0x10000 + (high - 0xd800) * 0x400 + (low - 0xdc00))

/-- The character of a single unit. Half of a pair stands for no character and is read as U+FFFD, so
texts that differ only in such halves are read as one. -/
def loneUnit (unit : Nat) : Char :=
  if isHighUnit unit || isLowUnit unit then '\ufffd' else Char.ofNat unit

/-- The low unit after a high one, if the text goes on with one. -/
def lowUnit? : List Char → Except Stop (Option (Nat × List Char))
  | '\\' :: 'u' :: text =>
    if text.length < 5 then .ok none
    else match unit? text with
      | some (low, rest) => .ok (if isLowUnit low then some (low, rest) else none)
      | none => .error (.misread .invalidUnicodeEscape ('u' :: text))
  | _ => .ok none

/-- The character that an escape by number stands for, given the text after its `u`. -/
def numberedEscape (text : List Char) : Except Stop (Char × List Char) :=
  match unit? text with
  | none => .error (.misread .invalidUnicodeEscape ('u' :: text))
  | some (unit, rest) =>
    if isHighUnit unit then do
      match ← lowUnit? rest with
      | some (low, rest) => .ok (joinUnits unit low, rest)
      | none => .ok (loneUnit unit, rest)
    else .ok (loneUnit unit, rest)

/-- The escapes of one letter. -/
def letterEscapes : List (Char × Char) :=
  [('"', '"'), ('\\', '\\'), ('/', '/'), ('b', '\x08'), ('f', '\x0c'), ('n', '\n'), ('r', '\r'),
   ('t', '\t')]

/-- The character that an escape stands for, given the text after its backslash. -/
def escape (opening : List Char) : List Char → Except Stop (Char × List Char)
  | [] => .error (.misread .unterminatedString opening)
  | 'u' :: rest => numberedEscape rest
  | letter :: rest =>
    match letterEscapes.lookup letter with
    | some c => .ok (c, rest)
    | none => .error (.misread .invalidEscape ('\\' :: letter :: rest))

/-- The characters of a string up to its closing quote. `opening` is the text from its opening
quote on. -/
def stringBody (opening : List Char) : Nat → List Char → Except Stop (List Char × List Char)
  | _, [] => .error (.misread .unterminatedString opening)
  | 0, _ => .error (.misread .unterminatedString opening)
  | count + 1, c :: rest =>
    if c = '"' then .ok ([], rest)
    else if c = '\\' then do
      let (c, rest) ← escape opening rest
      let (more, rest) ← stringBody opening count rest
      .ok (c :: more, rest)
    else if c.toNat ≤ 0x1f then .error (.misread .controlCharacter (c :: rest))
    else do
      let (more, rest) ← stringBody opening count rest
      .ok (c :: more, rest)

/-- The digits of a fraction; without one after its point there is no fraction. -/
def fraction : List Char → List Char × List Char
  | '.' :: rest =>
    match rest.takeWhile Char.isDigit with
    | [] => ([], '.' :: rest)
    | digits => (digits, rest.dropWhile Char.isDigit)
  | text => ([], text)

/-- The exponent, if it is complete. -/
def exponent? : List Char → Option (Int × List Char)
  | letter :: rest =>
    if letter = 'e' ∨ letter = 'E' then
      let (negative, unsigned) := Text.takeSign rest
      match unsigned.takeWhile Char.isDigit with
      | [] => none
      | digits =>
        let magnitude : Int := Nat.ofDigitChars 10 digits 0
        some (if negative then -magnitude else magnitude, unsigned.dropWhile Char.isDigit)
    else none
  | [] => none

/-- The digits before the point. A leading zero stands alone. -/
def wholeDigits : List Char → List Char × List Char
  | '0' :: rest => (['0'], rest)
  | text => (text.takeWhile Char.isDigit, text.dropWhile Char.isDigit)

/-- A number without its sign, as far as it goes: a whole one, unless a fraction or an exponent
follows. -/
def unsignedNumber (negative : Bool) (digits rest : List Char) : Except Stop (Json × List Char) :=
  let (decimals, rest) := fraction rest
  match decimals, exponent? rest with
  | [], none =>
    if Text.digitLimit < digits.length then .error (.tooLong digits.length)
    else
      let magnitude : Int := Nat.ofDigitChars 10 digits 0
      .ok (.int (if negative then -magnitude else magnitude), rest)
  | _, found =>
    let (exponent, rest) := found.getD (0, rest)
    let all := digits ++ decimals
    .ok (.float (Binary64.ofDecimal negative (Nat.ofDigitChars 10 all 0) all.length
      (exponent - decimals.length)), rest)

/-- A number at the head of the text. -/
def number (text : List Char) : Except Stop (Json × List Char) :=
  let (negative, unsigned) :=
    match text with
    | '-' :: rest => (true, rest)
    | _ => (false, text)
  match wholeDigits unsigned with
  | ([], _) => .error (.misread .expectingValue text)
  | (digits, rest) => unsignedNumber negative digits rest

/-- The words that stand for a value. -/
def words : List (List Char × Json) :=
  [("null".toList, .null), ("true".toList, .bool true), ("false".toList, .bool false),
   ("NaN".toList, .float .nan), ("Infinity".toList, .float (.infinite false)),
   ("-Infinity".toList, .float (.infinite true))]

/-- The word at the head of the text; what follows it does not matter. -/
def word? (text : List Char) : Option (Json × List Char) :=
  words.findSome? fun (word, json) => (word.isPrefixOf? text).map fun rest => (json, rest)

/-- A word or a number. -/
def atom (text : List Char) : Except Stop (Json × List Char) :=
  match word? text with
  | some found => .ok found
  | none => number text

/-- The items of a list from the first one on, up to the closing bracket. -/
def items (element : List Char → Except Stop (Json × List Char)) :
    Nat → List Char → Except Stop (List Json × List Char)
  | 0, text => .error (.misread .expectingValue text)
  | count + 1, text => do
    let (item, rest) ← element text
    match skipBlanks rest with
    | ']' :: rest => .ok ([item], rest)
    | ',' :: rest => do
      let (more, rest) ← items element count (skipBlanks rest)
      .ok (item :: more, rest)
    | rest => .error (.misread .expectingComma rest)

/-- The members of an object from the first one on, up to the closing brace. -/
def members (element : List Char → Except Stop (Json × List Char)) :
    Nat → List Char → Except Stop (List (String × Json) × List Char)
  | count + 1, '"' :: rest => do
    let (name, rest) ← stringBody ('"' :: rest) count rest
    match skipBlanks rest with
    | ':' :: rest => do
      let (value, rest) ← element (skipBlanks rest)
      match skipBlanks rest with
      | '}' :: rest => .ok ([(String.ofList name, value)], rest)
      | ',' :: rest => do
        let (more, rest) ← members element count (skipBlanks rest)
        .ok ((String.ofList name, value) :: more, rest)
      | rest => .error (.misread .expectingComma rest)
    | rest => .error (.misread .expectingColon rest)
  | _, text => .error (.misread .expectingName text)

/-- The value at the head of the text. A repeated key of an object keeps its first place and takes
its last value. -/
def value : Nat → List Char → Except Stop (Json × List Char)
  | 0, text => .error (.misread .expectingValue text)
  | count + 1, '"' :: rest => do
    let (characters, rest) ← stringBody ('"' :: rest) count rest
    .ok (.str (String.ofList characters), rest)
  | count + 1, '[' :: rest =>
    match skipBlanks rest with
    | ']' :: rest => .ok (.arr [], rest)
    | rest => do
      let (found, rest) ← items (value count) count rest
      .ok (.arr found, rest)
  | count + 1, '{' :: rest =>
    match skipBlanks rest with
    | '}' :: rest => .ok (.obj [], rest)
    | rest => do
      let (found, rest) ← members (value count) count rest
      .ok (.obj (Keyed.putAll [] found), rest)
  | _ + 1, text => atom text

/-- The value of a whole text, with blanks around it. -/
def document (text : List Char) : Except Stop Json :=
  match text with
  | '\ufeff' :: _ => .error (.misread .byteOrderMark text)
  | _ => do
    let (found, rest) ← value text.length (skipBlanks text)
    match skipBlanks rest with
    | [] => .ok found
    | rest => .error (.misread .extraData rest)

end Reader

/-- Why a text is no JSON. A fault has a line, a column and an offset in characters. -/
inductive SyntaxError where
  | misread (fault : Fault) (line column offset : Nat)
  | tooLong (digits : Nat)
  deriving DecidableEq

def SyntaxError.message : SyntaxError → String
  | .misread fault line column offset =>
    fault.text ++ ": line " ++ toString line ++ " column " ++ toString column ++
      " (char " ++ toString offset ++ ")"
  | .tooLong digits => Text.tooManyDigits digits

/-- Where in the text the reader stopped. -/
def Stop.locate (text : List Char) : Stop → SyntaxError
  | .misread fault left =>
    let before := text.take (text.length - left.length)
    .misread fault (before.count '\n' + 1)
      ((before.reverse.takeWhile (· ≠ '\n')).length + 1) before.length
  | .tooLong digits => .tooLong digits

/-- The value that a text spells. -/
def parse (text : String) : Except SyntaxError Json :=
  match Reader.document text.toList with
  | .ok json => .ok json
  | .error stop => .error (stop.locate text.toList)

end TileBrain.Json
