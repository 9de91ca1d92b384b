import TileBrain.Json.Basic
import TileBrain.Number.Decimal
import TileBrain.Text.Quoted

/-! # Writing JSON

Values are written with ASCII characters alone, on one line or with every item on a line of its
own. All that a layout decides is in one record.

A character beyond ASCII is written by number, as one unit of 16 bits or as two; control characters
have letters of their own or are written by number as well.
-/

namespace TileBrain.Json

/-- How a value is laid out. -/
structure Layout where
  /-- The spaces per level when every item has a line of its own; none or fewer mean no spaces. -/
  indent : Option Int
  comma : List Char
  colon : List Char

namespace Layout

/-- One line without a blank. -/
def compact : Layout := ⟨none, [','], [':']⟩

/-- One line with a blank after each comma and colon. -/
def spaced : Layout := ⟨none, [',', ' '], [':', ' ']⟩

/-- A line for each item. -/
def lines (indent : Int) : Layout := ⟨some indent, [','], [':', ' ']⟩

/-- The line break in front of an item at a depth. -/
def lineBreak (layout : Layout) (depth : Nat) : List Char :=
  match layout.indent with
  | none => []
  | some indent => '\n' :: List.replicate (indent.toNat * depth) ' '

end Layout

/-- A 16-bit unit as an escape. -/
def escapedUnit (unit : Nat) : List Char := '\\' :: 'u' :: Text.hexadecimal 4 unit

/-- A character inside a string. Beyond ASCII it is one 16-bit unit, or two. -/
def escapedChar (c : Char) : List Char :=
  if c = '"' ∨ c = '\\' then ['\\', c]
  else if c = '\n' then ['\\', 'n']
  else if c = '\r' then ['\\', 'r']
  else if c = '\t' then ['\\', 't']
  else if c = '\x08' then ['\\', 'b']
  else if c = '\x0c' then ['\\', 'f']
  else if 0x20 ≤ c.toNat ∧ c.toNat ≤ 0x7e then [c]
  else if c.toNat < 0x10000 then escapedUnit c.toNat
  else
    escapedUnit (0xd800 + (c.toNat - 0x10000) / 0x400) ++
      escapedUnit (0xdc00 + (c.toNat - 0x10000) % 0x400)

/-- A string between its quotes. -/
def writeString (text : String) : List Char :=
  '"' :: (text.toList.flatMap escapedChar ++ ['"'])

/-- A whole number in decimal digits. -/
def writeInt (value : Int) : List Char :=
  if value < 0 then '-' :: Nat.toDigits 10 value.natAbs else Nat.toDigits 10 value.natAbs

/-- Floating-point numbers are written as in messages, but for the names of the special ones. -/
def numberLayout : DecimalLayout :=
  { DecimalLayout.plain with nan := "NaN", infinity := "Infinity" }

mutual
/-- The characters of a value whose own line is at the given depth. -/
def write (layout : Layout) (depth : Nat) : Json → List Char
  | .null => "null".toList
  | .bool true => "true".toList
  | .bool false => "false".toList
  | .int value => writeInt value
  | .float value => (numberLayout.text value).toList
  | .str text => writeString text
  | .arr [] => ['[', ']']
  | .arr (item :: rest) =>
    '[' :: (layout.lineBreak (depth + 1) ++ write layout (depth + 1) item ++
      writeItems layout (depth + 1) rest ++ layout.lineBreak depth ++ [']'])
  | .obj [] => ['{', '}']
  | .obj (member :: rest) =>
    '{' :: (layout.lineBreak (depth + 1) ++ writeString member.1 ++ layout.colon ++
      write layout (depth + 1) member.2 ++
      writeMembers layout (depth + 1) rest ++ layout.lineBreak depth ++ ['}'])

/-- The items after the first, each behind its comma. -/
def writeItems (layout : Layout) (depth : Nat) : List Json → List Char
  | [] => []
  | item :: rest =>
    layout.comma ++ layout.lineBreak depth ++ write layout depth item ++
      writeItems layout depth rest

/-- The members after the first, each behind its comma. -/
def writeMembers (layout : Layout) (depth : Nat) : List (String × Json) → List Char
  | [] => []
  | member :: rest =>
    layout.comma ++ layout.lineBreak depth ++ writeString member.1 ++ layout.colon ++
      write layout depth member.2 ++ writeMembers layout depth rest
end

/-- The text of a value. -/
def render (layout : Layout) (json : Json) : String := String.ofList (write layout 0 json)

end TileBrain.Json
