import TileBrain.Json.Basic
import TileBrain.Number.Decimal
import TileBrain.Text.Quoted

/-! # JSON values in messages

How a value reads in running text: a string stands for itself, but is quoted inside a list or an
object.

Floating-point numbers show the fewest digits that tell them apart, and words stand for null and the
flags. No text of this kind is ever read again.
-/

namespace TileBrain.Json

mutual
/-- A value as an item of a list or an object. -/
def shown : Json → String
  | .null => "None"
  | .bool true => "True"
  | .bool false => "False"
  | .int value => toString value
  | .float value => DecimalLayout.plain.text value
  | .str text => Text.quoted text
  | .arr items => "[" ++ String.intercalate ", " (shownItems items) ++ "]"
  | .obj members => "\x7b" ++ String.intercalate ", " (shownMembers members) ++ "\x7d"

def shownItems : List Json → List String
  | [] => []
  | item :: rest => shown item :: shownItems rest

def shownMembers : List (String × Json) → List String
  | [] => []
  | member :: rest => (Text.quoted member.1 ++ ": " ++ shown member.2) :: shownMembers rest
end

/-- A value in running text. -/
def display : Json → String
  | .str text => text
  | json => shown json

end TileBrain.Json
