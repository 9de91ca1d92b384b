import TileBrain.Json.Display
import TileBrain.Json.Writer
import TileBrain.Text.Numeral

/-! # Issues

A finding as it is handed on and stored: where it is, what it is about, and how bad it is. Issues
are written as JSON objects and read back leniently: numbers may be given as text, and any value may
stand for a text. The identifiers that they mention may be of any type, strings if they were read.
-/

namespace TileBrain

structure Issue (ι : Type) where
  page : Int
  rule : Int
  category : String
  message : String
  severity : String
  /-- The identifier of the offending tile, when there is one. -/
  id : Option ι
  deriving DecidableEq

/-- Why a value is no issue. -/
inductive IssueFault where
  | notAMapping
  | missing (key : String)
  | badNumeral (fault : Text.NumeralFault)
  | notWhole (value : Binary64)
  | notANumber (typeName : String)

/-- What is said of a floating-point value without a whole part. -/
def IssueFault.notWholeText : Binary64 → String
  | .nan => "cannot convert float NaN to integer"
  | _ => "cannot convert float infinity to integer"

def IssueFault.message : IssueFault → String
  | .notAMapping => "an issue must be a mapping"
  | .missing key => Text.quoted key
  | .badNumeral fault => fault.message
  | .notWhole value => notWholeText value
  | .notANumber typeName => "not a number: " ++ typeName

namespace Issue

/-- The severity of an issue that states none. -/
def defaultSeverity : String := "medium"

def toJson {ι : Type} (issue : Issue ι) (idJson : ι → Json) : Json :=
  .obj [("page", .int issue.page), ("rule", .int issue.rule), ("category", .str issue.category),
    ("message", .str issue.message), ("severity", .str issue.severity),
    ("tid", match issue.id with | some id => idJson id | none => .null)]

/-- On one line, issues are written with blanks after commas and colons. -/
def layout (indent : Option Int) : Json.Layout :=
  match indent with
  | none => .spaced
  | some spaces => .lines spaces

/-- The spaces per level unless others are asked for. -/
def defaultIndent : Int := 2

def render {ι : Type} (issue : Issue ι) (idJson : ι → Json) (indent : Option Int) : String :=
  (issue.toJson idJson).render (layout indent)

/-- The whole number that a value stands for. A fraction is dropped. -/
def wholeNumber : Json → Except IssueFault Int
  | .int value => .ok value
  | .bool value => .ok (if value then 1 else 0)
  | .float value =>
    match value.truncate? with
    | some whole => .ok whole
    | none => .error (.notWhole value)
  | .str text => (Text.readInteger text).mapError .badNumeral
  | json => .error (.notANumber json.typeName)

/-- The value under a key that must be there. -/
def require (members : List (String × Json)) (key : String) : Except IssueFault Json :=
  match Keyed.get? members key with
  | some json => .ok json
  | none => .error (.missing key)

def ofMembers (members : List (String × Json)) : Except IssueFault (Issue String) := do
  let page ← wholeNumber (← require members "page")
  let rule ← wholeNumber (← require members "rule")
  let category ← require members "category"
  let message ← require members "message"
  return {
    page
    rule
    category := category.display
    message := message.display
    severity := ((Keyed.get? members "severity").getD (.str defaultSeverity)).display
    id := match Keyed.get? members "tid" with
      | none => none
      | some .null => none
      | some json => some json.display }

def ofJson : Json → Except IssueFault (Issue String)
  | .obj members => ofMembers members
  | _ => .error .notAMapping

end Issue

end TileBrain
