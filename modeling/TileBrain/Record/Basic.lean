import TileBrain.Brain
import TileBrain.Json.Writer
import TileBrain.StableSort
import TileBrain.Text.Quoted

/-! # Records

Brains as they are stored: tiles by identifier alone, under one-letter keys, with whatever is empty
left out. A brain's list of pages is always written. Records are about identifiers of any type:
those that were read hold strings, those made from a brain hold what its tiles have.
-/

namespace TileBrain

structure RuleRecord (ι : Type) where
  condition : Condition
  sensor : Option ι
  actuator : Option ι
  filters : List ι
  modifiers : List ι
  deriving DecidableEq

structure PageRecord (ι : Type) where
  rules : List (RuleRecord ι)
  deriving DecidableEq

structure BrainRecord (ι : Type) where
  pages : Pages (PageRecord ι)
  deriving DecidableEq

variable {ι : Type}

namespace RecordKey

def condition : String := "C"
def sensor : String := "S"
def actuator : String := "A"
def filters : String := "F"
def modifiers : String := "M"
def rules : String := "R"
def pages : String := "P"

end RecordKey

namespace RuleRecord

def toJson (record : RuleRecord ι) (idJson : ι → Json) : Json :=
  .obj ((if record.condition = .default then []
      else [(RecordKey.condition, .str record.condition.code)]) ++
    (record.sensor.map fun id => (RecordKey.sensor, idJson id)).toList ++
    (record.actuator.map fun id => (RecordKey.actuator, idJson id)).toList ++
    (if record.filters.isEmpty then []
      else [(RecordKey.filters, .arr (record.filters.map idJson))]) ++
    (if record.modifiers.isEmpty then []
      else [(RecordKey.modifiers, .arr (record.modifiers.map idJson))]))

end RuleRecord

namespace PageRecord

def empty : PageRecord ι := ⟨[]⟩

def toJson (record : PageRecord ι) (idJson : ι → Json) : Json :=
  .obj (if record.rules.isEmpty then []
    else [(RecordKey.rules, .arr (record.rules.map (·.toJson idJson)))])

end PageRecord

namespace BrainRecord

def ofPages (pages : List (PageRecord ι)) : Except PageCountFault (BrainRecord ι) :=
  (Pages.ofList pages).map BrainRecord.mk

def toJson (record : BrainRecord ι) (idJson : ι → Json) : Json :=
  .obj [(RecordKey.pages, .arr (record.pages.toList.map (·.toJson idJson)))]

/-- Without an indentation, brains are written as tightly as can be. -/
def layout (indent : Option Int) : Json.Layout :=
  match indent with
  | none => .compact
  | some spaces => .lines spaces

def render (record : BrainRecord ι) (idJson : ι → Json) (indent : Option Int) : String :=
  (record.toJson idJson).render (layout indent)

end BrainRecord

/-- The parts of a brain that are stored as objects. -/
inductive RecordPart where
  | brain
  | page
  | rule
  deriving DecidableEq

namespace RecordPart

def label : RecordPart → String
  | .brain => "brain"
  | .page => "page"
  | .rule => "rule"

/-- The keys that the part may have. -/
def keys : RecordPart → List String
  | .brain => [RecordKey.pages]
  | .page => [RecordKey.rules]
  | .rule => [RecordKey.condition, RecordKey.sensor, RecordKey.actuator, RecordKey.filters,
      RecordKey.modifiers]

end RecordPart

inductive RecordFault where
  | notMapping (part : RecordPart) (typeName : String)
  | unexpectedKeys (part : RecordPart) (keys : List String)
  | pagesNotList
  | pageCount (fault : PageCountFault)
  | rulesNotList (typeName : String)
  | unknownCondition (code : String)
  | conditionNotString (typeName : String)
  | idNotString (key typeName : String)
  | idsNotStrings (key : String)
  deriving DecidableEq

def RecordFault.message : RecordFault → String
  | .notMapping part typeName =>
    part.label ++ " record must be a mapping, got " ++ typeName
  | .unexpectedKeys part keys =>
    "unexpected key(s) in " ++ part.label ++ " record: " ++ String.intercalate ", " keys
  | .pagesNotList =>
    Text.quoted RecordKey.pages ++ " must be a list of " ++ toString TileBrain.pageCount ++ " pages"
  | .pageCount fault => fault.message "a brain"
  | .rulesNotList typeName =>
    Text.quoted RecordKey.rules ++ " must be a list, got " ++ typeName
  | .unknownCondition code => "unknown rule condition " ++ Text.quoted code
  | .conditionNotString typeName =>
    Text.quoted RecordKey.condition ++ " must be a string, got " ++ typeName
  | .idNotString key typeName =>
    Text.quoted key ++ " must be a tile id string, got " ++ typeName
  | .idsNotStrings key => Text.quoted key ++ " must be a list of tile id strings"

end TileBrain
