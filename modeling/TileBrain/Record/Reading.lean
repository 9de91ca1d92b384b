import TileBrain.Notice

/-! # Reading records

Strict reading refuses a record at its first fault. Lenient reading takes every faulty part as
absent, reports the fault, and always succeeds. Both are one function, so that a fault is the same
fault in either mode.

Faults come in the order in which the parts are looked at: what the value is, which keys it has, and
then each field. Keys that belong nowhere are a fault, and are passed over by lenient reading.
-/

namespace TileBrain

/-- What a fault in a record leads to. -/
inductive Mode where
  | strict
  | lenient
  deriving DecidableEq

namespace Record

variable {α : Type}

/-- A fault: an end in strict mode, otherwise a notice and a substitute. -/
def reject (mode : Mode) (fault : RecordFault) (substitute : α) : Reported RecordFault α :=
  match mode with
  | .strict => .fail fault
  | .lenient => ⟨[.recovered fault], .ok substitute⟩

@[simp] theorem reject_strict (fault : RecordFault) (substitute : α) :
    reject .strict fault substitute = ⟨[], .error fault⟩ := rfl

@[simp] theorem reject_lenient (fault : RecordFault) (substitute : α) :
    reject .lenient fault substitute = ⟨[.recovered fault], .ok substitute⟩ := rfl

/-- The members of a part, which has to be an object. -/
def readMapping (mode : Mode) (part : RecordPart) :
    Json → Reported RecordFault (List (String × Json))
  | .obj members => pure members
  | json => reject mode (.notMapping part json.typeName) []

/-- The keys that do not belong to a part, in the order of their characters. -/
def unexpectedKeys (part : RecordPart) (members : List (String × Json)) : List String :=
  StableSort.sort (fun a b => a ≤ b)
    ((Keyed.keys members).filter fun key => !part.keys.contains key)

def checkKeys (mode : Mode) (part : RecordPart) (members : List (String × Json)) :
    Reported RecordFault Unit :=
  match unexpectedKeys part members with
  | [] => pure ()
  | keys => reject mode (.unexpectedKeys part keys) ()

def readCondition (mode : Mode) : Option Json → Reported RecordFault Condition
  | none => pure .default
  | some (.str code) =>
    match Condition.ofCode? code with
    | some condition => pure condition
    | none => reject mode (.unknownCondition code) .default
  | some json => reject mode (.conditionNotString json.typeName) .default

def readId (mode : Mode) (key : String) : Option Json → Reported RecordFault (Option String)
  | none => pure none
  | some (.str id) => pure (some id)
  | some json => reject mode (.idNotString key json.typeName) none

def readIds (mode : Mode) (key : String) : Option Json → Reported RecordFault (List String)
  | none => pure []
  | some json =>
    match json.strings? with
    | some ids => pure ids
    | none => reject mode (.idsNotStrings key) []

end Record

open Record

def RuleRecord.read (mode : Mode) (json : Json) : Reported RecordFault (RuleRecord String) := do
  let members ← readMapping mode .rule json
  checkKeys mode .rule members
  let condition ← readCondition mode (Keyed.get? members RecordKey.condition)
  let sensor ← readId mode RecordKey.sensor (Keyed.get? members RecordKey.sensor)
  let actuator ← readId mode RecordKey.actuator (Keyed.get? members RecordKey.actuator)
  let filters ← readIds mode RecordKey.filters (Keyed.get? members RecordKey.filters)
  let modifiers ← readIds mode RecordKey.modifiers (Keyed.get? members RecordKey.modifiers)
  pure { condition, sensor, actuator, filters, modifiers }

def PageRecord.read (mode : Mode) (json : Json) : Reported RecordFault (PageRecord String) := do
  let members ← readMapping mode .page json
  checkKeys mode .page members
  match Keyed.get? members RecordKey.rules with
  | none => pure .empty
  | some (.arr items) => do
    let rules ← items.mapM (RuleRecord.read mode)
    pure ⟨rules⟩
  | some json => reject mode (.rulesNotList json.typeName) .empty

/-- The raw pages of a brain; not even an empty list may be left out. -/
def Record.readPages (mode : Mode) : Option Json → Reported RecordFault (List Json)
  | some (.arr items) => pure items
  | _ => reject mode .pagesNotList []

/-- Cuts or fills the raw pages to their number. -/
def Record.fitPages (mode : Mode) (pages : List Json) : Reported RecordFault (Pages Json) :=
  match Pages.ofList pages with
  | .ok pages => pure pages
  | .error fault => reject mode (.pageCount fault) (Pages.fit (.obj []) pages)

def BrainRecord.read (mode : Mode) (json : Json) : Reported RecordFault (BrainRecord String) := do
  let members ← readMapping mode .brain json
  checkKeys mode .brain members
  let raw ← readPages mode (Keyed.get? members RecordKey.pages)
  let raw ← fitPages mode raw
  let pages ← raw.mapM (PageRecord.read mode)
  pure ⟨pages⟩

end TileBrain
