import TileBrain.Json.Display
import TileBrain.Tile.Basic
import TileBrain.Tile.ConstraintsLayout

/-! # Tile definitions

A definition is an object that names its kind and leaves out what is at its default, the phase of a
sensor and the priority of a filter or a modifier excepted. Of its fields, only the constraints and
the phase have to be of a certain form.
-/

namespace TileBrain

/-- Why an object defines no tile. -/
inductive TileFault where
  | constraints (fault : ConstraintsFault)
  | unknownPhase (value : Json)
  /-- A field is missing, or does not belong to the kind. -/
  | illFormed

def TileFault.message : TileFault → String
  | .constraints fault => fault.message
  | .unknownPhase value => value.shown ++ " is not a valid SensorPhase"
  | .illFormed => "ill-formed tile definition"

namespace Tile

/-- A member, unless the value is null. -/
def member (key : String) : Json → List (String × Json)
  | .null => []
  | value => [(key, value)]

def toJson (tile : Tile) : Json :=
  .obj ([("kind", .str tile.kind.label), ("tid", tile.id), ("name", tile.name)] ++
    member "weight" tile.weight ++
    (if tile.hidden then [("hidden", .bool true)] else []) ++
    member "category" tile.category ++
    (tile.constraints.map fun constraints => ("constraints", constraints.toJson)).toList ++
    (match tile.role with
      | .sensor phase => [("phase", .str phase.label)]
      | .filter priority => [("priority", priority)]
      | .actuator => []
      | .modifier priority => [("priority", priority)]))

/-- The fields that the definitions of a kind may have. -/
def fieldsOf (kind : TileKind) : List String :=
  ["kind", "tid", "name", "weight", "hidden", "category", "constraints"] ++
    match kind with
    | .sensor => ["phase"]
    | .filter => ["priority"]
    | .actuator => []
    | .modifier => ["priority"]

/-- The fields that the definitions of a kind must have. -/
def requiredOf (kind : TileKind) : List String :=
  ["tid", "name"] ++
    match kind with
    | .sensor => []
    | .filter => ["category"]
    | .actuator => []
    | .modifier => ["category"]

def readConstraints (members : List (String × Json)) :
    Except TileFault (Option Constraints) :=
  match Keyed.get? members "constraints" with
  | none => .ok none
  | some .null => .ok none
  | some json =>
    match Constraints.ofJson json with
    | .ok constraints => .ok (some constraints)
    | .error fault => .error (.constraints fault)

def readPhase (members : List (String × Json)) : Except TileFault Phase :=
  match Keyed.get? members "phase" with
  | none => .ok .pre
  | some json =>
    match json.str?.bind Phase.ofLabel? with
    | some phase => .ok phase
    | none => .error (.unknownPhase json)

def readKind (members : List (String × Json)) : Except TileFault TileKind :=
  match ((Keyed.get? members "kind").bind Json.str?).bind TileKind.ofLabel? with
  | some kind => .ok kind
  | none => .error .illFormed

/-- What the definition of a kind says of it alone. -/
def roleOf (phase : Phase) (priority : Json) : TileKind → Role
  | .sensor => .sensor phase
  | .filter => .filter priority
  | .actuator => .actuator
  | .modifier => .modifier priority

/-- The tile that an object defines. Faults of the constraints come first, then the phase. -/
def ofMembers (members : List (String × Json)) : Except TileFault Tile := do
  let constraints ← readConstraints members
  let phase ← readPhase members
  let kind ← readKind members
  let keys := Keyed.keys members
  let value (key : String) (absent : Json) : Json := (Keyed.get? members key).getD absent
  if keys.all (fieldsOf kind).contains ∧ (requiredOf kind).all keys.contains then
    return {
      id := value "tid" .null
      name := value "name" .null
      weight := value "weight" .null
      hidden := (value "hidden" .null).isTruthy
      category := value "category" .null
      constraints
      role := roleOf phase (value "priority" (.int defaultPriority)) kind }
  else throw .illFormed

def ofJson : Json → Except TileFault Tile
  | .obj members => ofMembers members
  | _ => .error .illFormed

end Tile

end TileBrain
