import TileBrain.Tile.Constraints

/-! # The keyed layout of constraint blocks

Blocks are written as objects that leave out whatever is empty. Reading asks for lists of strings,
for objects as selectors, and for scalars as handling values; it passes over any other key. The
layout is a JSON value, in which every key is a text: the key of a handling entry is taken as it
stands.
-/

namespace TileBrain

/-- A member, unless the list is empty. -/
def listMember (key : String) (items : List Json) : List (String × Json) :=
  if items.isEmpty then [] else [(key, .arr items)]

/-- The list of strings under a key; a missing one is empty. -/
def readStrings (members : List (String × Json)) (key : String) :
    Except ConstraintsFault (List Json) :=
  match Keyed.get? members key with
  | none => .ok []
  | some (.arr items) => if items.all Json.isString then .ok items else .error (.notStrings key)
  | some _ => .error (.notStrings key)

namespace Selector

def toJson (selector : Selector) : Json :=
  .obj (listMember "tiles" selector.tiles ++ listMember "categories" selector.categories)

def ofMembers (members : List (String × Json)) : Except ConstraintsFault Selector := do
  let tiles ← readStrings members "tiles"
  let categories ← readStrings members "categories"
  return ⟨tiles, categories⟩

/-- A member, unless the selector is empty. -/
def member (key : String) (selector : Selector) : List (String × Json) :=
  if selector.isEmpty then [] else [(key, selector.toJson)]

end Selector

namespace Handling

/-- The entry for a key and a value as written. -/
def ofJson (key : String) (value : Json) : Except ConstraintsFault Handling :=
  if value.isScalar then .ok (ofValue key value) else .error (.notScalar key value.typeName)

end Handling

namespace Constraints

def toJson (constraints : Constraints) : Json :=
  .obj (listMember "provides" constraints.provides ++
    listMember "requires" constraints.requires ++
    constraints.allow.member "allow" ++
    constraints.disallow.member "disallow" ++
    (if constraints.handling.isEmpty then []
      else [("handling", .obj (constraints.handling.map fun entry =>
        (entry.key, entry.value)))]))

/-- The members of the object under a key; a missing one is empty. -/
def readMembers (members : List (String × Json)) (key : String) (fault : ConstraintsFault) :
    Except ConstraintsFault (List (String × Json)) :=
  match Keyed.get? members key with
  | none => .ok []
  | some (.obj inner) => .ok inner
  | some _ => .error fault

def ofMembers (members : List (String × Json)) : Except ConstraintsFault Constraints := do
  let allow ← readMembers members "allow" .selectorNotMapping
  let disallow ← readMembers members "disallow" .selectorNotMapping
  let handling ← readMembers members "handling" .handlingNotMapping
  let provides ← readStrings members "provides"
  let requires ← readStrings members "requires"
  let allow ← Selector.ofMembers allow
  let disallow ← Selector.ofMembers disallow
  let handling ← handling.mapM fun (key, value) => Handling.ofJson key value
  ofParts provides requires allow disallow handling

def ofJson : Json → Except ConstraintsFault Constraints
  | .obj members => ofMembers members
  | _ => .error .notAMapping

end Constraints

end TileBrain
