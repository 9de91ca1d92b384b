import TileBrain.Notice

/-! # From records to brains

Every identifier of a record is looked up among the tiles of its own kind. What happens to one that
has no tile is the caller's choice: it is an error, or it alone is dropped, or its whole rule is.
Nothing is dropped without a notice.
-/

namespace TileBrain

/-- What becomes of an identifier without a tile. -/
inductive Policy where
  | raise
  | dropTile
  | dropRule
  deriving DecidableEq

namespace Policy

def all : List Policy := [.raise, .dropTile, .dropRule]

def label : Policy → String
  | .raise => "raise"
  | .dropTile => "drop_tile"
  | .dropRule => "drop_rule"

def ofLabel? (text : String) : Option Policy := all.find? (·.label = text)

end Policy

/-- What is reported when a rule is repaired. -/
def Rule.repairNotices (rule : Rule) : List Notice :=
  [Chain.filters, Chain.modifiers].filterMap fun chain =>
    if (rule.anchor? chain).isNone && !(rule.chain chain).isEmpty then
      some (.cleared chain (rule.chain chain).length)
    else none

/-- What is reported when a brain is repaired. -/
def Brain.repairNotices (brain : Brain) : List Notice :=
  brain.pages.toList.flatMap fun page => page.rules.flatMap Rule.repairNotices

/-- An identifier without a tile that its rule cannot do without. -/
inductive Halt where
  /-- Decoding ends. -/
  | raised (missing : Unresolved)
  /-- The rule is left out of its page. -/
  | dropped (missing : Unresolved)
  deriving DecidableEq

def Halt.missing : Halt → Unresolved
  | .raised missing => missing
  | .dropped missing => missing

namespace Policy

/-- Meets an identifier without a tile. Only the policy that drops tiles goes on. -/
def meet : Policy → Unresolved → Reported Halt Unit
  | .raise, missing => .fail (.raised missing)
  | .dropTile, missing => .note [.droppedTile missing]
  | .dropRule, missing => do
    .note [.droppedRule missing]
    .fail (.dropped missing)

/-- The end of a rule's resolution. A rule that may have lost tiles is repaired. -/
def finish : Policy → Rule → Reported Halt Rule
  | .dropTile, rule => do
    .note rule.repairNotices
    pure rule.repair
  | _, rule => pure rule

/-- A rule on its own cannot be dropped from anything, so that policy raises as well. -/
def alone : Policy → Policy
  | .dropRule => .raise
  | policy => policy

end Policy

namespace Catalog

variable (catalog : Catalog) (policy : Policy) (kind : TileKind)

/-- The tile for an identifier. There is none if the policy goes on without. -/
def resolve (id : String) : Reported Halt (Option Tile) :=
  match catalog.lookup kind (.str id) with
  | .ok tile => pure (some tile)
  | .error missing => do
    policy.meet missing
    pure none

/-- The tile for a slot, which may be empty. -/
def resolveSlot : Option String → Reported Halt (Option Tile)
  | none => pure none
  | some id => catalog.resolve policy kind id

/-- The tiles for a chain, which closes up where there is none. -/
def resolveChain (ids : List String) : Reported Halt (List Tile) := do
  let tiles ← ids.mapM (catalog.resolve policy kind)
  pure (tiles.filterMap id)

end Catalog

namespace RuleRecord

/-- The rule of a record, whose identifiers are resolved one after another: the sensor, the
actuator, the filters and the modifiers. -/
def resolve (record : RuleRecord String) (catalog : Catalog) (policy : Policy) :
    Reported Halt Rule := do
  let sensor ← catalog.resolveSlot policy .sensor record.sensor
  let actuator ← catalog.resolveSlot policy .actuator record.actuator
  let filters ← catalog.resolveChain policy .filter record.filters
  let modifiers ← catalog.resolveChain policy .modifier record.modifiers
  policy.finish { condition := record.condition, sensor, filters, actuator, modifiers }

/-- The rule within a page, or nothing if it is dropped. -/
def resolveUnder (record : RuleRecord String) (catalog : Catalog) (policy : Policy) :
    Reported Unresolved (Option Rule) :=
  let resolved := record.resolve catalog policy
  match resolved.outcome with
  | .ok rule => ⟨resolved.notices, .ok (some rule)⟩
  | .error (.dropped _) => ⟨resolved.notices, .ok none⟩
  | .error (.raised missing) => ⟨resolved.notices, .error missing⟩

/-- The rule on its own. -/
def resolveAlone (record : RuleRecord String) (catalog : Catalog) (policy : Policy) :
    Reported Unresolved Rule :=
  (record.resolve catalog policy.alone).mapError Halt.missing

end RuleRecord

def PageRecord.resolveUnder (record : PageRecord String) (catalog : Catalog) (policy : Policy) :
    Reported Unresolved Page := do
  let rules ← record.rules.mapM fun rule => rule.resolveUnder catalog policy
  pure ⟨rules.filterMap id⟩

def BrainRecord.resolveUnder (record : BrainRecord String) (catalog : Catalog) (policy : Policy) :
    Reported Unresolved Brain := do
  let pages ← record.pages.mapM fun page => page.resolveUnder catalog policy
  pure ⟨pages⟩

end TileBrain
