import TileBrain.Json.Display
import TileBrain.Tile.Basic

/-! # Rules

A rule says what to do when something is detected: a sensor refined by filters, and an actuator
refined by modifiers. Filters mean nothing without a sensor, nor modifiers without an actuator;
`Rule.repair` drops such leftovers, and `Rule.Anchored` says that there are none.

The two halves are treated alike: a `Chain` stands for either, and most definitions and lemmas are
about any chain.
-/

namespace TileBrain

/-- A hint for the reordering of rules. -/
inductive Condition where
  | default
  | high
  | low
  | highToLow
  | lowToHigh
  deriving DecidableEq

namespace Condition

def all : List Condition := [.default, .high, .low, .highToLow, .lowToHigh]

/-- The code by which a stored rule names its condition. -/
def code : Condition → String
  | .default => "RC0"
  | .high => "RC1"
  | .low => "RC2"
  | .highToLow => "RC3"
  | .lowToHigh => "RC4"

def label : Condition → String
  | .default => "DEFAULT"
  | .high => "HIGH"
  | .low => "LOW"
  | .highToLow => "HIGH_TO_LOW"
  | .lowToHigh => "LOW_TO_HIGH"

def ofCode? (text : String) : Option Condition := all.find? (·.code = text)

@[simp] theorem ofCode?_code (condition : Condition) : ofCode? condition.code = some condition := by
  cases condition <;> decide

theorem ofCode?_eq_some_iff {text : String} {condition : Condition} :
    ofCode? text = some condition ↔ text = condition.code := by
  constructor
  · intro found
    have same : condition.code = text := by simpa using List.find?_some found
    exact same.symm
  · rintro rfl
    exact ofCode?_code condition

end Condition

/-- The two rows of a rule that tiles are appended to. -/
inductive Chain where
  | filters
  | modifiers
  deriving DecidableEq

namespace Chain

/-- The kind of the tiles in the chain. -/
def kind : Chain → TileKind
  | .filters => .filter
  | .modifiers => .modifier

/-- The kind of the tile that the chain refines. -/
def anchorKind : Chain → TileKind
  | .filters => .sensor
  | .modifiers => .actuator

def label (chain : Chain) : String := chain.kind.label

end Chain

structure Rule where
  condition : Condition
  sensor : Option Tile
  filters : List Tile
  actuator : Option Tile
  modifiers : List Tile
  deriving DecidableEq

namespace Rule

def empty : Rule := ⟨.default, none, [], none, []⟩

/-- The tiles of a chain. -/
def chain (rule : Rule) : Chain → List Tile
  | .filters => rule.filters
  | .modifiers => rule.modifiers

/-- The tile that a chain refines. -/
def anchor? (rule : Rule) : Chain → Option Tile
  | .filters => rule.sensor
  | .modifiers => rule.actuator

/-- The rule with the tile replaced that a chain refines. -/
def withAnchor (rule : Rule) (tile : Option Tile) : Chain → Rule
  | .filters => { rule with sensor := tile }
  | .modifiers => { rule with actuator := tile }

/-- The tiles that count before a chain: a modifier also depends on the sensor. -/
def before (rule : Rule) : Chain → List Tile
  | .filters => rule.sensor.toList
  | .modifiers => rule.actuator.toList ++ rule.sensor.toList

/-- The rule with a chain replaced. -/
def withChain (rule : Rule) (tiles : List Tile) : Chain → Rule
  | .filters => { rule with filters := tiles }
  | .modifiers => { rule with modifiers := tiles }

/-- The rule with a tile at the end of a chain. -/
def append (rule : Rule) (chain : Chain) (tile : Tile) : Rule :=
  rule.withChain (rule.chain chain ++ [tile]) chain

@[simp] theorem chain_withChain (rule : Rule) (tiles : List Tile) (chain : Chain) :
    (rule.withChain tiles chain).chain chain = tiles := by
  cases chain <;> rfl

@[simp] theorem withChain_chain (rule : Rule) (chain : Chain) :
    rule.withChain (rule.chain chain) chain = rule := by
  cases chain <;> rfl

@[simp] theorem withChain_withChain (rule : Rule) (tiles others : List Tile) (chain : Chain) :
    (rule.withChain tiles chain).withChain others chain = rule.withChain others chain := by
  cases chain <;> rfl

/-- Another chain stays as it is. -/
theorem chain_withChain_of_ne (rule : Rule) (tiles : List Tile) {chain other : Chain}
    (differs : other ≠ chain) : (rule.withChain tiles chain).chain other = rule.chain other := by
  cases chain with
  | filters =>
    cases other with
    | filters => exact absurd rfl differs
    | modifiers => rfl
  | modifiers =>
    cases other with
    | filters => rfl
    | modifiers => exact absurd rfl differs

@[simp] theorem anchor?_withChain (rule : Rule) (tiles : List Tile) (chain other : Chain) :
    (rule.withChain tiles chain).anchor? other = rule.anchor? other := by
  cases chain <;> cases other <;> rfl

@[simp] theorem before_withChain (rule : Rule) (tiles : List Tile) (chain other : Chain) :
    (rule.withChain tiles chain).before other = rule.before other := by
  cases chain <;> cases other <;> rfl

@[simp] theorem anchor?_withAnchor (rule : Rule) (anchor : Option Tile) (chain : Chain) :
    (rule.withAnchor anchor chain).anchor? chain = anchor := by
  cases chain <;> rfl

/-- Another anchor stays as it is. -/
theorem anchor?_withAnchor_of_ne (rule : Rule) (anchor : Option Tile) {chain another : Chain}
    (differs : another ≠ chain) :
    (rule.withAnchor anchor chain).anchor? another = rule.anchor? another := by
  cases chain with
  | filters =>
    cases another with
    | filters => exact absurd rfl differs
    | modifiers => rfl
  | modifiers =>
    cases another with
    | filters => rfl
    | modifiers => exact absurd rfl differs

@[simp] theorem chain_withAnchor (rule : Rule) (anchor : Option Tile) (chain another : Chain) :
    (rule.withAnchor anchor chain).chain another = rule.chain another := by
  cases chain <;> cases another <;> rfl

theorem chain_append (rule : Rule) (chain : Chain) (tile : Tile) :
    (rule.append chain tile).chain chain = rule.chain chain ++ [tile] :=
  rule.chain_withChain _ chain

/-- Every tile in the rule, the sensor and the actuator first. -/
def placed (rule : Rule) : List Tile :=
  rule.sensor.toList ++ rule.actuator.toList ++ rule.filters ++ rule.modifiers

/-- Leftover filters or modifiers do not count. -/
def isEmpty (rule : Rule) : Bool := rule.sensor.isNone && rule.actuator.isNone

/-- Each chain is empty or refines a tile. -/
def Anchored (rule : Rule) : Prop :=
  ∀ chain, rule.anchor? chain = none → rule.chain chain = []

/-- Drops filters without a sensor and modifiers without an actuator. -/
def repair (rule : Rule) : Rule :=
  { rule with
    filters := if rule.sensor.isNone then [] else rule.filters
    modifiers := if rule.actuator.isNone then [] else rule.modifiers }

theorem anchor?_repair (rule : Rule) (chain : Chain) :
    rule.repair.anchor? chain = rule.anchor? chain := by
  cases chain <;> rfl

theorem chain_repair (rule : Rule) (chain : Chain) :
    rule.repair.chain chain = if (rule.anchor? chain).isNone then [] else rule.chain chain := by
  cases chain <;> rfl

theorem isEmpty_repair (rule : Rule) : rule.repair.isEmpty = rule.isEmpty := rfl

theorem anchored_repair (rule : Rule) : rule.repair.Anchored := by
  intro chain missing
  rw [anchor?_repair] at missing
  rw [chain_repair, missing]
  rfl

theorem repair_eq_self {rule : Rule} (anchored : rule.Anchored) : rule.repair = rule := by
  have filters := anchored .filters
  have modifiers := anchored .modifiers
  obtain ⟨condition, sensor, filterTiles, actuator, modifierTiles⟩ := rule
  cases sensor <;> cases actuator <;> simp_all [repair, anchor?, Rule.chain]

/-- The names of tiles, or a dash where there is nothing to read. -/
def namesOf (tiles : List Tile) : String :=
  let names := String.intercalate " " (tiles.map (·.name.display))
  if names.isEmpty then "-" else names

/-- The rule as a sentence. -/
def display (rule : Rule) : String :=
  "WHEN " ++ namesOf (rule.sensor.toList ++ rule.filters) ++
    " DO " ++ namesOf (rule.actuator.toList ++ rule.modifiers)

/-- The rule as a sentence, provided that all its tiles have strings as names. -/
def sentence (rule : Rule) : Except Misfit String :=
  if rule.placed.all (·.name.isString) then .ok rule.display else .error .name

end Rule

end TileBrain
