import TileBrain.Audit.Issue
import TileBrain.Suggest

/-! # Findings

The audit replays the suggestions over a rule as it stands and finds every placement that would not
have been offered. A finding is a cause; its category, severity and wording are functions of it.

The parts of the audit are separate lists, put together in the order in which they are reported:
chains without their anchors, hidden tiles, and then what is wrong in each chain.
-/

namespace TileBrain

inductive Finding where
  /-- A chain has tiles, but not the tile that they refine. -/
  | orphans (chain : Chain) (count : Nat)
  | hiddenTile (tile : Tile)
  | afterTerminal (chain : Chain) (tile : Tile) (position : Nat) (terminal : Tile)
  | illegal (chain : Chain) (tile : Tile) (position : Nat)
  /-- A category has more tiles in the chain than one of them wants. -/
  | overCount (chain : Chain) (tile : Tile) (count : Nat) (cap : Int)
  deriving DecidableEq

namespace Finding

/-- The kinds of findings. -/
inductive Category where
  | invariant
  | hidden
  | terminal
  | illegal
  | maxCount
  deriving DecidableEq

def Category.label : Category → String
  | .invariant => "invariant"
  | .hidden => "hidden"
  | .terminal => "terminal"
  | .illegal => "illegal"
  | .maxCount => "max-count"

def category : Finding → Category
  | .orphans .. => .invariant
  | .hiddenTile _ => .hidden
  | .afterTerminal .. => .terminal
  | .illegal .. => .illegal
  | .overCount .. => .maxCount

inductive Severity where
  | high
  | medium
  | low
  deriving DecidableEq

def Severity.label : Severity → String
  | .high => "high"
  | .medium => "medium"
  | .low => "low"

def severity : Finding → Severity
  | .orphans .. => .high
  | .hiddenTile _ => .low
  | .afterTerminal .. => .high
  | .illegal .. => .medium
  | .overCount .. => .low

/-- The offending tile. Leftover chains have none. -/
def tile? : Finding → Option Tile
  | .orphans .. => none
  | .hiddenTile tile => some tile
  | .afterTerminal _ tile _ _ => some tile
  | .illegal _ tile _ => some tile
  | .overCount _ tile _ _ => some tile

/-- The tile that a chain is missing, with its article. -/
def anchorName : Chain → String
  | .filters => "a sensor"
  | .modifiers => "an actuator"

def message : Finding → String
  | .orphans chain count =>
    toString count ++ " " ++ chain.label ++ "(s) placed without " ++ anchorName chain
  | .hiddenTile tile => "hidden tile " ++ tile.name.shown ++ " is placed in the rule"
  | .afterTerminal chain tile position terminal =>
    chain.label ++ " " ++ tile.name.shown ++ " at position " ++ toString position ++
      " follows terminal tile " ++ terminal.name.shown
  | .illegal chain tile position =>
    chain.label ++ " " ++ tile.name.shown ++ " at position " ++ toString position ++
      " is not allowed by the tiles before it"
  | .overCount chain tile count cap =>
    toString count ++ " " ++ chain.label ++ "(s) of category " ++ tile.category.shown ++
      ", cap is " ++ toString cap

/-- The finding with the place of its rule. -/
def toIssue (finding : Finding) (page rule : Int) : Issue Json where
  page
  rule
  category := finding.category.label
  message := finding.message
  severity := finding.severity.label
  id := finding.tile?.map Tile.id

end Finding

namespace Tile

/-- The cap that a tile sets on the number of tiles of its category. -/
def cap? (tile : Tile) : Option Int :=
  (tile.constraints.bind (·.handlingFor? Handling.maxCountKey)).bind Handling.cap?

end Tile

namespace Rule

/-- Chains whose anchor is missing. -/
def orphanFindings (rule : Rule) : List Finding :=
  [Chain.filters, Chain.modifiers].filterMap fun chain =>
    if (rule.anchor? chain).isNone && !(rule.chain chain).isEmpty then
      some (.orphans chain (rule.chain chain).length)
    else none

/-- Hidden tiles in the rule. -/
def hiddenFindings (rule : Rule) : List Finding :=
  (rule.placed.filter Tile.hidden).map .hiddenTile

/-- What is wrong with the place of one tile of a chain. A hidden tile is reported elsewhere. -/
def placementFinding? (rule : Rule) (catalog : Catalog) (chain : Chain) (tile : Tile)
    (position : Nat) : Option Finding :=
  match rule.terminalBefore? chain position with
  | some terminal => some (.afterTerminal chain tile position terminal)
  | none =>
    if tile.hidden || (catalog.offered rule chain position).any (·.id.same tile.id) then none
    else some (.illegal chain tile position)

/-- What is wrong with the places of the tiles of a chain. -/
def placementFindings (rule : Rule) (catalog : Catalog) (chain : Chain) : List Finding :=
  (rule.chain chain).zipIdx.filterMap fun (tile, position) =>
    rule.placementFinding? catalog chain tile position

/-- The number of tiles that share the category of one. -/
def countAlike (tiles : List Tile) (tile : Tile) : Nat := tiles.countP (·.sharesCategory tile)

/-- The tiles of the rest of a chain whose cap is exceeded, the first of each category that was not
reported before. -/
def overCountsFrom (chain : Chain) (all reported : List Tile) : List Tile → List Finding
  | [] => []
  | tile :: rest =>
    match tile.cap? with
    | some cap =>
      if !reported.any (·.sharesCategory tile) && cap < countAlike all tile then
        .overCount chain tile (countAlike all tile) cap ::
          overCountsFrom chain all (tile :: reported) rest
      else overCountsFrom chain all reported rest
    | none => overCountsFrom chain all reported rest

/-- The caps that a chain exceeds. -/
def overCountFindings (rule : Rule) (chain : Chain) : List Finding :=
  overCountsFrom chain (rule.chain chain) [] (rule.chain chain)

/-- What is wrong with a chain. Without its anchor it is not looked at. -/
def chainFindings (rule : Rule) (catalog : Catalog) (chain : Chain) : List Finding :=
  if (rule.anchor? chain).isNone then []
  else rule.placementFindings catalog chain ++ rule.overCountFindings chain

/-- Everything that is wrong with a rule. -/
def findings (rule : Rule) (catalog : Catalog) : List Finding :=
  rule.orphanFindings ++ rule.hiddenFindings ++
    rule.chainFindings catalog .filters ++ rule.chainFindings catalog .modifiers

end Rule

end TileBrain
