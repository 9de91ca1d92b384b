import TileBrain.Notice
import TileBrain.Tile.Accumulated

/-! # Suggestions

Which tiles may be placed next. A sensor or an actuator can always be exchanged, so every visible
one is offered. At a position of a chain, the tiles in front of it and those before the chain narrow
the choice, and behind a terminal tile there is none.
-/

namespace TileBrain

namespace Tile

/-- Whether accumulated constraints admit a tile: one of the capabilities it asks for is there, its
category or identifier is allowed, and neither is disallowed. -/
def isCompatible (tile : Tile) (set : Accumulated) : Bool :=
  (tile.requires.isEmpty || tile.requires.any (·.isAmong set.provides)) &&
  (tile.category.isAmong set.allowCategories || tile.id.isAmong set.allowTiles) &&
  !tile.category.isAmong set.disallowCategories &&
  !tile.id.isAmong set.disallowTiles

end Tile

namespace Accumulated

/-- What a sequence of tiles says together; tiles without constraints say nothing. -/
def ofTiles (tiles : List Tile) : Accumulated := empty.mergeAll (tiles.filterMap Tile.constraints)

end Accumulated

namespace Rule

/-- The number of elements in front of an index that counts from the end when it is negative. -/
def countBefore (index : Int) (length : Nat) : Nat :=
  if 0 ≤ index then min index.toNat length else (length + index).toNat

/-- The tiles whose constraints hold at a position of a chain. -/
def ahead (rule : Rule) (chain : Chain) (position : Nat) : List Tile :=
  rule.before chain ++ (rule.chain chain).take position

/-- The constraints at a position of a chain. -/
def accumulated (rule : Rule) (chain : Chain) (position : Nat) : Accumulated :=
  .ofTiles (rule.ahead chain position)

/-- The terminal tile right in front of a position, if there is one. -/
def terminalBefore? (rule : Rule) (chain : Chain) (position : Nat) : Option Tile :=
  match position with
  | 0 => none
  | last + 1 => (rule.chain chain)[last]?.filter Tile.isTerminal

end Rule

/-- A chain was asked about a position that it does not have. -/
structure OutOfRange where
  chain : Chain
  index : Int
  length : Nat
  deriving DecidableEq

def OutOfRange.message (fault : OutOfRange) : String :=
  fault.chain.label ++ " index " ++ toString fault.index ++ " out of range for chain of " ++
    toString fault.length

/-- Why nothing can be suggested, not even that there is nothing. -/
inductive SuggestError where
  | outOfRange (fault : OutOfRange)
  | misfit (cause : Misfit)
  deriving DecidableEq

def SuggestError.message : SuggestError → String
  | .outOfRange fault => fault.message
  | .misfit cause => cause.message

namespace Catalog

/-- The candidates that accumulated constraints admit, in their order. -/
def compatible (catalog : Catalog) (kind : TileKind) (set : Accumulated) : List Tile :=
  (catalog.candidates kind).filter (·.isCompatible set)

/-- What is offered at a position of a chain, without a look at its length. -/
def offered (catalog : Catalog) (rule : Rule) (chain : Chain) (position : Nat) : List Tile :=
  match rule.terminalBefore? chain position with
  | some _ => []
  | none => catalog.compatible chain.kind (rule.accumulated chain position)

/-- What is reported when a position is asked about. -/
def suggestNotice (catalog : Catalog) (rule : Rule) (chain : Chain) (position : Nat) : Notice :=
  match rule.terminalBefore? chain position with
  | some tile => .chainEnded chain tile.id
  | none => .suggested chain position (catalog.offered rule chain position).length

/-- What is offered at a position, with its notice. Unless the chain has ended there, the candidates
have to have an order. -/
def suggestAt (catalog : Catalog) (rule : Rule) (chain : Chain) (position : Nat) :
    Reported Misfit (List Tile) :=
  if (rule.terminalBefore? chain position).isSome || catalog.isRankable chain.kind then
    ⟨[catalog.suggestNotice rule chain position], .ok (catalog.offered rule chain position)⟩
  else .fail .weights

/-- What may be placed at an index of a chain: at its length to append, below it to replace. An
index out of range reports nothing. -/
def suggest (catalog : Catalog) (rule : Rule) (chain : Chain) (index : Int) :
    Reported SuggestError (List Tile) :=
  if 0 ≤ index ∧ index ≤ (rule.chain chain).length then
    (catalog.suggestAt rule chain index.toNat).mapError .misfit
  else .fail (.outOfRange ⟨chain, index, (rule.chain chain).length⟩)

/-- What a chain may refine: a sensor or an actuator can always be exchanged. -/
def suggestAnchors (catalog : Catalog) (chain : Chain) : Except Misfit (List Tile) :=
  catalog.rank chain.anchorKind

/-- An offered tile is visible, of the kind of the chain, and admitted by the tiles ahead. -/
theorem mem_offered {catalog : Catalog} {rule : Rule} {chain : Chain} {position : Nat}
    {tile : Tile} :
    tile ∈ catalog.offered rule chain position ↔
      rule.terminalBefore? chain position = none ∧ tile ∈ catalog.candidates chain.kind ∧
        tile.isCompatible (rule.accumulated chain position) = true := by
  unfold offered
  split
  next found => simp [found]
  next missing => simp [missing, compatible]

end Catalog

end TileBrain
