import TileBrain.Tile.Constraints

/-! # Accumulated constraints

What the tiles already placed in a rule say together. Lists grow and are never thinned out; of the
handling entries under one key the latest counts.

Merging is a fold over the tiles, in the order in which they were placed. What counts at a position
of a chain is computed afresh from the tiles ahead of it, so that nothing needs to be undone.
-/

namespace TileBrain

structure Accumulated where
  provides : List Json
  requires : List Json
  allowTiles : List Json
  allowCategories : List Json
  disallowTiles : List Json
  disallowCategories : List Json
  handling : List (String × Handling)
  deriving DecidableEq

namespace Accumulated

/-- Before the first tile. -/
def empty : Accumulated := ⟨[], [], [], [], [], [], []⟩

/-- Adds what one block says. -/
def merge (set : Accumulated) (block : Constraints) : Accumulated where
  provides := set.provides ++ block.provides
  requires := set.requires ++ block.requires
  allowTiles := set.allowTiles ++ block.allow.tiles
  allowCategories := set.allowCategories ++ block.allow.categories
  disallowTiles := set.disallowTiles ++ block.disallow.tiles
  disallowCategories := set.disallowCategories ++ block.disallow.categories
  handling := Keyed.putAll set.handling (block.handling.map fun entry => (entry.key, entry))

/-- Adds what a sequence of blocks says. -/
def mergeAll (set : Accumulated) (blocks : List Constraints) : Accumulated :=
  blocks.foldl merge set

/-- Merging composes at every cut of the sequence. -/
theorem mergeAll_append (set : Accumulated) (blocks more : List Constraints) :
    set.mergeAll (blocks ++ more) = (set.mergeAll blocks).mergeAll more := by
  simp only [mergeAll, List.foldl_append]

/-- A list that every block adds to ends up as the concatenation of what the blocks have there. -/
theorem gathered_mergeAll (list : Accumulated → List Json) (part : Constraints → List Json)
    (merges : ∀ set block, list (set.merge block) = list set ++ part block)
    (set : Accumulated) (blocks : List Constraints) :
    list (set.mergeAll blocks) = list set ++ blocks.flatMap part := by
  induction blocks generalizing set with
  | nil => rw [List.flatMap_nil, List.append_nil]; rfl
  | cons block rest ih =>
    change list ((set.merge block).mergeAll rest) = _
    rw [ih, merges, List.flatMap_cons, List.append_assoc]

/-- Whether the latest entry about it says that nothing may follow. -/
def isTerminal (set : Accumulated) : Bool :=
  (Keyed.get? set.handling Handling.terminalKey).any Handling.isTerminal

end Accumulated

end TileBrain
