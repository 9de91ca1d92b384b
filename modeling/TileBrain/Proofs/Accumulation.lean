import TileBrain.Proofs.Keyed
import TileBrain.Suggest

/-! # What tiles accumulate

The constraint blocks of the tiles ahead of a position are merged one after another.
`Rule.accumulatesInOrder` says what comes of it: each list is made of those of the blocks, and of
the handling entries under one key the last one counts, in the place that the first one had.

The six lists are one theorem about any part of a block that merging appends,
`Accumulated.gathered_mergeAll`. The handling entries are entered into a keyed list, and its laws
say which entry is found under a key and where the key stands.
-/

namespace TileBrain

/-- The set is what blocks say together, in their order. -/
structure Accumulated.Collects (set : Accumulated) (blocks : List Constraints) : Prop where
  provides : set.provides = blocks.flatMap (·.provides)
  requires : set.requires = blocks.flatMap (·.requires)
  allowTiles : set.allowTiles = blocks.flatMap (·.allow.tiles)
  allowCategories : set.allowCategories = blocks.flatMap (·.allow.categories)
  disallowTiles : set.disallowTiles = blocks.flatMap (·.disallow.tiles)
  disallowCategories : set.disallowCategories = blocks.flatMap (·.disallow.categories)
  /-- Under a key stands the entry of the last block that has the key. -/
  latest (key : String) :
    Keyed.get? set.handling key = (blocks.filterMap (·.handlingFor? key)).getLast?
  /-- Keys stand in the order in which they first appear in the blocks. -/
  keys : Keyed.keys set.handling =
    (blocks.flatMap fun block => block.handling.map Handling.key).eraseDups
  once : (Keyed.keys set.handling).Nodup
  own : ∀ entry ∈ set.handling, entry.2.key = entry.1
  terminal : set.isTerminal = true ↔
    (blocks.filterMap (·.handlingFor? Handling.terminalKey)).getLast? = some (.terminal true)

/-- What is accumulated at a position of a chain comes from the tiles ahead of it, the actuator
before the sensor; tiles that are missing or have no constraints are passed over. -/
structure Rule.AccumulatesInOrder (rule : Rule) : Prop where
  filters (position : Nat) : (rule.accumulated .filters position).Collects
    ((rule.sensor.toList ++ rule.filters.take position).filterMap Tile.constraints)
  modifiers (position : Nat) : (rule.accumulated .modifiers position).Collects
    ((rule.actuator.toList ++ rule.sensor.toList ++ rule.modifiers.take position).filterMap
      Tile.constraints)
  /-- It does not matter where a sequence of blocks is cut, nor into what they are merged. -/
  merging (set : Accumulated) (blocks more : List Constraints) :
    (set.mergeAll blocks).mergeAll more = set.mergeAll (blocks ++ more)

namespace Constraints

/-- The handling entries under their keys. -/
def keyedHandling (block : Constraints) : List (String × Handling) :=
  block.handling.map fun entry => (entry.key, entry)

private theorem keys_keyedHandling (block : Constraints) :
    Keyed.keys block.keyedHandling = block.handling.map Handling.key := by
  rw [Keyed.keys, keyedHandling, List.map_map]
  rfl

private theorem get?_keyedHandling (block : Constraints) (key : String) :
    Keyed.get? block.keyedHandling key = block.handlingFor? key := by
  rw [Keyed.get?, keyedHandling, List.find?_map, Option.map_map]
  exact Option.map_id'

/-- No two entries of a block share a key. -/
theorem handlingFor?_eq_some_iff {block : Constraints} {key : String} {entry : Handling} :
    block.handlingFor? key = some entry ↔ entry ∈ block.handling ∧ entry.key = key := by
  have distinct : (Keyed.keys block.keyedHandling).Nodup :=
    block.keys_keyedHandling ▸ block.keys_distinct
  rw [← get?_keyedHandling, Keyed.get?_eq_some_iff distinct]
  simp [keyedHandling, and_comm]

private theorem key_of_handlingFor? {block : Constraints} {key : String} {entry : Handling}
    (found : block.handlingFor? key = some entry) : entry.key = key :=
  (handlingFor?_eq_some_iff.mp found).2

end Constraints

/-- Only one entry ends a chain. -/
theorem Handling.isTerminal_iff {entry : Handling} :
    entry.isTerminal = true ↔ entry = .terminal true := by
  cases entry <;> simp [isTerminal]

theorem Constraints.isTerminal_iff {block : Constraints} :
    block.isTerminal = true ↔ .terminal true ∈ block.handling := by
  simp only [isTerminal, Option.any_eq_true, Handling.isTerminal_iff, handlingFor?_eq_some_iff,
    exists_eq_right]
  exact and_iff_left rfl

namespace Accumulated

/-- The entries of all blocks are entered in turn. -/
theorem handling_mergeAll (set : Accumulated) (blocks : List Constraints) :
    (set.mergeAll blocks).handling =
      Keyed.putAll set.handling (blocks.flatMap Constraints.keyedHandling) := by
  induction blocks generalizing set with
  | nil => rfl
  | cons block rest ih =>
    change ((set.merge block).mergeAll rest).handling = _
    rw [ih, List.flatMap_cons, Keyed.putAll, Keyed.putAll, List.foldl_append]
    rfl

/-- Under a key stands the entry of the last block that has one, or what stood there before. -/
theorem get?_handling_mergeAll (set : Accumulated) (blocks : List Constraints) (key : String) :
    Keyed.get? (set.mergeAll blocks).handling key =
      (blocks.filterMap (·.handlingFor? key)).getLast?.or (Keyed.get? set.handling key) := by
  have ofBlock (block : Constraints) :
      (block.keyedHandling.filter (·.1 = key)).map Prod.snd = (block.handlingFor? key).toList := by
    rw [Keyed.filter_key (block.keys_keyedHandling ▸ block.keys_distinct),
      block.get?_keyedHandling]
  rw [handling_mergeAll, Keyed.get?_putAll, List.filter_flatMap, List.map_flatMap]
  simp only [ofBlock, List.filterMap_eq_flatMap_toList]

/-- Merged into nothing, blocks are collected. -/
theorem collects_mergeAll (blocks : List Constraints) :
    (empty.mergeAll blocks).Collects blocks := by
  have latest (key : String) : Keyed.get? (empty.mergeAll blocks).handling key =
      (blocks.filterMap (·.handlingFor? key)).getLast? := by
    rw [get?_handling_mergeAll]
    exact Option.or_none
  have once : (Keyed.keys (empty.mergeAll blocks).handling).Nodup := by
    have nothing : (Keyed.keys empty.handling).Nodup := List.nodup_nil
    rw [handling_mergeAll]
    exact Keyed.nodup_keys_putAll nothing _
  have gathered (list : Accumulated → List Json) (part : Constraints → List Json)
      (merges : ∀ set block, list (set.merge block) = list set ++ part block) :=
    gathered_mergeAll list part merges empty blocks
  constructor
  case provides => exact gathered provides _ fun _ _ => rfl
  case requires => exact gathered requires _ fun _ _ => rfl
  case allowTiles => exact gathered allowTiles _ fun _ _ => rfl
  case allowCategories => exact gathered allowCategories _ fun _ _ => rfl
  case disallowTiles => exact gathered disallowTiles _ fun _ _ => rfl
  case disallowCategories => exact gathered disallowCategories _ fun _ _ => rfl
  case latest => exact latest
  case once => exact once
  case keys =>
    have keyed : Keyed.keys (blocks.flatMap Constraints.keyedHandling) =
        blocks.flatMap fun block => block.handling.map Handling.key := by
      simp only [Keyed.keys, List.map_flatMap, ← Constraints.keys_keyedHandling]
    rw [handling_mergeAll, ← keyed]
    exact Keyed.keys_putAll_nil _
  case own =>
    rintro ⟨key, entry⟩ member
    have found := (Keyed.get?_eq_some_iff once).mpr member
    rw [latest] at found
    obtain ⟨block, _, isFound⟩ := List.mem_filterMap.mp (List.mem_of_getLast? found)
    exact Constraints.key_of_handlingFor? isFound
  case terminal =>
    simp only [isTerminal, latest, Option.any_eq_true, Handling.isTerminal_iff, exists_eq_right]

end Accumulated

/-- In every rule, constraints are accumulated in the order of the tiles. -/
theorem Rule.accumulatesInOrder (rule : Rule) : rule.AccumulatesInOrder where
  filters _ := Accumulated.collects_mergeAll _
  modifiers _ := Accumulated.collects_mergeAll _
  merging set blocks more := (set.mergeAll_append blocks more).symm

end TileBrain
