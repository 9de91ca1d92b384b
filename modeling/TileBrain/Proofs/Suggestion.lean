import TileBrain.Proofs.Accumulation
import TileBrain.Proofs.Authorship

/-! # What is suggested

A tile is suggested at a position of a chain for what the tiles ahead of it say one by one: one of
them allows it, none disallows it, and one of them provides what it requires, if it requires
anything. `Catalog.suggest_isSuggestion` says that the suggestions are the visible tiles for which
this holds, each once and lighter ones first, unless the chain has ended or is not that long.
-/

namespace TileBrain

namespace Tile

/-- What the tile says about those that follow; one without constraints says nothing. -/
def block (tile : Tile) : Constraints := tile.constraints.getD .empty

/-- The weight that counts: the one that the tile states, or a hundred if it states none. -/
def Weighs (tile : Tile) (weight : Json) : Prop :=
  tile.weight = weight ∧ weight ≠ .null ∨ tile.weight = .null ∧ weight = .int 100

/-- Whether a tile comes before another by its weight. -/
def IsLighter (tile other : Tile) : Prop :=
  ∃ lighter heavier, tile.Weighs lighter ∧ other.Weighs heavier ∧
    Json.precedes? lighter heavier = some true

/-- The tile holds the one handling entry that lets nothing follow. -/
def EndsChain (tile : Tile) : Prop :=
  ∃ block, tile.constraints = some block ∧ .terminal true ∈ block.handling

theorem weighs_iff {tile : Tile} {weight : Json} :
    tile.Weighs weight ↔ weight = tile.sortWeight := by
  unfold Weighs
  by_cases unstated : tile.weight = .null
  · have counts : tile.sortWeight = .int 100 := by rw [sortWeight, unstated]; rfl
    rw [counts]
    constructor
    · rintro (⟨stated, isWeight⟩ | ⟨_, isDefault⟩)
      · exact absurd (stated.symm.trans unstated) isWeight
      · exact isDefault
    · exact fun isDefault => .inr ⟨unstated, isDefault⟩
  · have counts : tile.sortWeight = tile.weight := by
      unfold sortWeight
      split
      next missing => exact absurd missing unstated
      next => rfl
    rw [counts]
    constructor
    · rintro (⟨stated, _⟩ | ⟨missing, _⟩)
      · exact stated.symm
      · exact absurd missing unstated
    · rintro rfl
      exact .inl ⟨rfl, unstated⟩

theorem isLighter_iff {tile other : Tile} :
    tile.IsLighter other ↔ Json.precedes? tile.sortWeight other.sortWeight = some true := by
  simp only [IsLighter, weighs_iff, exists_and_left, exists_eq_left]

theorem isTerminal_iff_endsChain {tile : Tile} :
    tile.isTerminal = true ↔ tile.EndsChain := by
  simp only [isTerminal, Option.any_eq_true, Constraints.isTerminal_iff, EndsChain]

end Tile

/-- Whether a selector has the category or the identifier of a tile. -/
def Selector.Names (selector : Selector) (tile : Tile) : Prop :=
  tile.category.isAmong selector.categories = true ∨ tile.id.isAmong selector.tiles = true

/-- The tiles that count at a position of a chain: the sensor, the actuator for a modifier, and the
tiles at earlier positions of the same chain. -/
inductive Rule.IsAhead (rule : Rule) (chain : Chain) (position : Nat) (tile : Tile) : Prop where
  | sensor (placed : rule.sensor = some tile)
  | actuator (modifies : chain = .modifiers) (placed : rule.actuator = some tile)
  | earlier (place : Nat) (before : place < position)
      (placed : (rule.chain chain)[place]? = some tile)

namespace Catalog

/-- When a tile may be placed at a position of a chain. -/
structure Admits (catalog : Catalog) (rule : Rule) (chain : Chain) (position : Nat)
    (tile : Tile) : Prop where
  declared : tile ∈ catalog.tiles
  kind : tile.kind = chain.kind
  visible : tile.hidden = false
  continues : position = 0 ∨
    ∃ last, (rule.chain chain)[position - 1]? = some last ∧ ¬ last.EndsChain
  supplied : tile.block.requires = [] ∨ ∃ placed, rule.IsAhead chain position placed ∧
    ∃ capability ∈ tile.block.requires, capability.isAmong placed.block.provides = true
  allowed : ∃ placed, rule.IsAhead chain position placed ∧ placed.block.allow.Names tile
  tolerated : ∀ placed, rule.IsAhead chain position placed → ¬ placed.block.disallow.Names tile

/-- Whether a tile is listed before another: it is lighter, or neither is and it was declared
earlier. -/
def Precedes (catalog : Catalog) (tile other : Tile) : Prop :=
  tile.IsLighter other ∨ ¬ other.IsLighter tile ∧ [tile, other].Sublist catalog.tiles

/-- The tiles are those that may be placed at a position, each once and in order. -/
structure IsSuggestion (catalog : Catalog) (rule : Rule) (chain : Chain) (position : Nat)
    (tiles : List Tile) : Prop where
  once : tiles.Nodup
  admitted : ∀ tile, tile ∈ tiles ↔ catalog.Admits rule chain position tile
  ordered : tiles.Pairwise catalog.Precedes

end Catalog

section Blocks

variable {tiles : List Tile}

/-- A value is in a part of the blocks of tiles if one of the tiles has it there. -/
private theorem isAmong_flatMap_iff (part : Constraints → List Json) (nothing : part .empty = [])
    (value : Json) :
    value.isAmong ((tiles.filterMap Tile.constraints).flatMap part) = true ↔
      ∃ placed ∈ tiles, value.isAmong (part placed.block) = true := by
  have blocks : (tiles.filterMap Tile.constraints).flatMap part =
      tiles.flatMap fun placed => part placed.block := by
    induction tiles with
    | nil => rfl
    | cons placed rest ih =>
      cases said : placed.constraints with
      | none => simp [said, Tile.block, nothing, ih]
      | some block => simp [said, Tile.block, ih]
  simp only [blocks, Json.isAmong, List.any_flatMap, List.any_eq_true]

/-- The selectors of tiles have a category or an identifier if one of them names the tile. -/
private theorem names_flatMap_iff (select : Constraints → Selector)
    (nothing : select .empty = .empty) (tile : Tile) :
    tile.category.isAmong ((tiles.filterMap Tile.constraints).flatMap (select · |>.categories)) =
        true ∨
      tile.id.isAmong ((tiles.filterMap Tile.constraints).flatMap (select · |>.tiles)) = true ↔
      ∃ placed ∈ tiles, (select placed.block).Names tile := by
  rw [isAmong_flatMap_iff _ (congrArg Selector.categories nothing),
    isAmong_flatMap_iff _ (congrArg Selector.tiles nothing)]
  simp only [Selector.Names, and_or_left, exists_or]

namespace Accumulated

/-- Tiles provide together what one of them provides. -/
theorem provides_ofTiles_iff {capability : Json} :
    capability.isAmong (ofTiles tiles).provides = true ↔
      ∃ placed ∈ tiles, capability.isAmong placed.block.provides = true := by
  rw [ofTiles, (collects_mergeAll _).provides]
  exact isAmong_flatMap_iff _ rfl capability

/-- Tiles allow together what one of them allows. -/
theorem allows_ofTiles_iff {tile : Tile} :
    tile.category.isAmong (ofTiles tiles).allowCategories = true ∨
        tile.id.isAmong (ofTiles tiles).allowTiles = true ↔
      ∃ placed ∈ tiles, placed.block.allow.Names tile := by
  rw [ofTiles, (collects_mergeAll _).allowCategories, (collects_mergeAll _).allowTiles]
  exact names_flatMap_iff _ rfl tile

/-- Tiles disallow together what one of them disallows. -/
theorem disallows_ofTiles_iff {tile : Tile} :
    tile.category.isAmong (ofTiles tiles).disallowCategories = true ∨
        tile.id.isAmong (ofTiles tiles).disallowTiles = true ↔
      ∃ placed ∈ tiles, placed.block.disallow.Names tile := by
  rw [ofTiles, (collects_mergeAll _).disallowCategories, (collects_mergeAll _).disallowTiles]
  exact names_flatMap_iff _ rfl tile

end Accumulated

private theorem Tile.requires_eq_block (tile : Tile) : tile.requires = tile.block.requires := by
  cases said : tile.constraints <;> simp [requires, block, said, Constraints.empty]

/-- What tiles accumulate admits a tile for what they say one by one. -/
theorem Tile.isCompatible_ofTiles_iff {tile : Tile} :
    tile.isCompatible (.ofTiles tiles) = true ↔
      (tile.block.requires = [] ∨ ∃ placed ∈ tiles, ∃ capability ∈ tile.block.requires,
        capability.isAmong placed.block.provides = true) ∧
      (∃ placed ∈ tiles, placed.block.allow.Names tile) ∧
      ∀ placed ∈ tiles, ¬ placed.block.disallow.Names tile := by
  have supplied :
      (∃ capability ∈ tile.block.requires,
          capability.isAmong (Accumulated.ofTiles tiles).provides = true) ↔
        ∃ placed ∈ tiles, ∃ capability ∈ tile.block.requires,
          capability.isAmong placed.block.provides = true := by
    simp only [Accumulated.provides_ofTiles_iff]
    constructor
    · rintro ⟨capability, asked, placed, ahead, given⟩
      exact ⟨placed, ahead, capability, asked, given⟩
    · rintro ⟨placed, ahead, capability, asked, given⟩
      exact ⟨capability, asked, placed, ahead, given⟩
  have tolerated : (∀ placed ∈ tiles, ¬ placed.block.disallow.Names tile) ↔
      ¬ ∃ placed ∈ tiles, placed.block.disallow.Names tile := by
    simp only [not_exists, not_and]
  rw [tolerated, ← supplied, ← Accumulated.allows_ofTiles_iff, ← Accumulated.disallows_ofTiles_iff,
    isCompatible, requires_eq_block]
  simp only [Bool.and_eq_true, Bool.or_eq_true, List.isEmpty_iff, List.any_eq_true,
    Bool.not_eq_true', not_or, Bool.not_eq_true, and_assoc]

end Blocks

namespace Rule

variable {rule : Rule} {chain : Chain} {position : Nat} {tile : Tile}

/-- The constraints that hold at a position are those of the tiles that count there. -/
theorem mem_ahead_iff :
    tile ∈ rule.ahead chain position ↔ rule.IsAhead chain position tile := by
  have earlier : tile ∈ (rule.chain chain).take position ↔
      ∃ place < position, (rule.chain chain)[place]? = some tile := by
    simp [List.mem_iff_getElem?, List.getElem?_take, Option.ite_none_right_eq_some]
  have before : tile ∈ rule.before chain ↔
      rule.sensor = some tile ∨ chain = .modifiers ∧ rule.actuator = some tile := by
    cases chain <;> simp [Rule.before, or_comm]
  rw [ahead, List.mem_append, earlier, before]
  constructor
  · rintro ((placed | ⟨modifies, placed⟩) | ⟨place, before, placed⟩)
    · exact .sensor placed
    · exact .actuator modifies placed
    · exact .earlier place before placed
  · rintro (placed | ⟨modifies, placed⟩ | ⟨place, before, placed⟩)
    · exact .inl (.inl placed)
    · exact .inl (.inr ⟨modifies, placed⟩)
    · exact .inr ⟨place, before, placed⟩

/-- A chain goes on at its start, and behind a tile that does not end it. -/
theorem terminalBefore?_eq_none_iff (within : position ≤ (rule.chain chain).length) :
    rule.terminalBefore? chain position = none ↔
      position = 0 ∨ ∃ last, (rule.chain chain)[position - 1]? = some last ∧
        ¬ last.EndsChain := by
  simp only [← Tile.isTerminal_iff_endsChain, Bool.not_eq_true]
  cases position with
  | zero => simp [terminalBefore?]
  | succ before =>
    have present := List.getElem?_eq_getElem (Nat.lt_of_succ_le within)
    simp [terminalBefore?, present, Option.filter_eq_none_iff]

end Rule

namespace Catalog

variable {catalog : Catalog} {rule : Rule} {chain : Chain} {position : Nat}

/-- The offered tiles are those that may be placed. -/
theorem mem_offered_iff_admits (within : position ≤ (rule.chain chain).length) {tile : Tile} :
    tile ∈ catalog.offered rule chain position ↔ catalog.Admits rule chain position tile := by
  rw [mem_offered, Rule.terminalBefore?_eq_none_iff within, mem_candidates, Rule.accumulated,
    Tile.isCompatible_ofTiles_iff]
  simp only [Rule.mem_ahead_iff]
  constructor
  · rintro ⟨continues, ⟨declared, kind, visible⟩, supplied, allowed, tolerated⟩
    exact ⟨declared, kind, visible, continues, supplied, allowed, tolerated⟩
  · rintro ⟨declared, kind, visible, continues, supplied, allowed, tolerated⟩
    exact ⟨continues, ⟨declared, kind, visible⟩, supplied, allowed, tolerated⟩

/-- Offered tiles are candidates, in the order of these. -/
theorem offered_sublist_candidates :
    (catalog.offered rule chain position).Sublist (catalog.candidates chain.kind) := by
  unfold offered
  split
  · exact List.nil_sublist _
  · exact List.filter_sublist

theorem WellTyped.nodup_candidates (typed : catalog.WellTyped) (kind : TileKind) :
    (catalog.candidates kind).Nodup :=
  (StableSort.sort_perm _ _).nodup_iff.mpr
    (typed.nodup_tiles.sublist (catalog.visible_sublist kind))

private theorem inWeightOrder_iff {tile other : Tile} :
    inWeightOrder tile other = true ↔ ¬ other.IsLighter tile := by
  simp [inWeightOrder, Json.isAtMost, Tile.isLighter_iff]

/-- Candidates come one before the other by weight and declaration. -/
theorem WellTyped.pairwise_precedes (typed : catalog.WellTyped) (kind : TileKind) :
    (catalog.candidates kind).Pairwise catalog.Precedes := by
  refine typed.pairwise_candidates.imp ?_
  rintro tile other ⟨inOrder, declared⟩
  by_cases lighter : tile.IsLighter other
  · exact .inl lighter
  · exact .inr ⟨inWeightOrder_iff.mp inOrder, declared (inWeightOrder_iff.mpr lighter)⟩

/-- What is suggested at an index of a chain, for a rule with tiles of any origin: an index that the
chain does not have is refused, and at every other one the tiles are listed that may be placed. -/
theorem suggest_isSuggestion (typed : catalog.WellTyped) (rule : Rule) (chain : Chain)
    (index : Int) :
    (∀ error, (catalog.suggest rule chain index).outcome = .error error ↔
      (index < 0 ∨ (rule.chain chain).length < index) ∧
        error = .outOfRange ⟨chain, index, (rule.chain chain).length⟩) ∧
    ∀ position : Nat, index = position → position ≤ (rule.chain chain).length →
      ∃ tiles, (catalog.suggest rule chain index).outcome = .ok tiles ∧
        catalog.IsSuggestion rule chain position tiles := by
  have refused (beyond : ¬ (0 ≤ index ∧ index ≤ (rule.chain chain).length)) :
      (catalog.suggest rule chain index).outcome =
        .error (.outOfRange ⟨chain, index, (rule.chain chain).length⟩) := by
    rw [suggest, if_neg beyond]
    rfl
  constructor
  · intro error
    by_cases within : 0 ≤ index ∧ index ≤ (rule.chain chain).length
    · simp only [outcome_suggest (typed.isRankable _) within, reduceCtorEq, false_iff]
      omega
    · have outside : index < 0 ∨ (rule.chain chain).length < index := by omega
      simp [refused within, outside, eq_comm]
  · rintro position rfl within
    refine ⟨_, outcome_suggest (typed.isRankable _) ⟨by omega, by omega⟩, ?_, fun tile => ?_, ?_⟩
    · exact (typed.nodup_candidates _).sublist offered_sublist_candidates
    · exact mem_offered_iff_admits within
    · exact (typed.pairwise_precedes _).sublist offered_sublist_candidates

end Catalog

/-- Between the modifiers of the chase, those are listed that may replace the second; there is no
fourth position. -/
theorem Builtin.suggest_isSuggestion_chasing :
    catalog.WellTyped ∧ (chasing.chain .modifiers).length = 2 ∧
      (∃ tiles, (catalog.suggest chasing .modifiers 1).outcome = .ok tiles ∧
        catalog.IsSuggestion chasing .modifiers 1 tiles) ∧
      (catalog.suggest chasing .modifiers 3).outcome = .error (.outOfRange ⟨.modifiers, 3, 2⟩) := by
  have typed : catalog.WellTyped := by decide +kernel
  have length : (chasing.chain .modifiers).length = 2 := by decide +kernel
  have replaced := (Catalog.suggest_isSuggestion typed chasing .modifiers 1).2 1 rfl
    (by omega)
  have refused := (Catalog.suggest_isSuggestion typed chasing .modifiers 3).1
    (.outOfRange ⟨.modifiers, 3, 2⟩)
  exact ⟨typed, length, replaced, refused.mpr ⟨.inr (by omega), by rw [length]⟩⟩

end TileBrain
