import TileBrain.Proofs.Accumulation
import TileBrain.Proofs.Authorship

/-! # What the order of merging leaves open

Constraint blocks are merged one after another, and of the handling entries under one key the last
counts. `Catalog.ignoresMergeOrder` says that suggestions depend on neither: only the set of blocks
counts, whatever their order and however often they are there, and whether the tile in front of the
position is terminal.

Suggestions only ask whether something is among a list, so two accumulations concur if the same is
among their lists; `Accumulated.concurs_mergeAll` derives that from equal sets of blocks. What the
audit says about a tile is not compared.
-/

namespace TileBrain

/-- The same values are provided, allowed and disallowed, in whatever order and number. Handling
entries are not compared, nor is what is required. -/
structure Accumulated.Concurs (set other : Accumulated) : Prop where
  provides : ∀ value, value ∈ set.provides ↔ value ∈ other.provides
  allowTiles : ∀ value, value ∈ set.allowTiles ↔ value ∈ other.allowTiles
  allowCategories : ∀ value, value ∈ set.allowCategories ↔ value ∈ other.allowCategories
  disallowTiles : ∀ value, value ∈ set.disallowTiles ↔ value ∈ other.disallowTiles
  disallowCategories : ∀ value, value ∈ set.disallowCategories ↔ value ∈ other.disallowCategories

namespace Rule

/-- The constraint blocks that hold at a position of a chain, in the order of merging. -/
def blocks (rule : Rule) (chain : Chain) (position : Nat) : List Constraints :=
  (rule.ahead chain position).filterMap Tile.constraints

/-- The rule with the constraint blocks of its sensor and its actuator exchanged. -/
def exchangeBlocks (rule : Rule) : Rule :=
  match rule.sensor, rule.actuator with
  | some sensor, some actuator =>
    { rule with
      sensor := some { sensor with constraints := actuator.constraints }
      actuator := some { actuator with constraints := sensor.constraints } }
  | _, _ => rule

/-- Whether the tile in front of a position of a chain is terminal, if there is a tile. -/
def endsAt? (rule : Rule) (chain : Chain) (position : Nat) : Option Bool :=
  ((rule.chain chain).take position).getLast?.map Tile.isTerminal

end Rule

/-- Two positions are suggested the same for the same set of blocks, unless one is behind a terminal
tile and the other is not. -/
structure Catalog.IgnoresMergeOrder (catalog : Catalog) : Prop where
  /-- Only what is provided, allowed and disallowed counts. -/
  accumulated (rule other : Rule) (chain : Chain) (position place : Nat)
      (within : position ≤ (rule.chain chain).length)
      (otherWithin : place ≤ (other.chain chain).length)
      (concurs : (rule.accumulated chain position).Concurs (other.accumulated chain place))
      (ends : rule.endsAt? chain position = some true ↔ other.endsAt? chain place = some true) :
    (catalog.suggest rule chain position).outcome = (catalog.suggest other chain place).outcome
  blocks (rule other : Rule) (chain : Chain) (position place : Nat)
      (within : position ≤ (rule.chain chain).length)
      (otherWithin : place ≤ (other.chain chain).length)
      (same : ∀ block, block ∈ rule.blocks chain position ↔ block ∈ other.blocks chain place)
      (ends : rule.endsAt? chain position = some true ↔ other.endsAt? chain place = some true) :
    (catalog.suggest rule chain position).outcome = (catalog.suggest other chain place).outcome
  /-- The tiles in front may stand in another order and be repeated. -/
  tiles (rule other : Rule) (chain : Chain) (position place : Nat)
      (within : position ≤ (rule.chain chain).length)
      (otherWithin : place ≤ (other.chain chain).length)
      (sensor : rule.sensor = other.sensor)
      (actuator : chain = .modifiers → rule.actuator = other.actuator)
      (same : ∀ tile, tile ∈ (rule.chain chain).take position ↔
        tile ∈ (other.chain chain).take place)
      (ends : rule.endsAt? chain position = other.endsAt? chain place) :
    (catalog.suggest rule chain position).outcome = (catalog.suggest other chain place).outcome
  /-- It does not matter which of sensor and actuator has which block. -/
  anchors (rule : Rule) (index : Int) :
    catalog.suggest rule.exchangeBlocks .modifiers index = catalog.suggest rule .modifiers index

/-- Whether a value is among others depends on the set of these. -/
theorem Json.isAmong_congr {items others : List Json}
    (same : ∀ entry, entry ∈ items ↔ entry ∈ others) (value : Json) :
    value.isAmong items = value.isAmong others := by
  rw [Bool.eq_iff_iff, isAmong, isAmong, List.any_eq_true, List.any_eq_true]
  exact exists_congr fun entry => and_congr_left fun _ => same entry

namespace Accumulated

/-- Accumulated constraints that concur admit the same tiles. -/
theorem Concurs.isCompatible {set other : Accumulated} (concurs : set.Concurs other)
    (tile : Tile) : tile.isCompatible set = tile.isCompatible other := by
  simp only [Tile.isCompatible, Json.isAmong_congr concurs.provides,
    Json.isAmong_congr concurs.allowTiles, Json.isAmong_congr concurs.allowCategories,
    Json.isAmong_congr concurs.disallowTiles, Json.isAmong_congr concurs.disallowCategories]

/-- Merging sets of blocks that are the same results in what concurs. -/
theorem concurs_mergeAll {blocks others : List Constraints}
    (same : ∀ block, block ∈ blocks ↔ block ∈ others) :
    (empty.mergeAll blocks).Concurs (empty.mergeAll others) := by
  have gathered := collects_mergeAll blocks
  have otherwise := collects_mergeAll others
  have part (values : Constraints → List Json) (value : Json) :
      value ∈ blocks.flatMap values ↔ value ∈ others.flatMap values := by
    simp only [List.mem_flatMap, same]
  constructor
  · rw [gathered.provides, otherwise.provides]
    exact part _
  · rw [gathered.allowTiles, otherwise.allowTiles]
    exact part _
  · rw [gathered.allowCategories, otherwise.allowCategories]
    exact part _
  · rw [gathered.disallowTiles, otherwise.disallowTiles]
    exact part _
  · rw [gathered.disallowCategories, otherwise.disallowCategories]
    exact part _

end Accumulated

namespace Rule

variable {rule other : Rule} {chain : Chain} {position place : Nat}

/-- What holds at a position depends on the set of the blocks that do. -/
theorem accumulated_concurs
    (same : ∀ block, block ∈ rule.blocks chain position ↔ block ∈ other.blocks chain place) :
    (rule.accumulated chain position).Concurs (other.accumulated chain place) :=
  Accumulated.concurs_mergeAll same

/-- A chain has ended at a position if the tile in front is terminal. -/
theorem isSome_terminalBefore?_iff (within : position ≤ (rule.chain chain).length) :
    (rule.terminalBefore? chain position).isSome = true ↔
      rule.endsAt? chain position = some true := by
  have last : rule.terminalBefore? chain position =
      ((rule.chain chain).take position).getLast?.filter Tile.isTerminal := by
    cases position with
    | zero => rfl
    | succ before =>
      have present := List.getElem?_eq_getElem (Nat.lt_of_succ_le within)
      rw [List.getLast?_take, if_neg (Nat.succ_ne_zero before), Nat.add_sub_cancel, present]
      simp only [terminalBefore?, present, Option.some_or]
  rw [last, endsAt?]
  cases ((rule.chain chain).take position).getLast? <;> simp [Option.filter_some]

/-- Blocks that are exchanged are there before and after. -/
theorem mem_blocks_exchangeBlocks (rule : Rule) (position : Nat) (block : Constraints) :
    block ∈ rule.exchangeBlocks.blocks .modifiers position ↔
      block ∈ rule.blocks .modifiers position := by
  unfold exchangeBlocks
  split
  next sensor actuator placedSensor placedActuator =>
    simp only [blocks, ahead, before, Rule.chain, placedSensor, placedActuator, Option.toList_some,
      List.filterMap_append, List.mem_append, List.mem_filterMap, List.mem_singleton,
      exists_eq_left]
    rw [or_comm (a := sensor.constraints = some block)]
  next => exact Iff.rfl

private theorem chain_exchangeBlocks (rule : Rule) (chain : Chain) :
    rule.exchangeBlocks.chain chain = rule.chain chain := by
  unfold exchangeBlocks
  split <;> cases chain <;> rfl

end Rule

namespace Catalog

variable {catalog : Catalog} {rule other : Rule} {chain : Chain} {position place : Nat}

/-- What is offered depends on what concurring constraints agree on. -/
theorem offered_of_concurs
    (concurs : (rule.accumulated chain position).Concurs (other.accumulated chain place))
    (ended : (rule.terminalBefore? chain position).isSome =
      (other.terminalBefore? chain place).isSome) :
    catalog.offered rule chain position = catalog.offered other chain place := by
  have admitted := funext concurs.isCompatible
  unfold offered
  cases found : rule.terminalBefore? chain position with
  | some terminal =>
    rw [found, Option.isSome_some] at ended
    obtain ⟨otherTerminal, otherFound⟩ := Option.isSome_iff_exists.mp ended.symm
    rw [otherFound]
  | none =>
    rw [found, Option.isSome_none] at ended
    have goesOn : other.terminalBefore? chain place = none :=
      Option.isNone_iff_eq_none.mp (Option.isSome_eq_false_iff.mp ended.symm)
    rw [goesOn]
    simp only [compatible, admitted]

/-- Where constraints concur, the suggestions are the same, or fail for the same weights. -/
theorem outcome_suggest_of_concurs (within : position ≤ (rule.chain chain).length)
    (otherWithin : place ≤ (other.chain chain).length)
    (concurs : (rule.accumulated chain position).Concurs (other.accumulated chain place))
    (ends : rule.endsAt? chain position = some true ↔ other.endsAt? chain place = some true) :
    (catalog.suggest rule chain position).outcome =
      (catalog.suggest other chain place).outcome := by
  have ended : (rule.terminalBefore? chain position).isSome =
      (other.terminalBefore? chain place).isSome := by
    rw [Bool.eq_iff_iff, Rule.isSome_terminalBefore?_iff within,
      Rule.isSome_terminalBefore?_iff otherWithin]
    exact ends
  have offered : catalog.offered rule chain position = catalog.offered other chain place :=
    offered_of_concurs concurs ended
  rw [suggest, suggest, if_pos ⟨by omega, by omega⟩, if_pos ⟨by omega, by omega⟩]
  simp only [Int.toNat_natCast, suggestAt, ended, offered]
  split <;> rfl

/-- In no catalog does the order of merging count. -/
theorem ignoresMergeOrder (catalog : Catalog) : catalog.IgnoresMergeOrder where
  accumulated _ _ _ _ _ within otherWithin := outcome_suggest_of_concurs within otherWithin
  blocks _ _ _ _ _ within otherWithin same :=
    outcome_suggest_of_concurs within otherWithin (Rule.accumulated_concurs same)
  tiles rule other chain position place within otherWithin sensor actuator same ends := by
    have before := Rule.before_congr sensor actuator
    have blocks (block : Constraints) :
        block ∈ rule.blocks chain position ↔ block ∈ other.blocks chain place := by
      simp only [Rule.blocks, Rule.ahead, before, List.mem_filterMap, List.mem_append, same]
    exact outcome_suggest_of_concurs within otherWithin (Rule.accumulated_concurs blocks)
      (by rw [ends])
  anchors rule index := by
    have chain := rule.chain_exchangeBlocks .modifiers
    have ended (position : Nat) : rule.exchangeBlocks.terminalBefore? .modifiers position =
        rule.terminalBefore? .modifiers position :=
      Rule.terminalBefore?_congr (by rw [chain])
    have offered (position : Nat) : catalog.offered rule.exchangeBlocks .modifiers position =
        catalog.offered rule .modifiers position :=
      offered_of_concurs (Rule.accumulated_concurs (rule.mem_blocks_exchangeBlocks position))
        (by rw [ended])
    simp only [suggest, suggestAt, suggestNotice, chain, ended, offered]

end Catalog

namespace Builtin

/-- A rule that looks nearby for apples, by an edit that says so twice. -/
def groping : Rule :=
  { seeing with
    filters := [distanceFilter FilterId.nearby "nearby" FilterId.faraway,
      subjectFilter FilterId.apple "Apple",
      distanceFilter FilterId.nearby "nearby" FilterId.faraway] }

/-- A rule that looks nearby for apples. -/
def peering : Rule :=
  { seeing with
    filters := [subjectFilter FilterId.apple "Apple",
      distanceFilter FilterId.nearby "nearby" FilterId.faraway] }

/-- Behind the filters, both are suggested the same. -/
theorem ignoresMergeOrder_groping :
    (catalog.suggest groping .filters 3).outcome = (catalog.suggest peering .filters 2).outcome ∧
      catalog.suggest chasing.exchangeBlocks .modifiers 2 =
        catalog.suggest chasing .modifiers 2 := by
  have same (tile : Tile) : tile ∈ (groping.chain .filters).take 3 ↔
      tile ∈ (peering.chain .filters).take 2 := by
    simp only [groping, peering, Rule.chain, List.take_succ_cons, List.take_zero, List.mem_cons,
      List.not_mem_nil, or_false]
    exact ⟨Or.rec .inr id, .inr⟩
  have ends : groping.endsAt? .filters 3 = peering.endsAt? .filters 2 := by decide +kernel
  have whole := catalog.ignoresMergeOrder
  refine ⟨?_, whole.anchors chasing 2⟩
  apply whole.tiles groping peering .filters 3 2 (by decide) (by decide) rfl _ same ends
  intro modifies
  exact absurd modifies (by decide)

end Builtin

end TileBrain
