import TileBrain.Proofs.Audit.Clean
import TileBrain.Proofs.Locality

/-! # Undoing placements

A rule in which the audit finds nothing can be taken back tile by tile. `Rule.audit_undone` says
that nothing is found either when its chains are cut short, or when its actuator is taken away with
all its modifiers. Whatever is left counts on the same tiles ahead of it as before, and caps that
are kept have no more tiles to count.
-/

namespace TileBrain

namespace Rule

/-- The rule with so many tiles of each chain, counted from the first, or with all there are. -/
def cut (rule : Rule) (lengths : Chain → Nat) : Rule :=
  { rule with
    filters := rule.filters.take (lengths .filters)
    modifiers := rule.modifiers.take (lengths .modifiers) }

/-- A rule that lacks tiles of another at the ends of chains, and perhaps the anchor of a chain that
is empty. The sensor counts for both chains, and is the same. -/
structure IsStageOf (stage rule : Rule) : Prop where
  sensor : stage.sensor = rule.sensor
  anchor? (chain : Chain) : stage.anchor? chain = rule.anchor? chain ∨
    stage.anchor? chain = none ∧ stage.chain chain = []
  chain (chain : Chain) : stage.chain chain <+: rule.chain chain

private theorem isStageOf_cut (rule : Rule) (lengths : Chain → Nat) :
    (rule.cut lengths).IsStageOf rule where
  sensor := rfl
  anchor? chain := by cases chain <;> exact .inl rfl
  chain chain := by cases chain <;> exact List.take_prefix _ _

private theorem isStageOf_cleared_modifiers (rule : Rule) :
    (rule.cleared .modifiers).IsStageOf rule where
  sensor := rfl
  anchor? chain := by
    cases chain with
    | filters => exact .inl rfl
    | modifiers => exact .inr ⟨rfl, rfl⟩
  chain chain := by
    cases chain with
    | filters => exact List.prefix_refl _
    | modifiers => exact List.nil_prefix

variable {rule stage : Rule} {catalog : Catalog} {chain : Chain} {page index : Int}

/-- Nothing is reported unless a tile wants fewer of its category than there are. -/
theorem overCountsFrom_eq_nil_iff {all tiles : List Tile} :
    overCountsFrom chain all [] tiles = [] ↔
      ∀ tile ∈ tiles, ∀ cap, tile.cap? = some cap → countAlike all tile ≤ cap := by
  induction tiles with
  | nil => simp [overCountsFrom]
  | cons tile rest ih =>
    rw [List.forall_mem_cons, ← ih, overCountsFrom]
    cases isCap : tile.cap? with
    | none => simp
    | some cap =>
      by_cases exceeded : cap < countAlike all tile
      · simp [exceeded, Int.not_le.mpr exceeded]
      · simp [exceeded, Int.not_lt.mp exceeded]

/-- There are no more tiles of a category in the first part of a chain than in the whole. -/
theorem overCountFindings_of_prefix (shorter : stage.chain chain <+: rule.chain chain)
    (capped : rule.overCountFindings chain = []) : stage.overCountFindings chain = [] := by
  rw [overCountFindings, overCountsFrom_eq_nil_iff] at capped ⊢
  intro tile member cap isCap
  have fewer : countAlike (stage.chain chain) tile ≤ countAlike (rule.chain chain) tile :=
    shorter.sublist.countP_le
  have within := capped tile (shorter.subset member) cap isCap
  omega

namespace IsStageOf

/-- For the tiles that are left in a chain, the same tiles count as before. -/
theorem agreesUpTo (isStage : stage.IsStageOf rule) {position : Nat}
    (within : position < (stage.chain chain).length) :
    stage.AgreesUpTo rule chain position where
  sensor := isStage.sensor
  actuator := by
    rintro rfl
    rcases isStage.anchor? .modifiers with same | ⟨_, empty⟩
    · exact same
    · rw [empty] at within
      contradiction
  earlier := by
    obtain ⟨removed, whole⟩ := isStage.chain chain
    rw [← whole, List.take_append_of_le_length (Nat.le_of_lt within)]

private theorem mem_placed (isStage : stage.IsStageOf rule) {tile : Tile}
    (member : tile ∈ stage.placed) :
    tile ∈ rule.placed := by
  obtain ⟨chain, isAnchor | inChain⟩ := mem_placed_iff.mp member
  · rcases isStage.anchor? chain with same | ⟨missing, _⟩
    · exact mem_placed_iff.mpr ⟨chain, .inl (same ▸ isAnchor)⟩
    · rw [missing] at isAnchor
      contradiction
  · exact mem_placed_iff.mpr ⟨chain, .inr ((isStage.chain chain).subset inChain)⟩

/-- An earlier stage of a clean rule is clean. -/
theorem clean (isStage : stage.IsStageOf rule) (clean : rule.Clean catalog) :
    stage.Clean catalog where
  anchored := by
    intro chain missing
    rcases isStage.anchor? chain with same | ⟨_, empty⟩
    · have whole := clean.anchored chain (same ▸ missing)
      exact List.prefix_nil.mp (whole ▸ isStage.chain chain)
    · exact empty
  visible tile member := clean.visible tile (isStage.mem_placed member)
  offered := by
    intro chain position tile present
    have within := (List.getElem?_eq_some_iff.mp present).1
    obtain ⟨removed, whole⟩ := isStage.chain chain
    rw [← List.getElem?_append_left within, whole] at present
    rw [(isStage.agreesUpTo within).offered]
    exact clean.offered chain position tile present
  capped chain := overCountFindings_of_prefix (isStage.chain chain) (clean.capped chain)

end IsStageOf

/-- The suggestions for a tile of a clean rule are replayed if candidates have an order. -/
theorem Clean.outcome_replayPlacement_iff (clean : rule.Clean catalog) {tile : Tile}
    {position : Nat} (present : (rule.chain chain)[position]? = some tile) :
    (rule.replayPlacement catalog page index chain tile position).outcome = .ok () ↔
      catalog.isRankable chain.kind = true := by
  obtain ⟨own, offered, same⟩ := clean.offered chain position tile present
  have goesOn := (Catalog.mem_offered.mp offered).1
  have placed : tile ∈ rule.placed :=
    mem_placed_iff.mpr ⟨chain, .inr (List.mem_of_getElem? present)⟩
  have inPlace : rule.placementFinding? catalog chain tile position = none :=
    (placementFinding?_eq_none_iff (clean.visible tile placed) position).mpr ⟨own, offered, same⟩
  unfold replayPlacement Catalog.suggestAt
  rw [goesOn, clean.visible tile placed, inPlace]
  cases catalog.isRankable chain.kind with
  | true => exact ⟨fun _ => rfl, fun _ => rfl⟩
  | false => exact ⟨nofun, nofun⟩

/-- A chain of a clean rule is audited to its end if there is nothing in it, or if candidates have
an order and its tiles can be counted. -/
theorem Clean.outcome_replayChain_iff (clean : rule.Clean catalog) :
    (rule.replayChain catalog page index chain).outcome = .ok () ↔
      (rule.chain chain ≠ [] → catalog.isRankable chain.kind = true) ∧
        rule.isCountable chain = true := by
  rw [outcome_replayChain_eq_ok_iff]
  cases anchored : rule.anchor? chain with
  | none => simp [isCountable, clean.anchored chain anchored]
  | some anchor =>
    simp only [Option.isSome_some, forall_const]
    apply and_congr_left'
    constructor
    · intro each filled
      obtain ⟨tile, rest, isChain⟩ := List.exists_cons_of_ne_nil filled
      have present : (rule.chain chain)[0]? = some tile := by rw [isChain]; rfl
      exact (clean.outcome_replayPlacement_iff present).mp (each 0 tile present)
    · intro rankable position tile present
      have filled := List.ne_nil_of_mem (List.mem_of_getElem? present)
      exact (clean.outcome_replayPlacement_iff present).mpr (rankable filled)

private theorem Clean.outcome_replay_iff (clean : rule.Clean catalog) :
    (rule.replay catalog page index).outcome = .ok () ↔
      ∀ chain, (rule.chain chain ≠ [] → catalog.isRankable chain.kind = true) ∧
        rule.isCountable chain = true := by
  rw [outcome_replay_eq_ok_iff]
  exact forall_congr' fun _ => clean.outcome_replayChain_iff

/-- If the audit of a rule ends without an issue, so does that of every earlier stage. -/
theorem IsStageOf.outcome_audit (isStage : stage.IsStageOf rule)
    (ended : (rule.audit catalog page index).outcome = .ok []) :
    (stage.audit catalog page index).outcome = .ok [] := by
  rw [outcome_audit_eq_ok_iff, issues_eq_nil_iff_clean] at ended ⊢
  obtain ⟨replayed, clean⟩ := ended
  have stageClean := isStage.clean clean
  refine ⟨stageClean.outcome_replay_iff.mpr ?_, stageClean⟩
  intro chain
  obtain ⟨rankable, countable⟩ := clean.outcome_replay_iff.mp replayed chain
  constructor
  · intro filled
    apply rankable
    rintro empty
    exact filled (List.prefix_nil.mp (empty ▸ isStage.chain chain))
  · rw [isCountable, List.all_eq_true] at countable ⊢
    exact fun tile member => countable tile ((isStage.chain chain).subset member)

/-- Nothing is found in what is left of a clean rule when its chains are cut short, or when its
actuator is taken away with the modifiers. -/
theorem audit_undone (ended : (rule.audit catalog page index).outcome = .ok []) :
    (∀ lengths, ((rule.cut lengths).audit catalog page index).outcome = .ok []) ∧
      ((rule.cleared .modifiers).audit catalog page index).outcome = .ok [] :=
  ⟨fun lengths => (rule.isStageOf_cut lengths).outcome_audit ended,
    rule.isStageOf_cleared_modifiers.outcome_audit ended⟩

end Rule

namespace Builtin

/-- A rule that races toward a near apple, as often quickly as the audit lets pass. -/
def racing : Rule :=
  let near := distanceFilter FilterId.nearby "nearby" FilterId.faraway
  let quickly := speedModifier ModifierId.quickly "quickly" ModifierId.slowly
  { chasing with
    filters := chasing.filters ++ [near, near]
    modifiers := chasing.modifiers ++ [quickly, quickly] }

/-- Without its last modifiers the race is left, and without its actuator a look for apples. -/
theorem audit_undone_racing :
    (racing.audit catalog 0 0).outcome = .ok [] ∧
      ((racing.cut fun | .filters => 1 | .modifiers => 2).audit catalog 0 0).outcome = .ok [] ∧
      ((racing.cleared .modifiers).audit catalog 0 0).outcome = .ok [] := by
  have typed : catalog.WellTyped := by decide +kernel
  have countable : ∀ chain, racing.isCountable chain = true :=
    Chain.forall_iff.mpr (by decide +kernel)
  have clean : racing.issues catalog 0 0 = [] := by decide +kernel
  have ended : (racing.audit catalog 0 0).outcome = .ok [] :=
    clean ▸ Rule.outcome_audit (fun chain => typed.isRankable chain.kind) countable 0 0
  have undone := Rule.audit_undone ended
  exact ⟨ended, undone.1 _, undone.2⟩

end Builtin

end TileBrain
