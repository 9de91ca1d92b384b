import TileBrain.Catalog.Builtin
import TileBrain.Proofs.Audit.Legality

/-! # Placing an offered tile

What is offered at a position depends on the tiles ahead of it alone. An offered filter therefore
leaves a legal rule legal, and so does an offered modifier, provided that there is an actuator. A
sensor allows modifiers as well, so some may be offered where no actuator is placed; the audit then
finds the modifier an orphan.
-/

namespace TileBrain

namespace Rule

/-- The actuator counts before modifiers only. -/
theorem before_congr {rule other : Rule} {chain : Chain} (sensor : rule.sensor = other.sensor)
    (actuator : chain = .modifiers → rule.actuator = other.actuator) :
    rule.before chain = other.before chain := by
  cases chain with
  | filters => rw [before, before, sensor]
  | modifiers => rw [before, before, sensor, actuator rfl]

/-- The tile right in front of a position is one of those in front of it. -/
theorem terminalBefore?_congr {rule other : Rule} {chain : Chain} {position : Nat}
    (same : (rule.chain chain).take position = (other.chain chain).take position) :
    rule.terminalBefore? chain position = other.terminalBefore? chain position := by
  cases position with
  | zero => rfl
  | succ last =>
    have last_eq : (rule.chain chain)[last]? = (other.chain chain)[last]? := by
      rw [← List.getElem?_take_of_succ, same, List.getElem?_take_of_succ]
    simp only [terminalBefore?, last_eq]

end Rule

namespace Catalog

variable {catalog : Catalog} {rule : Rule} {chain : Chain}

/-- Rules with the same tiles ahead of a position are offered the same there. -/
theorem offered_congr {other : Rule} {position : Nat}
    (before : rule.before chain = other.before chain)
    (same : (rule.chain chain).take position = (other.chain chain).take position) :
    catalog.offered rule chain position = catalog.offered other chain position := by
  have ahead : rule.ahead chain position = other.ahead chain position := by
    rw [Rule.ahead, Rule.ahead, before, same]
  simp only [offered, Rule.terminalBefore?_congr same, Rule.accumulated, ahead]

/-- Tiles further back do not change what is offered. -/
private theorem offered_append_of_le (tile : Tile) {position : Nat}
    (within : position ≤ (rule.chain chain).length) :
    catalog.offered (rule.append chain tile) chain position =
      catalog.offered rule chain position := by
  refine offered_congr (Rule.before_withChain ..) ?_
  rw [Rule.chain_append, List.take_append_of_le_length within]

/-- Nor does a tile in the other chain. -/
private theorem offered_append_of_ne (tile : Tile) {another : Chain} (differs : another ≠ chain)
    (position : Nat) :
    catalog.offered (rule.append chain tile) another position =
      catalog.offered rule another position := by
  refine offered_congr (Rule.before_withChain ..) ?_
  rw [Rule.append, Rule.chain_withChain_of_ne _ _ differs]

/-- What is offered is a tile of the kind of the chain. -/
theorem mem_partition_of_offered {position : Nat} {tile : Tile}
    (member : tile ∈ catalog.offered rule chain position) :
    tile ∈ catalog.partition chain.kind := by
  obtain ⟨declared, kind, _⟩ := mem_candidates.mp (mem_offered.mp member).2.1
  exact mem_partition.mpr ⟨declared, kind⟩

/-- With nothing ahead, nothing is allowed. -/
theorem offered_eq_nil_of_ahead_eq_nil {position : Nat}
    (nothing : rule.ahead chain position = []) : catalog.offered rule chain position = [] := by
  apply List.eq_nil_iff_forall_not_mem.mpr
  intro tile member
  have compatible := (mem_offered.mp member).2.2
  rw [Rule.accumulated, nothing] at compatible
  simp [Tile.isCompatible, Accumulated.ofTiles, Accumulated.mergeAll, Accumulated.empty,
    Json.isAmong] at compatible

/-- The tile is among those suggested at the end of the chain. -/
def Offers (catalog : Catalog) (rule : Rule) (chain : Chain) (tile : Tile) : Prop :=
  ∃ tiles, (catalog.suggest rule chain (rule.chain chain).length).outcome = .ok tiles ∧
    tile ∈ tiles

/-- Where candidates have an order, what is offered at the end is suggested there. -/
theorem offers_iff (rankable : catalog.isRankable chain.kind = true) {tile : Tile} :
    catalog.Offers rule chain tile ↔
      tile ∈ catalog.offered rule chain (rule.chain chain).length := by
  simp [Offers, outcome_suggest rankable]

end Catalog

namespace Rule

variable {catalog : Catalog} {rule : Rule} {chain : Chain} {tile : Tile}

/-- An offered tile leaves a legal rule legal if the chain has its anchor. -/
theorem Legal.append (legal : rule.Legal catalog) (anchored : rule.anchor? chain ≠ none)
    (offered : tile ∈ catalog.offered rule chain (rule.chain chain).length) :
    (rule.append chain tile).Legal catalog where
  anchored := by
    intro another missing
    rw [Rule.append, anchor?_withChain] at missing
    have differs : another ≠ chain := fun same => anchored (same ▸ missing)
    rw [Rule.append, chain_withChain_of_ne _ _ differs]
    exact legal.anchored another missing
  visible := by
    intro other member
    obtain ⟨another, anchor | inChain⟩ := mem_placed_iff.mp member
    · rw [Rule.append, anchor?_withChain] at anchor
      exact legal.visible other (mem_placed_iff.mpr ⟨another, .inl anchor⟩)
    · by_cases same : another = chain
      · subst same
        rw [chain_append, List.mem_append, List.mem_singleton] at inChain
        rcases inChain with earlier | rfl
        · exact legal.visible other (mem_placed_iff.mpr ⟨another, .inr earlier⟩)
        · exact (Catalog.mem_candidates.mp (Catalog.mem_offered.mp offered).2.1).2.2
      · rw [Rule.append, chain_withChain_of_ne _ _ same] at inChain
        exact legal.visible other (mem_placed_iff.mpr ⟨another, .inr inChain⟩)
  offered := by
    intro another position other present
    by_cases same : another = chain
    · subst same
      rw [chain_append] at present
      rcases Nat.lt_or_ge position (rule.chain another).length with earlier | atEnd
      · rw [List.getElem?_append_left earlier] at present
        rw [Catalog.offered_append_of_le tile (Nat.le_of_lt earlier)]
        exact legal.offered another position other present
      · rw [List.getElem?_append_right atEnd, List.getElem?_singleton] at present
        split at present
        next isLast =>
          obtain rfl := Option.some.inj present
          have position_eq : position = (rule.chain another).length := by omega
          rw [position_eq, Catalog.offered_append_of_le tile (Nat.le_refl _)]
          exact offered
        next => contradiction
    · rw [Rule.append, chain_withChain_of_ne _ _ same] at present
      rw [Catalog.offered_append_of_ne tile same]
      exact legal.offered another position other present

/-- In a legal rule, a chain with a tile has its anchor. -/
theorem Legal.anchor_of_append (legal : (rule.append chain tile).Legal catalog) :
    rule.anchor? chain ≠ none := by
  intro missing
  have empty := legal.anchored chain (by rw [Rule.append, anchor?_withChain, missing])
  rw [chain_append] at empty
  exact List.append_ne_nil_of_right_ne_nil _ (List.cons_ne_nil _ _) empty

/-- Only a sensor allows filters. -/
theorem Anchored.sensor_of_offered (anchored : rule.Anchored)
    (offered : tile ∈ catalog.offered rule .filters rule.filters.length) :
    rule.sensor ≠ none := by
  intro missing
  have empty : rule.filters = [] := anchored .filters missing
  have nothing : rule.ahead .filters rule.filters.length = [] := by
    simp [ahead, before, Rule.chain, missing, empty]
  rw [Catalog.offered_eq_nil_of_ahead_eq_nil nothing] at offered
  exact List.not_mem_nil offered

/-- Filters on offer are accepted at the end of an accepted rule, and modifiers on offer are if the
rule has an actuator, and only then. -/
theorem isAccepted_append_iff (typed : catalog.WellTyped) (taken : rule.TakenFrom catalog)
    {page index : Int} (accepted : rule.IsAccepted catalog page index) :
    (∀ tile, catalog.Offers rule .filters tile →
      (rule.append .filters tile).IsAccepted catalog page index) ∧
    ∀ tile, catalog.Offers rule .modifiers tile →
      ((rule.append .modifiers tile).IsAccepted catalog page index ↔ rule.actuator ≠ none) := by
  have legal := (isAccepted_iff_legal typed taken page index).mp accepted
  have appended {chain : Chain} {tile : Tile} (offers : catalog.Offers rule chain tile) :
      (rule.append chain tile).TakenFrom catalog := by
    have offered := (Catalog.offers_iff (typed.isRankable _)).mp offers
    exact taken.append (Catalog.mem_partition_of_offered offered)
  constructor
  · intro tile offers
    have offered := (Catalog.offers_iff (typed.isRankable _)).mp offers
    rw [isAccepted_iff_legal typed (appended offers)]
    exact legal.append (legal.anchored.sensor_of_offered offered) offered
  · intro tile offers
    have offered := (Catalog.offers_iff (typed.isRankable _)).mp offers
    rw [isAccepted_iff_legal typed (appended offers)]
    exact ⟨Legal.anchor_of_append, fun anchored => legal.append anchored offered⟩

end Rule

namespace Builtin

/-- A rule that sees, and does nothing. -/
def seeing : Rule := { Rule.empty with sensor := catalog.get? .sensor (.str SensorId.see) }

/-- A rule that sees, and moves. -/
def seeingMoving : Rule :=
  { seeing with actuator := catalog.get? .actuator (.str ActuatorId.move) }

/-- A subject may be appended to what is seen, and an expression to the move. -/
theorem isAccepted_append_seeingMoving :
    catalog.WellTyped ∧ seeingMoving.TakenFrom catalog ∧ seeingMoving.IsAccepted catalog 0 0 ∧
      catalog.Offers seeingMoving .filters (subjectFilter FilterId.kodu "Kodu") ∧
      catalog.Offers seeingMoving .modifiers (expressionModifier ModifierId.expressSad "sad") ∧
      (seeingMoving.append .filters (subjectFilter FilterId.kodu "Kodu")).IsAccepted catalog 0 0 ∧
      ((seeingMoving.append .modifiers
        (expressionModifier ModifierId.expressSad "sad")).IsAccepted catalog 0 0 ↔
          seeingMoving.actuator ≠ none) := by
  have typed : catalog.WellTyped := by decide +kernel
  have taken : seeingMoving.TakenFrom catalog := by decide +kernel
  have accepted : seeingMoving.IsAccepted catalog 0 0 := ⟨[], rfl, by simp⟩
  have subject : catalog.Offers seeingMoving .filters (subjectFilter FilterId.kodu "Kodu") :=
    (Catalog.offers_iff (typed.isRankable _)).mpr (by decide +kernel)
  have expression :
      catalog.Offers seeingMoving .modifiers (expressionModifier ModifierId.expressSad "sad") :=
    (Catalog.offers_iff (typed.isRankable _)).mpr (by decide +kernel)
  have appended := Rule.isAccepted_append_iff typed taken accepted
  exact ⟨typed, taken, accepted, subject, expression, appended.1 _ subject,
    appended.2 _ expression⟩

/-- An expression is on offer as a modifier of a rule that only sees, but is an orphan there. -/
theorem not_isAccepted_append_seeing :
    seeing.TakenFrom catalog ∧ seeing.IsAccepted catalog 0 0 ∧
      catalog.Offers seeing .modifiers (expressionModifier ModifierId.expressSad "sad") ∧
      ¬ (seeing.append .modifiers
        (expressionModifier ModifierId.expressSad "sad")).IsAccepted catalog 0 0 := by
  have typed : catalog.WellTyped := by decide +kernel
  have taken : seeing.TakenFrom catalog := by decide +kernel
  have member : expressionModifier ModifierId.expressSad "sad" ∈ catalog.partition .modifier := by
    decide +kernel
  refine ⟨taken, ⟨[], rfl, by simp⟩, ?_, ?_⟩
  · exact (Catalog.offers_iff (typed.isRankable _)).mpr (by decide +kernel)
  · rw [Rule.isAccepted_iff_legal typed (taken.append member)]
    exact fun legal => legal.anchor_of_append rfl

end Builtin

end TileBrain
