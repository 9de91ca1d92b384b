import Mathlib.Logic.Relation
import TileBrain.Proofs.Placement

/-! # Authored rules

A rule is authored from the empty one: a sensor is taken from those on offer and filters are
appended one at a time, then an actuator and its modifiers, each tile from what is suggested at its
place. `isAuthored_iff` says that the audit finds nothing but exceeded caps in exactly these rules.

Growth is a chain of single placements, each of which keeps a rule legal. The other way round, a
legal rule grows from its beginnings, since what is offered at a place depends on the tiles ahead of
it alone. Nothing keeps an author from exceeding a cap, so that caps are left out.
-/

namespace TileBrain

namespace Rule

/-- One more tile at the end of a chain, from what is suggested there. -/
def Grows (catalog : Catalog) (chain : Chain) (rule next : Rule) : Prop :=
  ∃ tile, catalog.Offers rule chain tile ∧ next = rule.append chain tile

/-- A chain is left alone, or its anchor is taken from those on offer and tiles are appended. -/
inductive Completes (catalog : Catalog) (chain : Chain) (rule : Rule) : Rule → Prop where
  | leave : Completes catalog chain rule rule
  | choose {tiles : List Tile} {anchor : Tile} {next : Rule}
      (suggested : catalog.suggestAnchors chain = .ok tiles) (member : anchor ∈ tiles)
      (grown : Relation.ReflTransGen (Grows catalog chain)
        (rule.withAnchor (some anchor) chain) next) :
      Completes catalog chain rule next

/-- The rule comes from the empty one by way of the engine. The condition is free. -/
def IsAuthored (rule : Rule) (catalog : Catalog) : Prop :=
  ∃ half, Completes catalog .filters { empty with condition := rule.condition } half ∧
    Completes catalog .modifiers half rule

variable {catalog : Catalog} {rule next : Rule} {chain : Chain}

/-- Choosing an anchor leaves a rule legal if no tile depends on it yet. -/
theorem Legal.withAnchor (legal : rule.Legal catalog) {anchor : Tile}
    (candidate : anchor ∈ catalog.candidates chain.anchorKind)
    (unused : ∀ another, rule.chain another ≠ [] →
      (rule.withAnchor (some anchor) chain).before another = rule.before another) :
    (rule.withAnchor (some anchor) chain).Legal catalog where
  anchored := by
    intro another missing
    rw [chain_withAnchor]
    by_cases same : another = chain
    · subst same
      rw [anchor?_withAnchor] at missing
      contradiction
    · rw [anchor?_withAnchor_of_ne _ _ same] at missing
      exact legal.anchored another missing
  visible := by
    intro tile member
    obtain ⟨another, isAnchor | inChain⟩ := mem_placed_iff.mp member
    · by_cases same : another = chain
      · subst same
        rw [anchor?_withAnchor] at isAnchor
        obtain rfl := List.mem_singleton.mp isAnchor
        exact (Catalog.mem_candidates.mp candidate).2.2
      · rw [anchor?_withAnchor_of_ne _ _ same] at isAnchor
        exact legal.visible tile (mem_placed_iff.mpr ⟨another, .inl isAnchor⟩)
    · rw [chain_withAnchor] at inChain
      exact legal.visible tile (mem_placed_iff.mpr ⟨another, .inr inChain⟩)
  offered := by
    intro another position tile present
    rw [chain_withAnchor] at present
    have before := unused another (List.ne_nil_of_mem (List.mem_of_getElem? present))
    rw [Catalog.offered_congr before (by rw [chain_withAnchor])]
    exact legal.offered another position tile present

/-- Growth leaves a rule legal, and does not touch its other chain. -/
private theorem Legal.grown (typed : catalog.WellTyped) (legal : rule.Legal catalog)
    (anchored : rule.anchor? chain ≠ none)
    (grown : Relation.ReflTransGen (Grows catalog chain) rule next) :
    next.Legal catalog ∧ next.anchor? chain ≠ none ∧
      ∀ another ≠ chain, next.chain another = rule.chain another := by
  induction grown with
  | refl => exact ⟨legal, anchored, fun _ _ => rfl⟩
  | tail _ step ih =>
    obtain ⟨nowLegal, stillAnchored, others⟩ := ih
    obtain ⟨tile, offers, rfl⟩ := step
    have offered := (Catalog.offers_iff (typed.isRankable _)).mp offers
    refine ⟨nowLegal.append stillAnchored offered, ?_, ?_⟩
    · rwa [Rule.append, anchor?_withChain]
    · intro another differs
      rw [Rule.append, chain_withChain_of_ne _ _ differs, others another differs]

/-- Completing an empty chain leaves a rule legal if no tile depends on its anchor. -/
theorem Completes.legal (completes : Completes catalog chain rule next)
    (typed : catalog.WellTyped) (legal : rule.Legal catalog)
    (unused : ∀ anchor another, rule.chain another ≠ [] →
      (rule.withAnchor (some anchor) chain).before another = rule.before another) :
    next.Legal catalog ∧ ∀ another ≠ chain, next.chain another = rule.chain another := by
  cases completes with
  | leave => exact ⟨legal, fun _ _ => rfl⟩
  | @choose tiles anchor _ suggested member grown =>
    have candidate : anchor ∈ catalog.candidates chain.anchorKind := by
      rw [Catalog.suggestAnchors, Catalog.rank, if_pos (typed.isRankable _)] at suggested
      obtain rfl := Except.ok.inj suggested
      exact member
    have chosen : (rule.withAnchor (some anchor) chain).Legal catalog :=
      legal.withAnchor candidate (unused anchor)
    have anchored : (rule.withAnchor (some anchor) chain).anchor? chain ≠ none := by
      rw [anchor?_withAnchor]
      exact Option.some_ne_none anchor
    obtain ⟨grownLegal, _, others⟩ := chosen.grown typed anchored grown
    constructor
    · exact grownLegal
    · intro another differs
      rw [others another differs, chain_withAnchor]

/-- Nothing is wrong with a rule without tiles. -/
theorem legal_empty (condition : Condition) :
    ({ empty with condition } : Rule).Legal catalog where
  anchored := by
    intro chain _
    cases chain <;> rfl
  visible := by simp [placed, empty]
  offered := by
    intro chain position tile present
    cases chain <;> simp [Rule.chain, empty] at present

theorem IsAuthored.legal (authored : rule.IsAuthored catalog) (typed : catalog.WellTyped) :
    rule.Legal catalog := by
  obtain ⟨half, first, second⟩ := authored
  obtain ⟨halfLegal, untouched⟩ := first.legal typed (legal_empty _) (by
    intro anchor another filled
    cases another <;> exact absurd rfl filled)
  refine (second.legal typed halfLegal ?_).1
  -- Only the filters can hold tiles by then, and they do not depend on the actuator.
  intro anchor another filled
  cases another with
  | filters => rfl
  | modifiers => exact absurd (untouched .modifiers (by decide)) filled

/-- The rule without a chain and its anchor. -/
def cleared (rule : Rule) (chain : Chain) : Rule := (rule.withAnchor none chain).withChain [] chain

/-- Without an anchor and a chain there is nothing to clear. -/
theorem cleared_eq_self (missing : rule.anchor? chain = none) (empty : rule.chain chain = []) :
    rule.cleared chain = rule := by
  obtain ⟨condition, sensor, filters, actuator, modifiers⟩ := rule
  cases chain with
  | filters =>
    change sensor = none at missing
    change filters = [] at empty
    subst missing empty
    rfl
  | modifiers =>
    change actuator = none at missing
    change modifiers = [] at empty
    subst missing empty
    rfl

/-- A chain grows tile by tile if each of its tiles is offered at its position. -/
private theorem grows_of_offered (typed : catalog.WellTyped)
    (offered : ∀ position tile, (rule.chain chain)[position]? = some tile →
      tile ∈ catalog.offered rule chain position) :
    ∀ count ≤ (rule.chain chain).length,
      Relation.ReflTransGen (Grows catalog chain) (rule.withChain [] chain)
        (rule.withChain ((rule.chain chain).take count) chain) := by
  intro count
  induction count with
  | zero => exact fun _ => .refl
  | succ count ih =>
    intro within
    have grown := ih (Nat.le_of_succ_le within)
    have present : (rule.chain chain)[count]? = some (rule.chain chain)[count] :=
      List.getElem?_eq_getElem within
    have length : ((rule.chain chain).take count).length = count :=
      List.length_take_of_le (Nat.le_of_succ_le within)
    refine grown.tail ⟨(rule.chain chain)[count], ?_, ?_⟩
    · rw [Catalog.offers_iff (typed.isRankable _), chain_withChain, length]
      have same : catalog.offered (rule.withChain ((rule.chain chain).take count) chain) chain count
          = catalog.offered rule chain count :=
        Catalog.offered_congr (before_withChain ..) (by rw [chain_withChain, List.take_take,
          Nat.min_self])
      rw [same]
      exact offered count _ present
    · rw [List.take_succ_eq_append_getElem within]
      cases chain <;> rfl

/-- A chain can be completed if its tiles are offered and its anchor is a candidate. -/
private theorem completes_cleared (rule : Rule) (chain : Chain) (typed : catalog.WellTyped)
    (anchored : rule.anchor? chain = none → rule.chain chain = [])
    (candidate : ∀ tile ∈ (rule.anchor? chain).toList,
      tile ∈ catalog.candidates chain.anchorKind)
    (offered : ∀ position tile, (rule.chain chain)[position]? = some tile →
      tile ∈ catalog.offered rule chain position) :
    Completes catalog chain (rule.cleared chain) rule := by
  cases found : rule.anchor? chain with
  | none =>
    rw [cleared_eq_self found (anchored found)]
    exact .leave
  | some anchor =>
    have grown := grows_of_offered typed offered _ (Nat.le_refl _)
    have start : (rule.cleared chain).withAnchor (some anchor) chain = rule.withChain [] chain := by
      cases chain <;> simp_all [cleared, withAnchor, withChain, anchor?]
    rw [List.take_length, withChain_chain, ← start] at grown
    refine .choose (if_pos (typed.isRankable _)) (candidate anchor ?_) grown
    rw [found]
    exact List.mem_singleton.mpr rfl

/-- The anchors of a legal rule over a catalog are candidates. -/
theorem Legal.candidate (legal : rule.Legal catalog) (taken : rule.TakenFrom catalog)
    (chain : Chain) :
    ∀ tile ∈ (rule.anchor? chain).toList, tile ∈ catalog.candidates chain.anchorKind := by
  intro tile member
  obtain ⟨declared, kind⟩ := Catalog.mem_partition.mp (taken.anchor chain tile member)
  have visible := legal.visible tile (mem_placed_iff.mpr ⟨chain, .inl member⟩)
  exact Catalog.mem_candidates.mpr ⟨declared, kind, visible⟩

private theorem Legal.isAuthored (legal : rule.Legal catalog) (typed : catalog.WellTyped)
    (taken : rule.TakenFrom catalog) : rule.IsAuthored catalog := by
  refine ⟨rule.cleared .modifiers, ?_, ?_⟩
  · -- Without its second half, the rule has the same filters on offer.
    exact completes_cleared (rule.cleared .modifiers) .filters typed (legal.anchored .filters)
      (legal.candidate taken .filters) (legal.offered .filters)
  · exact completes_cleared rule .modifiers typed (legal.anchored .modifiers)
      (legal.candidate taken .modifiers) (legal.offered .modifiers)

/-- The issues that tell against a placement are all but the exceeded caps. -/
private theorem accepted_iff_unlisted (page index : Int) :
    (∃ issues, (rule.audit catalog page index).outcome = .ok issues ∧
      ∀ issue ∈ issues, issue.category ∉ ["invariant", "hidden", "terminal", "illegal"]) ↔
    rule.IsAccepted catalog page index := by
  refine exists_congr fun issues => and_congr_right fun ended => ?_
  refine forall₂_congr fun issue member => ?_
  obtain ⟨category, label⟩ := category_of_mem_issues (eq_issues_of_outcome_audit ended ▸ member)
  rw [label]
  cases category <;> decide

/-- The audit finds nothing but exceeded caps in exactly the rules that can be authored. -/
theorem isAuthored_iff (typed : catalog.WellTyped) (taken : rule.TakenFrom catalog)
    (page index : Int) :
    (∃ issues, (rule.audit catalog page index).outcome = .ok issues ∧
      ∀ issue ∈ issues, issue.category ∉ ["invariant", "hidden", "terminal", "illegal"]) ↔
    rule.IsAuthored catalog := by
  rw [accepted_iff_unlisted, isAccepted_iff_legal typed taken]
  exact ⟨fun legal => legal.isAuthored typed taken, fun authored => authored.legal typed⟩

end Rule

namespace Builtin

/-- A rule that moves quickly toward an apple that it sees. -/
def chasing : Rule :=
  ((seeingMoving.append .filters (subjectFilter FilterId.apple "Apple")).append .modifiers
    (directionModifier ModifierId.toward "toward" 10)).append .modifiers
      (speedModifier ModifierId.quickly "quickly" ModifierId.slowly)

/-- The chase can be authored from the built-in tiles. -/
theorem isAuthored_chasing :
    catalog.WellTyped ∧ chasing.TakenFrom catalog ∧
      ((∃ issues, (chasing.audit catalog 0 0).outcome = .ok issues ∧
        ∀ issue ∈ issues, issue.category ∉ ["invariant", "hidden", "terminal", "illegal"]) ↔
      chasing.IsAuthored catalog) ∧ chasing.IsAuthored catalog := by
  have typed : catalog.WellTyped := by decide +kernel
  have taken : chasing.TakenFrom catalog := by decide +kernel
  have ended := Rule.outcome_audit (fun chain => typed.isRankable chain.kind)
    (taken.isCountable typed) 0 0
  have clean : chasing.issues catalog 0 0 = [] := by decide +kernel
  have authored := Rule.isAuthored_iff typed taken 0 0
  exact ⟨typed, taken, authored, authored.mp ⟨[], clean ▸ ended, by simp⟩⟩

end Builtin

end TileBrain
