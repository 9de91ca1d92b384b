import TileBrain.Proofs.Authorship

/-! # What a clean audit means

A brain may be audited against another catalog than the one that its tiles come from. If nothing is
reported all the same, every tile of a chain is suggested at its place, as far as its identifier
goes. Sensors and actuators are not compared with what is suggested; they are if the catalog has a
visible tile of its own for them, and only then.
-/

namespace TileBrain

namespace Catalog

variable {catalog : Catalog} {rule : Rule} {chain : Chain}

/-- The identifier is among those of the tiles suggested at a position. -/
def SuggestsId (catalog : Catalog) (rule : Rule) (chain : Chain) (position : Nat) (id : Json) :
    Prop :=
  ∃ tiles, (catalog.suggest rule chain position).outcome = .ok tiles ∧ id ∈ tiles.map Tile.id

/-- The identifier is among those of the tiles suggested for a chain to refine. -/
def SuggestsAnchorId (catalog : Catalog) (chain : Chain) (id : Json) : Prop :=
  ∃ tiles, catalog.suggestAnchors chain = .ok tiles ∧ id ∈ tiles.map Tile.id

/-- A tile with a text as its identifier has the identifier that counts as the same. -/
private theorem WellTyped.id_eq_of_same (typed : catalog.WellTyped) {own : Tile}
    (member : own ∈ catalog.tiles) {id : Json} (same : own.id.same id = true) : own.id = id :=
  (Json.same_iff_of_isString (typed own member).id).mp same

private theorem WellTyped.suggestsId (typed : catalog.WellTyped) {position : Nat} {id : Json}
    (within : position ≤ (rule.chain chain).length)
    (offered : ∃ own ∈ catalog.offered rule chain position, own.id.same id = true) :
    catalog.SuggestsId rule chain position id := by
  obtain ⟨own, isOffered, same⟩ := offered
  have candidate := mem_candidates.mp (mem_offered.mp isOffered).2.1
  refine ⟨_, outcome_suggest (typed.isRankable _) ⟨by omega, by omega⟩, ?_⟩
  apply List.mem_map.mpr
  exact ⟨own, isOffered, typed.id_eq_of_same candidate.1 same⟩

/-- What a chain may refine are the visible tiles of the catalog. -/
theorem WellTyped.suggestsAnchorId_iff (typed : catalog.WellTyped) {id : Json} :
    catalog.SuggestsAnchorId chain id ↔
      ∃ own ∈ catalog.partition chain.anchorKind, own.id = id ∧ own.hidden = false := by
  have ranked : catalog.suggestAnchors chain = .ok (catalog.candidates chain.anchorKind) := by
    rw [suggestAnchors, rank, if_pos (typed.isRankable _)]
  simp only [SuggestsAnchorId, ranked, Except.ok.injEq, exists_eq_left', List.mem_map,
    mem_candidates, mem_partition]
  constructor
  · rintro ⟨own, ⟨declared, kind, visible⟩, isId⟩
    exact ⟨own, ⟨declared, kind⟩, isId, visible⟩
  · rintro ⟨own, ⟨declared, kind⟩, isId, visible⟩
    exact ⟨own, ⟨declared, kind, visible⟩, isId⟩

end Catalog

namespace Rule

variable {rule : Rule} {catalog : Catalog} {chain : Chain}

/-- The chains have their anchors, no tile is hidden where it comes from, every tile of a chain has
one with its identifier on offer at its position, and no cap is exceeded. -/
structure Clean (rule : Rule) (catalog : Catalog) : Prop where
  anchored : rule.Anchored
  visible : ∀ tile ∈ rule.placed, tile.hidden = false
  offered : ∀ chain position tile, (rule.chain chain)[position]? = some tile →
    ∃ own ∈ catalog.offered rule chain position, own.id.same tile.id = true
  capped : ∀ chain, rule.overCountFindings chain = []

/-- A chain without its anchor is empty in an anchored rule, so that there is nothing to find. -/
theorem chainFindings_eq_nil_iff (anchored : rule.Anchored) :
    rule.chainFindings catalog chain = [] ↔
      rule.placementFindings catalog chain = [] ∧ rule.overCountFindings chain = [] := by
  unfold chainFindings
  split
  next missing =>
    have empty := anchored chain (Option.isNone_iff_eq_none.mp missing)
    simp [placementFindings, overCountFindings, empty, overCountsFrom]
  next => exact List.append_eq_nil_iff

/-- Nothing is found in clean rules, and in no others. -/
theorem findings_eq_nil_iff_clean : rule.findings catalog = [] ↔ rule.Clean catalog := by
  have placed {chain : Chain} {position : Nat} {tile : Tile}
      (present : (rule.chain chain)[position]? = some tile) : tile ∈ rule.placed :=
    mem_placed_iff.mpr ⟨chain, .inr (List.mem_of_getElem? present)⟩
  simp only [findings, List.append_eq_nil_iff, orphanFindings_eq_nil_iff, hiddenFindings_eq_nil_iff]
  constructor
  · rintro ⟨⟨⟨anchored, visible⟩, filters⟩, modifiers⟩
    have chains : ∀ chain, rule.chainFindings catalog chain = [] :=
      Chain.forall_iff.mpr ⟨filters, modifiers⟩
    simp only [chainFindings_eq_nil_iff anchored, placementFindings_eq_nil_iff] at chains
    refine ⟨anchored, visible, ?_, fun chain => (chains chain).2⟩
    intro chain position tile present
    exact (placementFinding?_eq_none_iff (visible tile (placed present)) position).mp
      ((chains chain).1 position tile present)
  · intro clean
    have chains : ∀ chain, rule.chainFindings catalog chain = [] := by
      intro chain
      rw [chainFindings_eq_nil_iff clean.anchored, placementFindings_eq_nil_iff]
      refine ⟨?_, clean.capped chain⟩
      intro position tile present
      exact (placementFinding?_eq_none_iff (clean.visible tile (placed present)) position).mpr
        (clean.offered chain position tile present)
    exact ⟨⟨⟨clean.anchored, clean.visible⟩, chains .filters⟩, chains .modifiers⟩

theorem issues_eq_nil_iff_clean {page index : Int} :
    rule.issues catalog page index = [] ↔ rule.Clean catalog := by
  rw [issues, List.map_eq_nil_iff, findings_eq_nil_iff_clean]

end Rule

namespace Brain

variable {brain : Brain} {catalog : Catalog}

/-- The suggestions replayed for all rules. -/
def replay (brain : Brain) (catalog : Catalog) : Reported Misfit Unit :=
  brain.labelledRules.forM fun (rule, page, index) => rule.replay catalog page index

theorem audit_eq (brain : Brain) (catalog : Catalog) :
    brain.audit catalog = (do
      brain.replay catalog
      .note (if (brain.issues catalog).isEmpty then []
        else [.issuesFound (brain.issues catalog).length])
      pure (brain.issues catalog)) := rfl

theorem outcome_audit_eq_map (brain : Brain) (catalog : Catalog) :
    (brain.audit catalog).outcome =
      (brain.replay catalog).outcome.map fun _ => brain.issues catalog := by
  rw [audit_eq, Reported.outcome_bind]
  cases (brain.replay catalog).outcome <;> rfl

/-- The audit ends with the issues of the brain where candidates have an order and tiles can be
counted. -/
theorem outcome_audit (rankable : ∀ chain : Chain, catalog.isRankable chain.kind = true)
    (countable : ∀ labelled ∈ brain.labelledRules, ∀ chain, labelled.1.isCountable chain = true) :
    (brain.audit catalog).outcome = .ok (brain.issues catalog) := by
  have replayed : (brain.replay catalog).outcome = .ok () := by
    apply Reported.outcome_forM_of_ok
    intro labelled member
    exact Rule.outcome_replay rankable (countable labelled member) _ _
  rw [outcome_audit_eq_map, replayed]
  rfl

/-- The audit reports the issues of the brain, if it ends. -/
theorem eq_issues_of_outcome_audit {found : List (Issue Json)}
    (ended : (brain.audit catalog).outcome = .ok found) : found = brain.issues catalog := by
  rw [outcome_audit_eq_map] at ended
  cases replayed : (brain.replay catalog).outcome with
  | ok _ =>
    rw [replayed] at ended
    exact (Except.ok.inj ended).symm
  | error _ =>
    rw [replayed] at ended
    exact nomatch ended

theorem exists_mem_labelledRules {page : Page} (isPage : page ∈ brain.pages.toList)
    {rule : Rule} (isRule : rule ∈ page.rules) :
    ∃ labels, (rule, labels) ∈ brain.labelledRules := by
  obtain ⟨pageIndex, pageAt⟩ := List.mem_iff_getElem?.mp isPage
  obtain ⟨index, ruleAt⟩ := List.mem_iff_getElem?.mp isRule
  refine ⟨(pageIndex, index), List.mem_flatMap.mpr ⟨(page, pageIndex), ?_, ?_⟩⟩
  · exact List.mem_zipIdx_iff_getElem?.mpr pageAt
  · exact List.mem_map.mpr ⟨(rule, index), List.mem_zipIdx_iff_getElem?.mpr ruleAt, rfl⟩

theorem exists_of_mem_labelledRules {labelled : Rule × Nat × Nat}
    (member : labelled ∈ brain.labelledRules) :
    ∃ page ∈ brain.pages.toList, labelled.1 ∈ page.rules := by
  obtain ⟨⟨page, pageIndex⟩, isPage, inPage⟩ := List.mem_flatMap.mp member
  obtain ⟨⟨rule, index⟩, isRule, rfl⟩ := List.mem_map.mp inPage
  exact ⟨page, List.fst_mem_of_mem_zipIdx isPage, List.fst_mem_of_mem_zipIdx isRule⟩

/-- The audit ends for every brain over a catalog of well-typed tiles. -/
theorem TakenFrom.outcome_audit (taken : brain.TakenFrom catalog) (typed : catalog.WellTyped) :
    (brain.audit catalog).outcome = .ok (brain.issues catalog) := by
  refine Brain.outcome_audit (fun chain => typed.isRankable chain.kind) ?_
  intro labelled member
  obtain ⟨page, isPage, isRule⟩ := exists_of_mem_labelledRules member
  exact (taken page isPage labelled.1 isRule).isCountable typed

/-- Without an issue, every rule is clean. -/
theorem clean_of_outcome_audit (ended : (brain.audit catalog).outcome = .ok []) {page : Page}
    (isPage : page ∈ brain.pages.toList) {rule : Rule} (isRule : rule ∈ page.rules) :
    rule.Clean catalog := by
  have noFindings : brain.findings catalog = [] :=
    List.map_eq_nil_iff.mp (eq_issues_of_outcome_audit ended).symm
  obtain ⟨labels, member⟩ := exists_mem_labelledRules isPage isRule
  have ofRule := List.flatMap_eq_nil_iff.mp noFindings _ member
  exact Rule.findings_eq_nil_iff_clean.mp (List.map_eq_nil_iff.mp ofRule)

/-- If the audit of a brain with tiles of any origin reports nothing, all its filters and modifiers
have their identifiers suggested at their places. Those of its sensors and actuators are suggested
if the catalog has a visible tile for them. -/
theorem suggestsId_of_audit_eq_nil (typed : catalog.WellTyped)
    (ended : (brain.audit catalog).outcome = .ok []) :
    ∀ page ∈ brain.pages.toList, ∀ rule ∈ page.rules, ∀ chain,
      (∀ position tile, (rule.chain chain)[position]? = some tile →
        catalog.SuggestsId rule chain position tile.id) ∧
      ∀ anchor, rule.anchor? chain = some anchor →
        (catalog.SuggestsAnchorId chain anchor.id ↔
          ∃ own ∈ catalog.partition chain.anchorKind, own.id = anchor.id ∧ own.hidden = false) := by
  intro page isPage rule isRule chain
  have clean := clean_of_outcome_audit ended isPage isRule
  constructor
  · intro position tile present
    have within := (List.getElem?_eq_some_iff.mp present).1
    exact typed.suggestsId (Nat.le_of_lt within) (clean.offered chain position tile present)
  · intro anchor _
    exact typed.suggestsAnchorId_iff

end Brain

namespace Builtin

/-- The built-in tiles after the sensor that sees was retired. -/
def retired : Catalog where
  tiles := catalog.tiles.map fun tile => { tile with
    hidden := tile.hidden || tile.id = .str SensorId.see }
  ids_atomic := by decide +kernel
  ids_distinct := by decide +kernel

/-- A brain that chases apples, made when its sensor was still offered. -/
def chaser : Brain := ⟨⟨[⟨[chasing]⟩, .empty, .empty, .empty, .empty], rfl⟩⟩

private theorem outcome_audit_chaser : (chaser.audit retired).outcome = .ok [] := by
  have typed : retired.WellTyped := by decide +kernel
  have clean : chaser.issues retired = [] := by decide +kernel
  have countable : ∀ labelled ∈ chaser.labelledRules,
      labelled.1.isCountable .filters = true ∧ labelled.1.isCountable .modifiers = true := by
    decide +kernel
  rw [← clean]
  apply Brain.outcome_audit
  · intro chain
    exact typed.isRankable chain.kind
  · intro labelled member
    exact Chain.forall_iff.mpr (countable labelled member)

/-- Its filters and modifiers are still suggested, and its actuator is. -/
theorem suggestsId_chaser :
    retired.WellTyped ∧ (chaser.audit retired).outcome = .ok [] ∧
      retired.SuggestsId chasing .filters 0 (.str FilterId.apple) ∧
      retired.SuggestsId chasing .modifiers 0 (.str ModifierId.toward) ∧
      retired.SuggestsId chasing .modifiers 1 (.str ModifierId.quickly) ∧
      retired.SuggestsAnchorId .modifiers (.str ActuatorId.move) := by
  have typed : retired.WellTyped := by decide +kernel
  have suggested := Brain.suggestsId_of_audit_eq_nil typed outcome_audit_chaser ⟨[chasing]⟩
    (.head _) chasing (.head _)
  refine ⟨typed, outcome_audit_chaser, ?_, ?_, ?_, ?_⟩
  · exact (suggested .filters).1 0 _ rfl
  · exact (suggested .modifiers).1 0 _ rfl
  · exact (suggested .modifiers).1 1 _ rfl
  · exact ((suggested .modifiers).2 _ rfl).mpr (by decide +kernel)

/-- Its sensor is not, although the audit reports nothing. -/
theorem not_suggestsAnchorId_chaser :
    retired.WellTyped ∧ (chaser.audit retired).outcome = .ok [] ∧
      ∃ page ∈ chaser.pages.toList, ∃ rule ∈ page.rules, ∃ sensor, rule.sensor = some sensor ∧
        ¬ retired.SuggestsAnchorId .filters sensor.id := by
  have typed : retired.WellTyped := by decide +kernel
  refine ⟨typed, outcome_audit_chaser, ⟨[chasing]⟩, .head _, chasing, .head _, _, rfl, ?_⟩
  rw [typed.suggestsAnchorId_iff]
  decide +kernel

end Builtin

end TileBrain
