import TileBrain.Audit.Basic
import TileBrain.Proofs.Brain.TakenFrom
import TileBrain.Proofs.Catalog.WellTyped
import TileBrain.Proofs.Reported

/-! # What a rule passes the audit for

The audit of a rule over a catalog of well-typed tiles always comes to its end. It reports nothing
but exceeded caps exactly if the rule is legal: its chains have their anchors, none of its tiles is
hidden, and every tile of a chain is among those offered at its position.

`Rule.isAccepted_iff_legal` is that statement. It goes through the categories of findings one by
one, and `Rule.filter_findings` takes a rule's findings apart in the same way for all that is said
about one category alone.
-/

namespace TileBrain

/-- Categories are told apart by their labels. -/
theorem Finding.Category.label_inj {category other : Finding.Category} :
    category.label = other.label ↔ category = other := by
  cases category <;> cases other <;> decide

namespace Catalog

/-- Candidates with an order can be suggested at any position. -/
theorem suggestAt_of_isRankable {catalog : Catalog} {chain : Chain}
    (rankable : catalog.isRankable chain.kind = true) (rule : Rule) (position : Nat) :
    catalog.suggestAt rule chain position =
      ⟨[catalog.suggestNotice rule chain position], .ok (catalog.offered rule chain position)⟩ := by
  simp only [suggestAt, rankable, Bool.or_true, if_true]

/-- Candidates with an order are suggested at every index of the chain. -/
theorem outcome_suggest {catalog : Catalog} {rule : Rule} {chain : Chain} {index : Int}
    (rankable : catalog.isRankable chain.kind = true)
    (within : 0 ≤ index ∧ index ≤ (rule.chain chain).length) :
    (catalog.suggest rule chain index).outcome =
      .ok (catalog.offered rule chain index.toNat) := by
  rw [suggest, if_pos within]
  exact Reported.outcome_mapError_of_ok
    (congrArg Reported.outcome (suggestAt_of_isRankable rankable rule index.toNat)) _

end Catalog

namespace Rule

variable {rule : Rule} {catalog : Catalog} {chain : Chain} {page index : Int}

private theorem outcome_replayPlacement (rankable : catalog.isRankable chain.kind = true)
    (tile : Tile) (position : Nat) :
    (rule.replayPlacement catalog page index chain tile position).outcome = .ok () := by
  unfold replayPlacement
  split
  · rfl
  · rw [Catalog.suggestAt_of_isRankable rankable, Reported.outcome_bind_of_ok rfl]
    split <;> rfl

/-- A chain is replayed to its end if each of its tiles is and they can be counted, or if it lacks
its anchor. -/
theorem outcome_replayChain_eq_ok_iff :
    (rule.replayChain catalog page index chain).outcome = .ok () ↔
      ((rule.anchor? chain).isSome = true →
        (∀ position tile, (rule.chain chain)[position]? = some tile →
          (rule.replayPlacement catalog page index chain tile position).outcome = .ok ()) ∧
        rule.isCountable chain = true) := by
  have counted : (if rule.isCountable chain then pure () else
      Reported.fail .category : Reported Misfit Unit).outcome = .ok () ↔
        rule.isCountable chain = true := by
    cases rule.isCountable chain with
    | true => exact ⟨fun _ => rfl, fun _ => rfl⟩
    | false => exact ⟨nofun, nofun⟩
  unfold replayChain
  cases rule.anchor? chain with
  | none => exact ⟨fun _ => nofun, fun _ => rfl⟩
  | some anchor =>
    simp only [Option.isNone_some, Bool.false_eq_true, if_false, Option.isSome_some, forall_const,
      Reported.outcome_seq_eq_ok_iff, Reported.outcome_forM_eq_ok_iff, Prod.forall,
      List.mem_zipIdx_iff_getElem?, counted]
    rw [forall_comm]

theorem outcome_replay_eq_ok_iff :
    (rule.replay catalog page index).outcome = .ok () ↔
      ∀ chain, (rule.replayChain catalog page index chain).outcome = .ok () := by
  rw [replay, Reported.outcome_seq_eq_ok_iff, Chain.forall_iff]

/-- The suggestions are replayed to the end where candidates have an order and tiles can be
counted. -/
theorem outcome_replay (rankable : ∀ chain : Chain, catalog.isRankable chain.kind = true)
    (countable : ∀ chain, rule.isCountable chain = true) (page index : Int) :
    (rule.replay catalog page index).outcome = .ok () := by
  rw [outcome_replay_eq_ok_iff]
  intro chain
  rw [outcome_replayChain_eq_ok_iff]
  intro _
  exact ⟨fun position tile _ => outcome_replayPlacement (rankable chain) tile position,
    countable chain⟩

/-- The audit ends where the suggestions are replayed to the end, with the issues of the rule. -/
theorem outcome_audit_eq_ok_iff {found : List (Issue Json)} :
    (rule.audit catalog page index).outcome = .ok found ↔
      (rule.replay catalog page index).outcome = .ok () ∧
        rule.issues catalog page index = found := by
  rw [audit, Reported.outcome_seq_eq_ok_iff, Reported.outcome_pure_eq_ok_iff]

/-- The audit ends with the issues of the rule where candidates have an order and tiles can be
counted. -/
theorem outcome_audit (rankable : ∀ chain : Chain, catalog.isRankable chain.kind = true)
    (countable : ∀ chain, rule.isCountable chain = true) (page index : Int) :
    (rule.audit catalog page index).outcome = .ok (rule.issues catalog page index) :=
  outcome_audit_eq_ok_iff.mpr ⟨outcome_replay rankable countable page index, rfl⟩

/-- The audit reports the issues of the rule, if it ends. -/
theorem eq_issues_of_outcome_audit {found : List (Issue Json)}
    (ended : (rule.audit catalog page index).outcome = .ok found) :
    found = rule.issues catalog page index :=
  (outcome_audit_eq_ok_iff.mp ended).2.symm

/-- The tiles of a chain that is audited can be counted, unless it lacks its anchor. -/
theorem isCountable_of_outcome_audit {found : List (Issue Json)}
    (ended : (rule.audit catalog page index).outcome = .ok found)
    (anchored : (rule.anchor? chain).isSome = true) : rule.isCountable chain = true := by
  have replayed := outcome_replay_eq_ok_iff.mp (outcome_audit_eq_ok_iff.mp ended).1 chain
  exact (outcome_replayChain_eq_ok_iff.mp replayed anchored).2

/-- The issues of one category are about the findings of that category. -/
theorem filter_category_issues (category : Finding.Category) :
    (rule.issues catalog page index).filter (·.category = category.label) =
      ((rule.findings catalog).filter (·.category = category)).map (·.toIssue page index) := by
  have listed (finding : Finding) :
      decide ((finding.toIssue page index).category = category.label) =
        decide (finding.category = category) :=
    decide_eq_decide.mpr Finding.Category.label_inj
  simp only [issues, List.filter_map, Function.comp_def, listed]

/-- Issues are labelled with the categories of findings. -/
theorem category_of_mem_issues {issue : Issue Json}
    (member : issue ∈ rule.issues catalog page index) :
    ∃ category : Finding.Category, issue.category = category.label := by
  obtain ⟨finding, _, rfl⟩ := List.mem_map.mp member
  exact ⟨finding.category, rfl⟩

/-- The tiles of a well-typed catalog can be counted. -/
theorem TakenFrom.isCountable (taken : rule.TakenFrom catalog) (typed : catalog.WellTyped)
    (chain : Chain) : rule.isCountable chain = true := by
  apply List.all_eq_true.mpr
  intro tile member
  exact (typed tile (Catalog.mem_partition.mp (taken.chain chain tile member)).1).category

/-- Of findings of one category, none are left if that category is dropped. -/
theorem filter_eq_nil_of_category {findings : List Finding} {category : Finding.Category}
    {keeps : Finding → Bool} (same : ∀ finding ∈ findings, finding.category = category)
    (drops : ∀ finding, finding.category = category → keeps finding = false) :
    findings.filter keeps = [] := by
  rw [List.filter_eq_nil_iff]
  intro finding member
  rw [drops finding (same finding member)]
  exact Bool.false_ne_true

/-- Orphans are found unless every chain has its anchor. -/
theorem orphanFindings_eq_nil_iff : rule.orphanFindings = [] ↔ rule.Anchored := by
  simp only [orphanFindings, List.filterMap_eq_nil_iff, Anchored, Chain.forall_iff,
    List.forall_mem_cons]
  simp [Option.isNone_iff_eq_none]

theorem category_orphanFindings {finding : Finding}
    (member : finding ∈ rule.orphanFindings) : finding.category = .invariant := by
  obtain ⟨chain, _, found⟩ := List.mem_filterMap.mp member
  split at found
  · obtain rfl := Option.some.inj found
    rfl
  · contradiction

theorem hiddenFindings_eq_nil_iff :
    rule.hiddenFindings = [] ↔ ∀ tile ∈ rule.placed, tile.hidden = false := by
  simp [hiddenFindings, List.filter_eq_nil_iff]

theorem category_hiddenFindings {finding : Finding}
    (member : finding ∈ rule.hiddenFindings) : finding.category = .hidden := by
  obtain ⟨tile, _, rfl⟩ := List.mem_map.mp member
  rfl

/-- A visible tile is in its place if one with its identifier is offered there. -/
theorem placementFinding?_eq_none_iff {tile : Tile} (visible : tile.hidden = false)
    (position : Nat) :
    rule.placementFinding? catalog chain tile position = none ↔
      ∃ other ∈ catalog.offered rule chain position, other.id.same tile.id = true := by
  unfold placementFinding?
  cases ended : rule.terminalBefore? chain position with
  | some terminal => simp [Catalog.mem_offered, ended]
  | none => simp [visible]

private theorem category_placementFinding? {tile : Tile} {position : Nat} {finding : Finding}
    (found : rule.placementFinding? catalog chain tile position = some finding) :
    finding.category = .terminal ∨ finding.category = .illegal := by
  unfold placementFinding? at found
  split at found
  · obtain rfl := Option.some.inj found
    exact .inl rfl
  · split at found
    · contradiction
    · obtain rfl := Option.some.inj found
      exact .inr rfl

/-- The tiles of a chain are in their places if each is at its position. -/
theorem placementFindings_eq_nil_iff :
    rule.placementFindings catalog chain = [] ↔
      ∀ position tile, (rule.chain chain)[position]? = some tile →
        rule.placementFinding? catalog chain tile position = none := by
  simp only [placementFindings, List.filterMap_eq_nil_iff, Prod.forall,
    List.mem_zipIdx_iff_getElem?]
  exact forall_comm

/-- A tile is out of place behind a terminal one, or where it is not offered. -/
theorem category_placementFindings {finding : Finding}
    (member : finding ∈ rule.placementFindings catalog chain) :
    finding.category = .terminal ∨ finding.category = .illegal := by
  obtain ⟨_, _, found⟩ := List.mem_filterMap.mp member
  exact category_placementFinding? found

/-- Only caps are found where tiles are counted. -/
theorem category_overCountsFrom (all reported tiles : List Tile) :
    ∀ finding ∈ overCountsFrom chain all reported tiles, finding.category = .maxCount := by
  induction tiles generalizing reported with
  | nil => simp [overCountsFrom]
  | cons tile rest ih =>
    unfold overCountsFrom
    split
    · split
      · exact List.forall_mem_cons.mpr ⟨rfl, ih _⟩
      · exact ih _
    · exact ih _

/-- What is wrong with the places in a chain, unless it lacks its anchor. -/
def placements (rule : Rule) (catalog : Catalog) (chain : Chain) : List Finding :=
  if (rule.anchor? chain).isNone then [] else rule.placementFindings catalog chain

theorem category_placements {finding : Finding}
    (member : finding ∈ rule.placements catalog chain) :
    finding.category = .terminal ∨ finding.category = .illegal := by
  unfold placements at member
  split at member
  · contradiction
  · exact category_placementFindings member

/-- What is found besides caps. -/
theorem filter_findings {keeps : Finding → Bool}
    (drops : ∀ finding, finding.category = .maxCount → keeps finding = false) :
    (rule.findings catalog).filter keeps =
      rule.orphanFindings.filter keeps ++ rule.hiddenFindings.filter keeps ++
        (rule.placements catalog .filters).filter keeps ++
        (rule.placements catalog .modifiers).filter keeps := by
  have ofChain (chain : Chain) : (rule.chainFindings catalog chain).filter keeps =
      (rule.placements catalog chain).filter keeps := by
    have caps : (rule.overCountFindings chain).filter keeps = [] :=
      filter_eq_nil_of_category (category_overCountsFrom _ _ _) drops
    rw [chainFindings, placements]
    split
    · rfl
    · rw [List.filter_append, caps, List.append_nil]
  simp only [findings, List.filter_append, ofChain]

theorem filter_findings_ne_maxCount :
    (rule.findings catalog).filter (·.category ≠ .maxCount) =
      rule.orphanFindings ++ rule.hiddenFindings ++ rule.placements catalog .filters ++
        rule.placements catalog .modifiers := by
  have kept {findings : List Finding}
      (other : ∀ finding ∈ findings, finding.category ≠ .maxCount) :
      findings.filter (·.category ≠ .maxCount) = findings := by
    rw [List.filter_eq_self]
    exact fun finding member => decide_eq_true (other finding member)
  have orphans := kept fun finding (member : finding ∈ rule.orphanFindings) => by
    rw [category_orphanFindings member]
    decide
  have hidden := kept fun finding (member : finding ∈ rule.hiddenFindings) => by
    rw [category_hiddenFindings member]
    decide
  have places (chain : Chain) :=
    kept fun finding (member : finding ∈ rule.placements catalog chain) => by
      rcases category_placements member with same | same <;> rw [same] <;> decide
  rw [filter_findings (fun finding same => by simp [same]), orphans, hidden, places, places]

/-- In an anchored rule, no chain is passed over that has a tile. -/
theorem placements_eq_nil_iff (anchored : rule.Anchored) :
    rule.placements catalog chain = [] ↔ rule.placementFindings catalog chain = [] := by
  unfold placements
  split
  next missing =>
    have empty := anchored chain (Option.isNone_iff_eq_none.mp missing)
    simp [placementFindings, empty]
  next => exact Iff.rfl

/-- The chains have their anchors, no tile is hidden, and every tile of a chain is among those
offered at its position. -/
structure Legal (rule : Rule) (catalog : Catalog) : Prop where
  anchored : rule.Anchored
  visible : ∀ tile ∈ rule.placed, tile.hidden = false
  offered : ∀ chain position tile, (rule.chain chain)[position]? = some tile →
    tile ∈ catalog.offered rule chain position

/-- What is offered is known by its identifier among the tiles of a well-typed catalog. -/
private theorem placementFindings_eq_nil_iff_offered (typed : catalog.WellTyped)
    (taken : rule.TakenFrom catalog) (visible : ∀ tile ∈ rule.placed, tile.hidden = false) :
    rule.placementFindings catalog chain = [] ↔
      ∀ position tile, (rule.chain chain)[position]? = some tile →
        tile ∈ catalog.offered rule chain position := by
  rw [placementFindings_eq_nil_iff]
  refine forall_congr' fun position => forall_congr' fun tile => imp_congr_right fun present => ?_
  have placed : tile ∈ rule.placed :=
    mem_placed_iff.mpr ⟨chain, .inr (List.mem_of_getElem? present)⟩
  rw [placementFinding?_eq_none_iff (visible tile placed)]
  constructor
  · rintro ⟨other, offered, same⟩
    have candidate := Catalog.mem_candidates.mp (Catalog.mem_offered.mp offered).2.1
    rwa [← typed.eq_of_same_id candidate.1 (taken.mem_tiles placed) same]
  · intro offered
    exact ⟨tile, offered, Json.same_self_of_isString (typed tile (taken.mem_tiles placed)).id⟩

/-- A legal rule is one in which nothing but caps is found. -/
theorem findings_maxCount_iff_legal (typed : catalog.WellTyped) (taken : rule.TakenFrom catalog) :
    (∀ finding ∈ rule.findings catalog, finding.category = .maxCount) ↔ rule.Legal catalog := by
  have others : (∀ finding ∈ rule.findings catalog, finding.category = .maxCount) ↔
      (rule.findings catalog).filter (·.category ≠ .maxCount) = [] := by
    simp [List.filter_eq_nil_iff]
  rw [others, filter_findings_ne_maxCount]
  simp only [List.append_eq_nil_iff, orphanFindings_eq_nil_iff, hiddenFindings_eq_nil_iff]
  constructor
  · rintro ⟨⟨⟨anchored, visible⟩, filters⟩, modifiers⟩
    rw [placements_eq_nil_iff anchored,
      placementFindings_eq_nil_iff_offered typed taken visible] at filters modifiers
    exact ⟨anchored, visible, Chain.forall_iff.mpr ⟨filters, modifiers⟩⟩
  · rintro ⟨anchored, visible, offered⟩
    rw [placements_eq_nil_iff anchored, placements_eq_nil_iff anchored,
      placementFindings_eq_nil_iff_offered typed taken visible,
      placementFindings_eq_nil_iff_offered typed taken visible]
    exact ⟨⟨⟨anchored, visible⟩, offered .filters⟩, offered .modifiers⟩

/-- The audit ends, and reports nothing but exceeded caps. -/
def IsAccepted (rule : Rule) (catalog : Catalog) (page index : Int) : Prop :=
  ∃ issues, (rule.audit catalog page index).outcome = .ok issues ∧
    ∀ issue ∈ issues, issue.category = Finding.Category.maxCount.label

/-- The audit accepts the legal rules, wherever they stand. -/
theorem isAccepted_iff_legal (typed : catalog.WellTyped) (taken : rule.TakenFrom catalog)
    (page index : Int) : rule.IsAccepted catalog page index ↔ rule.Legal catalog := by
  have ended := outcome_audit (fun chain => typed.isRankable chain.kind)
    (taken.isCountable typed) page index
  rw [← findings_maxCount_iff_legal typed taken]
  simp only [IsAccepted, ended, Except.ok.injEq, exists_eq_left', issues, List.forall_mem_map]
  exact forall₂_congr fun _ _ => Finding.Category.label_inj

end Rule

end TileBrain
