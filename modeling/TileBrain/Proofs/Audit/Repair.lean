import TileBrain.Proofs.Audit.Clean
import TileBrain.Proofs.Brain.Upkeep
import TileBrain.Proofs.Locality

/-! # The audit of a repaired brain

A repair settles the findings about chains without their anchors and about the hidden tiles in them.
`Brain.auditsRepaired` says that it settles no others and raises none, that those which are left
stay in their order and under their labels, and that trimming a repaired brain does not change its
audit.

`Rule.tracedFindings` marks those findings that repair settles, so that the others keep their order
by construction; the rules of a brain are then compared one by one. Neither the catalog nor the
brain has to be well-formed.
-/

namespace TileBrain

namespace Rule

/-- Whether a repair clears a chain. -/
def clears (rule : Rule) (chain : Chain) : Bool := (rule.anchor? chain).isNone

/-- What is found about the hidden ones of some tiles. -/
def hiddenAmong (tiles : List Tile) : List Finding := (tiles.filter Tile.hidden).map .hiddenTile

/-- Everything that is wrong with a rule, and whether a repair settles it: it is about a chain
without its anchor, or about a hidden tile in such a chain. -/
def tracedFindings (rule : Rule) (catalog : Catalog) : List (Finding × Bool) :=
  rule.orphanFindings.map (·, true) ++
    (hiddenAmong (rule.sensor.toList ++ rule.actuator.toList)).map (·, false) ++
    (hiddenAmong rule.filters).map (·, rule.clears .filters) ++
    (hiddenAmong rule.modifiers).map (·, rule.clears .modifiers) ++
    (rule.chainFindings catalog .filters).map (·, false) ++
    (rule.chainFindings catalog .modifiers).map (·, false)

end Rule

namespace Brain

/-- The issues of all rules, each with whether a repair of the brain settles it. -/
def tracedIssues (brain : Brain) (catalog : Catalog) : List (Issue Json × Bool) :=
  brain.labelledRules.flatMap fun (rule, page, index) =>
    (rule.tracedFindings catalog).map fun (finding, settled) =>
      (finding.toIssue page index, settled)

/-- How the audit of a brain changes when it is repaired, and then trimmed. -/
structure AuditsRepaired (brain : Brain) (catalog : Catalog) : Prop where
  before (found : List (Issue Json)) (ended : (brain.audit catalog).outcome = .ok found) :
    found = (brain.tracedIssues catalog).map Prod.fst
  after (found : List (Issue Json)) (ended : (brain.audit catalog).outcome = .ok found) :
    (brain.repair.audit catalog).outcome =
      .ok (((brain.tracedIssues catalog).filter fun traced => !traced.2).map Prod.fst)
  /-- Where one audit does not end, the other does not either, for the same reason. -/
  failed_iff (cause : Misfit) :
    (brain.audit catalog).outcome = .error cause ↔
      (brain.repair.audit catalog).outcome = .error cause
  ends (typed : catalog.WellTyped)
      (countable : ∀ labelled ∈ brain.labelledRules, ∀ chain, labelled.1.isCountable chain = true) :
    ∃ found, (brain.audit catalog).outcome = .ok found
  /-- No leftover chain is left over. -/
  settled (issue : Issue Json) (isSettled : Bool)
      (traced : (issue, isSettled) ∈ brain.tracedIssues catalog)
      (orphans : issue.category = Finding.Category.invariant.label) : isSettled = true
  category (issue : Issue Json) (traced : (issue, true) ∈ brain.tracedIssues catalog) :
    issue.category = Finding.Category.invariant.label ∨
      issue.category = Finding.Category.hidden.label
  trim : brain.repair.trim.audit catalog = brain.repair.audit catalog

end Brain

namespace Rule

variable {rule : Rule} {catalog : Catalog} {chain : Chain}

/-- A chain with its anchor is left alone, and so is all that counts for it. -/
private theorem agreesUpTo_repair (anchored : (rule.anchor? chain).isNone = false) (count : Nat) :
    rule.repair.AgreesUpTo rule chain count where
  sensor := rfl
  actuator _ := rfl
  earlier := by rw [chain_repair, anchored]; rfl

private theorem chainFindings_repair (rule : Rule) (catalog : Catalog) (chain : Chain) :
    rule.repair.chainFindings catalog chain = rule.chainFindings catalog chain := by
  unfold chainFindings
  rw [anchor?_repair]
  cases missing : (rule.anchor? chain).isNone with
  | true => rfl
  | false =>
    have same : rule.repair.chain chain = rule.chain chain := by rw [chain_repair, missing]; rfl
    have judged (tile : Tile) (position : Nat) :=
      (agreesUpTo_repair missing position).placementFinding? catalog tile
    simp only [placementFindings, overCountFindings, same, judged]

/-- The suggestions are replayed for chains with their anchors alone. -/
theorem replayChain_repair (rule : Rule) (catalog : Catalog) (page index : Int) (chain : Chain) :
    rule.repair.replayChain catalog page index chain =
      rule.replayChain catalog page index chain := by
  unfold replayChain
  rw [anchor?_repair]
  cases missing : (rule.anchor? chain).isNone with
  | true => rfl
  | false =>
    have same : rule.repair.chain chain = rule.chain chain := by rw [chain_repair, missing]; rfl
    have replayed (tile : Tile) (position : Nat) :
        rule.repair.replayPlacement catalog page index chain tile position =
          rule.replayPlacement catalog page index chain tile position := by
      have agrees := rule.agreesUpTo_repair missing position
      rw [replayPlacement, replayPlacement, agrees.terminalBefore?, agrees.suggestAt,
        agrees.placementFinding?]
    have countable : rule.repair.isCountable chain = rule.isCountable chain := by
      rw [isCountable, isCountable, same]
    simp only [same, replayed]
    rw [countable]

private theorem replay_repair (rule : Rule) (catalog : Catalog) (page index : Int) :
    rule.repair.replay catalog page index = rule.replay catalog page index := by
  simp only [replay, replayChain_repair]

private theorem hiddenFindings_eq_hiddenAmong (rule : Rule) :
    rule.hiddenFindings = hiddenAmong (rule.sensor.toList ++ rule.actuator.toList) ++
      hiddenAmong rule.filters ++ hiddenAmong rule.modifiers := by
  simp only [hiddenFindings, placed, hiddenAmong, List.filter_append, List.map_append]

private theorem map_fst_tracedFindings (rule : Rule) (catalog : Catalog) :
    (rule.tracedFindings catalog).map Prod.fst = rule.findings catalog := by
  simp only [tracedFindings, findings, hiddenFindings_eq_hiddenAmong, List.map_append, List.map_map,
    Function.comp_def, List.map_id', List.append_assoc]

/-- What is found in a chain is never that its anchor is missing. -/
private theorem category_chainFindings {chain : Chain} {finding : Finding}
    (member : finding ∈ rule.chainFindings catalog chain) : finding.category ≠ .invariant := by
  unfold chainFindings at member
  split at member
  · contradiction
  · rcases List.mem_append.mp member with misplaced | capped
    · rcases category_placementFindings misplaced with same | same <;> rw [same] <;> decide
    · rw [category_overCountsFrom _ _ _ finding capped]
      decide

/-- Leftover chains are settled, and of all other findings those about hidden tiles alone. -/
private theorem category_tracedFindings {finding : Finding} {isSettled : Bool}
    (traced : (finding, isSettled) ∈ rule.tracedFindings catalog) :
    (finding.category = .invariant → isSettled = true) ∧
      (isSettled = true → finding.category = .invariant ∨ finding.category = .hidden) := by
  have hidden {tiles : List Tile} (member : finding ∈ hiddenAmong tiles) :
      finding.category = .hidden := by
    obtain ⟨tile, _, rfl⟩ := List.mem_map.mp member
    rfl
  simp only [tracedFindings, List.mem_append, List.mem_map, Prod.mk.injEq] at traced
  rcases traced with ((((orphans | anchors) | filters) | modifiers) | ofFilters) | ofModifiers
  · obtain ⟨_, member, rfl, rfl⟩ := orphans
    exact ⟨fun _ => rfl, fun _ => .inl (category_orphanFindings member)⟩
  · obtain ⟨_, member, rfl, rfl⟩ := anchors
    simp [hidden member]
  · obtain ⟨_, member, rfl, rfl⟩ := filters
    simp [hidden member]
  · obtain ⟨_, member, rfl, rfl⟩ := modifiers
    simp [hidden member]
  · obtain ⟨_, member, rfl, rfl⟩ := ofFilters
    simp [category_chainFindings member]
  · obtain ⟨_, member, rfl, rfl⟩ := ofModifiers
    simp [category_chainFindings member]

/-- What a repair does not settle is what is found after it. -/
theorem filter_tracedFindings (rule : Rule) (catalog : Catalog) :
    ((rule.tracedFindings catalog).filter fun traced => !traced.2).map Prod.fst =
      rule.repair.findings catalog := by
  have orphans : rule.repair.orphanFindings = [] :=
    orphanFindings_eq_nil_iff.mpr rule.anchored_repair
  have left (findings : List Finding) (isSettled : Bool) :
      ((findings.map (·, isSettled)).filter fun traced => !traced.2).map Prod.fst =
        if isSettled then [] else findings := by
    cases isSettled <;> simp [List.filter_map, Function.comp_def]
  have hidden (chain : Chain) : hiddenAmong (rule.repair.chain chain) =
      if rule.clears chain then [] else hiddenAmong (rule.chain chain) := by
    rw [chain_repair, clears]
    split <;> rfl
  have filters := hidden .filters
  have modifiers := hidden .modifiers
  simp only [Rule.chain] at filters modifiers
  simp only [tracedFindings, List.filter_append, List.map_append, left, findings, orphans,
    hiddenFindings_eq_hiddenAmong, filters, modifiers, chainFindings_repair, if_true,
    Bool.false_eq_true, if_false, List.nil_append, List.append_assoc]
  rfl

end Rule

namespace Brain

variable {brain : Brain} {catalog : Catalog}

/-- Pages and places stay what they were. -/
theorem labelledRules_repair (brain : Brain) :
    brain.repair.labelledRules =
      brain.labelledRules.map fun (rule, labels) => (rule.repair, labels) := by
  simp only [labelledRules, repair, Page.repair, Pages.toList_map, List.zipIdx_map,
    List.flatMap_map, List.map_flatMap, List.map_map, Function.comp_def, Prod.map_fst, Prod.map_snd,
    id_eq]

private theorem replay_repair (brain : Brain) (catalog : Catalog) :
    brain.repair.replay catalog = brain.replay catalog := by
  rw [replay, replay, labelledRules_repair, List.forM_eq_forM, List.forM_map]
  simp only [Rule.replay_repair]

private theorem map_fst_tracedIssues (brain : Brain) (catalog : Catalog) :
    (brain.tracedIssues catalog).map Prod.fst = brain.issues catalog := by
  simp only [tracedIssues, issues, findings, ← Rule.map_fst_tracedFindings, List.map_flatMap,
    List.map_map, Function.comp_def]

private theorem filter_tracedIssues (brain : Brain) (catalog : Catalog) :
    ((brain.tracedIssues catalog).filter fun traced => !traced.2).map Prod.fst =
      brain.repair.issues catalog := by
  simp only [tracedIssues, issues, findings, labelledRules_repair, ← Rule.filter_tracedFindings,
    List.filter_flatMap, List.filter_map, List.flatMap_map, List.map_flatMap, List.map_map,
    Function.comp_def]

end Brain

namespace Rule

/-- Without a sensor and an actuator no suggestion is replayed. -/
theorem replay_of_isEmpty {rule : Rule} (empty : rule.isEmpty = true) (catalog : Catalog)
    (page index : Int) : rule.replay catalog page index = pure () := by
  have missing := Bool.and_eq_true_iff.mp empty
  rw [replay, replayChain, replayChain, anchor?, anchor?, missing.1, missing.2]
  rfl

private theorem findings_of_isEmpty {rule : Rule} (anchored : rule.Anchored)
    (empty : rule.isEmpty = true) (catalog : Catalog) : rule.findings catalog = [] := by
  have missing := Bool.and_eq_true_iff.mp empty
  have sensor : rule.sensor = none := Option.isNone_iff_eq_none.mp missing.1
  have actuator : rule.actuator = none := Option.isNone_iff_eq_none.mp missing.2
  have filters : rule.filters = [] := anchored .filters sensor
  have modifiers : rule.modifiers = [] := anchored .modifiers actuator
  have hidden : rule.hiddenFindings = [] := by
    simp [hiddenFindings, placed, sensor, actuator, filters, modifiers]
  simp [findings, orphanFindings_eq_nil_iff.mpr anchored, hidden, chainFindings, anchor?, sensor,
    actuator]

end Rule

namespace Page

/-- Trimming drops empty rules alone, and those behind all others. -/
private theorem filter_zipIdx_trim (page : Page) :
    page.trim.rules.zipIdx.filter (fun placed => !placed.1.isEmpty) =
      page.rules.zipIdx.filter fun placed => !placed.1.isEmpty := by
  obtain ⟨removed, cut, empty⟩ := page.keepsUpTo_trim.rest
  have dropped (place : Nat) :
      (removed.zipIdx place).filter (fun placed => !placed.1.isEmpty) = [] := by
    rw [List.filter_eq_nil_iff]
    intro placed member
    simp [empty _ (List.fst_mem_of_mem_zipIdx member)]
  conv_rhs => rw [cut]
  rw [List.zipIdx_append, List.filter_append, dropped, List.append_nil]

end Page

namespace Brain

variable {brain : Brain} {catalog : Catalog}

/-- The rules that are left when empty ones are passed over stand where they stood. -/
private theorem filter_labelledRules_trim (brain : Brain) :
    brain.trim.labelledRules.filter (fun labelled => !labelled.1.isEmpty) =
      brain.labelledRules.filter fun labelled => !labelled.1.isEmpty := by
  simp only [labelledRules, trim, Pages.toList_map, List.zipIdx_map, List.filter_flatMap,
    List.filter_map, List.flatMap_map, Function.comp_def, Prod.map_fst, Prod.map_snd, id_eq,
    Page.filter_zipIdx_trim]

private theorem replay_eq_forM_filter (brain : Brain) (catalog : Catalog) :
    brain.replay catalog =
      (brain.labelledRules.filter fun labelled => !labelled.1.isEmpty).forM
        fun (rule, page, index) => rule.replay catalog page index := by
  rw [replay, Reported.forM_filter]
  rintro ⟨rule, page, index⟩ _ empty
  exact Rule.replay_of_isEmpty (Bool.not_eq_eq_eq_not.mp empty) catalog page index

/-- Where all chains have their anchors, nothing is found in empty rules. -/
private theorem findings_eq_flatMap_filter
    (anchored : ∀ labelled ∈ brain.labelledRules, labelled.1.Anchored) :
    brain.findings catalog =
      (brain.labelledRules.filter fun labelled => !labelled.1.isEmpty).flatMap
        fun (rule, page, index) => (rule.findings catalog).map (·, page, index) := by
  rw [findings]
  generalize brain.labelledRules = labelled at anchored ⊢
  induction labelled with
  | nil => rfl
  | cons first rest ih =>
    obtain ⟨firstAnchored, restAnchored⟩ := List.forall_mem_cons.mp anchored
    obtain ⟨rule, page, index⟩ := first
    cases empty : rule.isEmpty with
    | true =>
      have nothing : rule.findings catalog = [] :=
        Rule.findings_of_isEmpty firstAnchored empty catalog
      rw [List.filter_cons_of_neg (by simp [empty]), ← ih restAnchored, List.flatMap_cons]
      simp only [nothing, List.map_nil, List.nil_append]
    | false =>
      rw [List.filter_cons_of_pos (by simp [empty]), List.flatMap_cons, List.flatMap_cons,
        ih restAnchored]

private theorem anchored_of_mem_labelledRules_repair {labelled : Rule × Nat × Nat}
    (member : labelled ∈ brain.repair.labelledRules) : labelled.1.Anchored := by
  rw [labelledRules_repair] at member
  obtain ⟨old, _, rfl⟩ := List.mem_map.mp member
  exact old.1.anchored_repair

/-- In a repaired brain, the rules that trimming drops contribute nothing to the audit. -/
theorem audit_trim_repair (brain : Brain) (catalog : Catalog) :
    brain.repair.trim.audit catalog = brain.repair.audit catalog := by
  have trimmed : ∀ labelled ∈ brain.repair.trim.labelledRules, labelled.1.Anchored := by
    rw [← brain.repair_trim]
    exact fun _ => anchored_of_mem_labelledRules_repair
  have replays : brain.repair.trim.replay catalog = brain.repair.replay catalog := by
    rw [replay_eq_forM_filter, replay_eq_forM_filter, filter_labelledRules_trim]
  have issues : brain.repair.trim.issues catalog = brain.repair.issues catalog := by
    rw [issues, issues, findings_eq_flatMap_filter trimmed,
      findings_eq_flatMap_filter fun _ => anchored_of_mem_labelledRules_repair,
      filter_labelledRules_trim]
  rw [audit_eq, audit_eq, replays, issues]

private theorem category_of_mem_tracedIssues {issue : Issue Json} {isSettled : Bool}
    (traced : (issue, isSettled) ∈ brain.tracedIssues catalog) :
    (issue.category = Finding.Category.invariant.label → isSettled = true) ∧
      (isSettled = true → issue.category = Finding.Category.invariant.label ∨
        issue.category = Finding.Category.hidden.label) := by
  obtain ⟨⟨rule, page, index⟩, _, found⟩ := List.mem_flatMap.mp traced
  obtain ⟨⟨finding, _⟩, member, same⟩ := List.mem_map.mp found
  obtain ⟨rfl, rfl⟩ := Prod.mk.inj same
  have category := Rule.category_tracedFindings member
  exact ⟨fun label => category.1 (Finding.Category.label_inj.mp label),
    fun isSettled => (category.2 isSettled).imp (congrArg Finding.Category.label)
      (congrArg Finding.Category.label)⟩

/-- A repair settles what it clears. All other issues stay in their order and under their labels,
and trimming what is repaired does not touch them. -/
theorem auditsRepaired (brain : Brain) (catalog : Catalog) : brain.AuditsRepaired catalog where
  before found ended := by rw [map_fst_tracedIssues, eq_issues_of_outcome_audit ended]
  after found ended := by
    rw [outcome_audit_eq_map] at ended
    rw [outcome_audit_eq_map, replay_repair, filter_tracedIssues]
    cases replayed : (brain.replay catalog).outcome with
    | ok => rfl
    | error cause => exact nomatch replayed ▸ ended
  failed_iff cause := by
    rw [outcome_audit_eq_map, outcome_audit_eq_map, replay_repair]
    cases (brain.replay catalog).outcome with
    | ok => exact ⟨nofun, nofun⟩
    | error => exact Iff.rfl
  ends typed countable :=
    ⟨_, outcome_audit (fun chain => typed.isRankable chain.kind) countable⟩
  settled _ _ traced := (category_of_mem_tracedIssues traced).1
  category _ traced := (category_of_mem_tracedIssues traced).2 rfl
  trim := brain.audit_trim_repair catalog

end Brain

end TileBrain
