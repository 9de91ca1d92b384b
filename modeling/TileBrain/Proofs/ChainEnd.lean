import TileBrain.Catalog.Builtin
import TileBrain.Proofs.Audit.Legality

/-! # Behind a terminal tile

Right behind a terminal tile nothing is suggested, and a tile that stands there is reported. Further
on, only the tile right in front of a position counts, so that a chain goes on behind a tile that
should not be there. `Catalog.endsChains` says so. It also says where a terminal tile ends its chain
for good: in every chain that goes on with terminal tiles alone, and in every accepted rule.
-/

namespace TileBrain

namespace Rule

/-- The tile at a place of a chain is terminal. -/
def IsTerminalAt (rule : Rule) (chain : Chain) (place : Nat) : Prop :=
  ∃ tile, (rule.chain chain)[place]? = some tile ∧ tile.isTerminal = true

/-- A terminal tile stands somewhere in front of a position of a chain. -/
def IsBehindTerminal (rule : Rule) (chain : Chain) (position : Nat) : Prop :=
  ∃ place < position, rule.IsTerminalAt chain place

/-- A terminal tile stands right in front of a position of a chain. -/
def FollowsTerminal (rule : Rule) (chain : Chain) (position : Nat) : Prop :=
  ∃ place, position = place + 1 ∧ rule.IsTerminalAt chain place

/-- What is found about the tiles of a chain that stand right behind a terminal one. A chain without
its anchor is passed over. -/
def followerFindings (rule : Rule) (chain : Chain) : List Finding :=
  if (rule.anchor? chain).isNone then []
  else (rule.chain chain).zipIdx.filterMap fun (tile, position) =>
    (rule.terminalBefore? chain position).map (Finding.afterTerminal chain tile position)

end Rule

namespace Catalog

/-- Nothing is suggested anywhere behind a terminal tile of a chain, and every tile there is
reported if the chain has its anchor. -/
structure EndsForGood (catalog : Catalog) (rule : Rule) (chain : Chain) (page index : Int) :
    Prop where
  suggest (position : Nat) (within : position ≤ (rule.chain chain).length)
      (behind : rule.IsBehindTerminal chain position) :
    (catalog.suggest rule chain position).outcome = .ok []
  audit (anchored : (rule.anchor? chain).isSome = true) :
    ∃ issues, (rule.audit catalog page index).outcome = .ok issues ∧
      ∀ position tile, (rule.chain chain)[position]? = some tile →
        rule.IsBehindTerminal chain position →
        ∃ terminal, (Finding.afterTerminal chain tile position terminal).toIssue page index ∈ issues

/-- How far terminal tiles end the chains of a rule. -/
structure EndsChains (catalog : Catalog) (rule : Rule) (page index : Int) : Prop where
  /-- Behind a terminal tile, nothing is suggested if the tile right in front is terminal, and
  otherwise only if no candidate is compatible. -/
  suggest (chain : Chain) (position : Nat) (within : position ≤ (rule.chain chain).length)
      (behind : rule.IsBehindTerminal chain position) :
    ∃ tiles, (catalog.suggest rule chain position).outcome = .ok tiles ∧
      (tiles = [] ↔ rule.FollowsTerminal chain position ∨
        catalog.compatible chain.kind (rule.accumulated chain position) = [])
  /-- The tiles are reported that stand right behind a terminal one, each once. -/
  audit : ∃ issues, (rule.audit catalog page index).outcome = .ok issues ∧
    issues.filter (·.category = Finding.Category.terminal.label) =
      ([Chain.filters, .modifiers].flatMap rule.followerFindings).map (·.toIssue page index)
  /-- A chain ends for good if it goes on with terminal tiles alone. -/
  unbroken (chain : Chain)
      (goesOn : ∀ place, rule.IsTerminalAt chain place → place + 1 < (rule.chain chain).length →
        rule.IsTerminalAt chain (place + 1)) :
    catalog.EndsForGood rule chain page index
  accepted (accepted : rule.IsAccepted catalog page index) (chain : Chain) :
    catalog.EndsForGood rule chain page index

end Catalog

namespace Rule

variable {rule : Rule} {catalog : Catalog} {chain : Chain} {position : Nat}

private theorem terminalBefore?_eq_some_iff {terminal : Tile} :
    rule.terminalBefore? chain position = some terminal ↔
      ∃ place, position = place + 1 ∧ (rule.chain chain)[place]? = some terminal ∧
        terminal.isTerminal = true := by
  cases position with
  | zero => simp [terminalBefore?]
  | succ last => simp [terminalBefore?, Option.filter_eq_some_iff]

private theorem followsTerminal_iff :
    rule.FollowsTerminal chain position ↔
      ∃ terminal, rule.terminalBefore? chain position = some terminal := by
  simp only [terminalBefore?_eq_some_iff, FollowsTerminal, IsTerminalAt]
  constructor
  · rintro ⟨place, isNext, terminal, placed, ends⟩
    exact ⟨terminal, place, isNext, placed, ends⟩
  · rintro ⟨terminal, place, isNext, placed, ends⟩
    exact ⟨place, isNext, terminal, placed, ends⟩

/-- Where terminal tiles are followed by terminal tiles alone, every position behind one follows
one. -/
private theorem IsBehindTerminal.followsTerminal (behind : rule.IsBehindTerminal chain position)
    (within : position ≤ (rule.chain chain).length)
    (goesOn : ∀ place, rule.IsTerminalAt chain place → place + 1 < (rule.chain chain).length →
      rule.IsTerminalAt chain (place + 1)) : rule.FollowsTerminal chain position := by
  obtain ⟨place, before, terminal⟩ := behind
  have reaches (steps : Nat) (inside : place + steps < (rule.chain chain).length) :
      rule.IsTerminalAt chain (place + steps) := by
    induction steps with
    | zero => exact terminal
    | succ steps ih => exact goesOn (place + steps) (ih (by omega)) inside
  have last := reaches (position - 1 - place) (by omega)
  have isLast : place + (position - 1 - place) = position - 1 := by omega
  rw [isLast] at last
  exact ⟨position - 1, by omega, last⟩

end Rule

/-- Nothing is on offer right behind a terminal tile, or if no candidate is compatible. -/
theorem Catalog.offered_eq_nil_iff {catalog : Catalog} {rule : Rule} {chain : Chain}
    {position : Nat} :
    catalog.offered rule chain position = [] ↔ rule.FollowsTerminal chain position ∨
      catalog.compatible chain.kind (rule.accumulated chain position) = [] := by
  rw [Rule.followsTerminal_iff, offered]
  cases rule.terminalBefore? chain position <;> simp

namespace Rule

variable {rule : Rule} {catalog : Catalog} {chain : Chain} {position : Nat} {page index : Int}

private theorem mem_followerFindings {tile terminal : Tile} :
    .afterTerminal chain tile position terminal ∈ rule.followerFindings chain ↔
      (rule.anchor? chain).isSome = true ∧ (rule.chain chain)[position]? = some tile ∧
        rule.terminalBefore? chain position = some terminal := by
  unfold followerFindings
  split
  next missing => simp [Option.isNone_iff_eq_none.mp missing]
  next anchored =>
    have isThere : (rule.anchor? chain).isSome = true := by
      rwa [Option.isNone_iff_eq_none, ← ne_eq, Option.ne_none_iff_isSome] at anchored
    simp only [List.mem_filterMap, Prod.exists, List.mem_zipIdx_iff_getElem?, isThere, true_and,
      Option.map_eq_some_iff, Finding.afterTerminal.injEq]
    constructor
    · rintro ⟨_, _, present, _, found, rfl, rfl, rfl⟩
      exact ⟨present, found⟩
    · rintro ⟨present, found⟩
      exact ⟨tile, position, present, terminal, found, rfl, rfl, rfl⟩

/-- Of what is wrong with the places in a chain, this is about the tiles behind terminal ones. -/
private theorem filter_terminal_placements :
    (rule.placements catalog chain).filter (·.category = .terminal) =
      rule.followerFindings chain := by
  have each (tile : Tile) (position : Nat) :
      (rule.placementFinding? catalog chain tile position).filter (·.category = .terminal) =
        (rule.terminalBefore? chain position).map
          (Finding.afterTerminal chain tile position) := by
    unfold placementFinding?
    split
    next found => simp [found, Finding.category]
    next goesOn =>
      rw [goesOn]
      split <;> simp [Finding.category]
  unfold placements followerFindings
  split
  next => rfl
  next => simp only [placementFindings, List.filter_filterMap, each]

/-- What is found about tiles behind terminal ones. -/
theorem filter_terminal_findings (rule : Rule) (catalog : Catalog) :
    (rule.findings catalog).filter (·.category = .terminal) =
      [Chain.filters, .modifiers].flatMap rule.followerFindings := by
  have drops {category : Finding.Category} (differs : category ≠ .terminal) (finding : Finding)
      (same : finding.category = category) : decide (finding.category = .terminal) = false := by
    rw [same, decide_eq_false differs]
  rw [filter_findings (drops (by decide)),
    filter_eq_nil_of_category (fun _ => category_orphanFindings) (drops (by decide)),
    filter_eq_nil_of_category (fun _ => category_hiddenFindings) (drops (by decide)),
    filter_terminal_placements, filter_terminal_placements]
  simp

/-- The issues about tiles behind terminal ones. -/
theorem filter_terminal_issues :
    (rule.issues catalog page index).filter
        (·.category = Finding.Category.terminal.label) =
      ([Chain.filters, .modifiers].flatMap rule.followerFindings).map
        (·.toIssue page index) := by
  rw [filter_category_issues, filter_terminal_findings]

/-- A tile right behind a terminal one is found, unless its chain lacks the anchor. -/
private theorem mem_findings_of_terminalBefore? (anchored : (rule.anchor? chain).isSome = true)
    {tile terminal : Tile} (present : (rule.chain chain)[position]? = some tile)
    (found : rule.terminalBefore? chain position = some terminal) :
    .afterTerminal chain tile position terminal ∈ rule.findings catalog := by
  have follower := mem_followerFindings.mpr ⟨anchored, present, found⟩
  have member : .afterTerminal chain tile position terminal ∈
      [Chain.filters, .modifiers].flatMap rule.followerFindings :=
    List.mem_flatMap.mpr ⟨chain, by cases chain <;> simp, follower⟩
  rw [← rule.filter_terminal_findings catalog] at member
  exact (List.mem_filter.mp member).1

/-- Nothing but exceeded caps is found in an accepted rule. -/
theorem IsAccepted.category_findings (accepted : rule.IsAccepted catalog page index)
    {finding : Finding} (member : finding ∈ rule.findings catalog) :
    finding.category = .maxCount := by
  obtain ⟨issues, ended, caps⟩ := accepted
  rw [eq_issues_of_outcome_audit ended] at caps
  exact Finding.Category.label_inj.mp (caps _ (List.mem_map_of_mem member))

theorem IsAccepted.anchored (accepted : rule.IsAccepted catalog page index) : rule.Anchored := by
  rw [← orphanFindings_eq_nil_iff, List.eq_nil_iff_forall_not_mem]
  intro finding orphan
  have member : finding ∈ rule.findings catalog := by
    simp only [findings, List.mem_append, orphan, true_or]
  have capped := accepted.category_findings member
  rw [category_orphanFindings orphan] at capped
  contradiction

/-- In an accepted rule, no tile stands right behind a terminal one. -/
theorem IsAccepted.length_of_isTerminalAt (accepted : rule.IsAccepted catalog page index)
    {place : Nat} (ends : rule.IsTerminalAt chain place) :
    (rule.chain chain).length = place + 1 := by
  obtain ⟨terminal, placed, isTerminal⟩ := ends
  have within := (List.getElem?_eq_some_iff.mp placed).1
  have anchored : (rule.anchor? chain).isSome = true := by
    rw [← Option.ne_none_iff_isSome]
    intro missing
    rw [accepted.anchored chain missing] at placed
    contradiction
  by_contra longer
  have goesOn : place + 1 < (rule.chain chain).length := by omega
  have found : rule.terminalBefore? chain (place + 1) = some terminal :=
    terminalBefore?_eq_some_iff.mpr ⟨place, rfl, placed, isTerminal⟩
  have member : .afterTerminal chain (rule.chain chain)[place + 1] (place + 1) terminal ∈
      rule.findings catalog :=
    mem_findings_of_terminalBefore? anchored (List.getElem?_eq_getElem goesOn) found
  exact nomatch accepted.category_findings member

end Rule

namespace Catalog

variable {catalog : Catalog} {rule : Rule} {chain : Chain} {page index : Int}

/-- A chain ends for good where every position behind a terminal tile follows one. -/
theorem endsForGood_of_followsTerminal (typed : catalog.WellTyped)
    (countable : ∀ chain, rule.isCountable chain = true)
    (follows : ∀ position ≤ (rule.chain chain).length, rule.IsBehindTerminal chain position →
      rule.FollowsTerminal chain position) : catalog.EndsForGood rule chain page index where
  suggest position within behind := by
    rw [outcome_suggest (typed.isRankable _) ⟨by omega, by omega⟩, Int.toNat_natCast,
      offered_eq_nil_iff.mpr (.inl (follows position within behind))]
  audit anchored := by
    refine ⟨_, Rule.outcome_audit (fun chain => typed.isRankable chain.kind) countable page index,
      ?_⟩
    intro position tile present behind
    have within := (List.getElem?_eq_some_iff.mp present).1
    obtain ⟨terminal, found⟩ :=
      Rule.followsTerminal_iff.mp (follows position (Nat.le_of_lt within) behind)
    exact ⟨terminal, List.mem_map_of_mem
      (Rule.mem_findings_of_terminalBefore? anchored present found)⟩

/-- How far terminal tiles end the chains of a rule with tiles of any origin. -/
theorem endsChains (typed : catalog.WellTyped) (countable : ∀ chain, rule.isCountable chain = true)
    (page index : Int) : catalog.EndsChains rule page index where
  suggest chain position within behind :=
    ⟨_, outcome_suggest (typed.isRankable _) ⟨by omega, by omega⟩, offered_eq_nil_iff⟩
  audit := ⟨_, Rule.outcome_audit (fun chain => typed.isRankable chain.kind) countable page index,
    Rule.filter_terminal_issues⟩
  unbroken chain goesOn := endsForGood_of_followsTerminal typed countable
    fun _ within behind => behind.followsTerminal within goesOn
  accepted accepted chain := by
    apply endsForGood_of_followsTerminal typed countable
    rintro position within ⟨place, before, ends⟩
    have length := accepted.length_of_isTerminalAt ends
    exact ⟨place, by omega, ends⟩

end Catalog

namespace Builtin

/-- A rule that turns to the first page, and that goes on all the same. -/
def turning : Rule where
  condition := .default
  sensor := none
  filters := []
  actuator := catalog.get? .actuator (.str ActuatorId.switchPage)
  modifiers := [pageModifier ModifierId.page1 "page 1",
    speedModifier ModifierId.quickly "quickly" ModifierId.slowly,
    pageModifier ModifierId.page2 "page 2"]

/-- Right behind its first modifier nothing is suggested, and the audit reports the second. -/
theorem endsChains_turning :
    catalog.WellTyped ∧ (∀ chain, turning.isCountable chain = true) ∧
      (catalog.suggest turning .modifiers 1).outcome = .ok [] ∧
      ∃ issues, (turning.audit catalog 0 0).outcome = .ok issues ∧
        (issues.filter (·.category = Finding.Category.terminal.label)).map Issue.id =
          [some (.str ModifierId.quickly)] := by
  have typed : catalog.WellTyped := by decide +kernel
  have countable : ∀ chain, turning.isCountable chain = true :=
    Chain.forall_iff.mpr (by decide +kernel)
  have ends := Catalog.endsChains typed countable 0 0
  have first : turning.IsTerminalAt .modifiers 0 := ⟨_, rfl, by decide +kernel⟩
  obtain ⟨tiles, suggested, empty_iff⟩ :=
    ends.suggest .modifiers 1 (by decide) ⟨0, by decide, first⟩
  obtain ⟨issues, ended, terminal⟩ := ends.audit
  refine ⟨typed, countable, ?_, issues, ended, ?_⟩
  · rw [empty_iff.mpr (.inl ⟨0, rfl, first⟩)] at suggested
    exact suggested
  · rw [terminal]
    decide +kernel

/-- Behind its second modifier tiles are suggested again, and the third is not reported, although
both are behind a terminal tile. -/
theorem not_endsForGood_turning :
    catalog.WellTyped ∧ turning.TakenFrom catalog ∧
      turning.IsBehindTerminal .modifiers 2 ∧
      (∃ tile tiles, (catalog.suggest turning .modifiers 2).outcome = .ok (tile :: tiles)) ∧
      (turning.anchor? .modifiers).isSome = true ∧
      (∃ issues, (turning.audit catalog 0 0).outcome = .ok issues ∧
        ∀ issue ∈ issues, issue.id ≠ some (.str ModifierId.page2)) ∧
      ¬ catalog.EndsForGood turning .modifiers 0 0 := by
  have typed : catalog.WellTyped := by decide +kernel
  have countable : ∀ chain, turning.isCountable chain = true :=
    Chain.forall_iff.mpr (by decide +kernel)
  have behind : turning.IsBehindTerminal .modifiers 2 := ⟨0, by decide, _, rfl, by decide +kernel⟩
  have suggested : (catalog.suggest turning .modifiers 2).outcome =
      .ok (catalog.offered turning .modifiers 2) :=
    Catalog.outcome_suggest (typed.isRankable _) ⟨by decide, by decide⟩
  have goesOn : ∃ tile tiles, catalog.offered turning .modifiers 2 = tile :: tiles := by
    rw [← List.ne_nil_iff_exists_cons]
    decide +kernel
  obtain ⟨tile, tiles, offered⟩ := goesOn
  rw [offered] at suggested
  refine ⟨typed, by decide +kernel, behind, ⟨tile, tiles, suggested⟩, by decide +kernel,
    ⟨_, Rule.outcome_audit (fun chain => typed.isRankable chain.kind) countable 0 0,
      by decide +kernel⟩, ?_⟩
  intro ends
  have nothing := ends.suggest 2 (by decide) behind
  exact nomatch nothing.symm.trans suggested

end Builtin

end TileBrain
