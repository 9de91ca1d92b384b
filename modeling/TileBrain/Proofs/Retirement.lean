import TileBrain.Proofs.Decoding.Unresolved
import TileBrain.Proofs.Redeclaration
import TileBrain.Proofs.Suggestion

/-! # Retired tiles

A tile is retired by hiding it. Stored brains keep it, as `Catalog.retiresSafely` says: they are
decoded and stored as before. It is no longer suggested, the suggestions for its neighbours stay
what they were, and the audit reports it as hidden wherever it is placed, instead of judging its
place.

`Issue.Retires` compares the issues before and after: one list is the other without those about
hidden tiles that are new and those about the place of a retired tile that are gone. It is put
together from the parts of the audit by appending.
-/

namespace TileBrain

/-- Tiles are hidden, and otherwise declared as they were. -/
def Redeclaration.retiring (retired : List Tile) : Redeclaration where
  tile old := { old with hidden := old.hidden || decide (old ∈ retired) }
  id_tile _ := rfl
  kind_tile _ := rfl

open Redeclaration

section Retiring

variable {catalog : Catalog} {retired : List Tile}

/-- A tile that is not retired stays as it is. -/
private theorem tile_retiring_of_not_mem {tile : Tile} (kept : tile ∉ retired) :
    (retiring retired).tile tile = tile := by
  simp [retiring, kept]

private theorem hidden_retiring (tile : Tile) :
    ((retiring retired).tile tile).hidden = (tile.hidden || decide (tile ∈ retired)) := rfl

private theorem Catalog.WellTyped.retiring (typed : catalog.WellTyped) :
    ((retiring retired).catalog catalog).WellTyped := by
  intro tile member
  obtain ⟨old, wasDeclared, rfl⟩ := List.mem_map.mp member
  obtain ⟨id, weight, category⟩ := typed old wasDeclared
  exact ⟨id, weight, category⟩

namespace Catalog

/-- What the tiles of a rule say does not depend on whether they are hidden. -/
theorem accumulated_retiring (rule : Rule) (chain : Chain) (position : Nat) :
    ((retiring retired).rule rule).accumulated chain position =
      rule.accumulated chain position := by
  rw [Rule.accumulated, Rule.accumulated, ahead_rule, Accumulated.ofTiles, Accumulated.ofTiles,
    List.filterMap_map]
  rfl

/-- The visible tiles are those that were visible and are not retired. -/
theorem visible_retiring (kind : TileKind) :
    ((retiring retired).catalog catalog).visible kind =
      (catalog.visible kind).filter (· ∉ retired) := by
  have unchanged : ∀ tile ∈ (catalog.visible kind).filter (· ∉ retired),
      (retiring retired).tile tile = id tile := by
    intro tile member
    exact tile_retiring_of_not_mem (of_decide_eq_true (List.mem_filter.mp member).2)
  have same := (List.map_congr_left unchanged).trans (List.map_id _)
  rw [visible, partition_catalog, List.filter_map, ← same, visible, List.filter_filter]
  apply congrArg (List.map _)
  apply List.filter_congr
  intro tile _
  simp [hidden_retiring, Bool.and_comm]

private theorem candidates_retiring (typed : catalog.WellTyped) (kind : TileKind) :
    ((retiring retired).catalog catalog).candidates kind =
      (catalog.candidates kind).filter (· ∉ retired) :=
  (typed.filter_candidates (visible_retiring kind).symm).symm

private theorem offered_retiring (typed : catalog.WellTyped) (rule : Rule) (chain : Chain)
    (position : Nat) :
    ((retiring retired).catalog catalog).offered ((retiring retired).rule rule) chain position =
      (catalog.offered rule chain position).filter (· ∉ retired) := by
  unfold offered
  rw [terminalBefore?_rule _ (fun _ => rfl)]
  cases rule.terminalBefore? chain position with
  | some terminal => rfl
  | none =>
    change compatible _ _ _ = (compatible _ _ _).filter _
    rw [compatible, compatible, accumulated_retiring, candidates_retiring typed, List.filter_comm]

/-- The identifier of a tile that is not retired is offered as before. -/
theorem any_offered_retiring (typed : catalog.WellTyped) {tile : Tile}
    (member : tile ∈ catalog.tiles) (stays : tile ∉ retired) (rule : Rule) (chain : Chain)
    (position : Nat) :
    (((retiring retired).catalog catalog).offered ((retiring retired).rule rule) chain position).any
        (·.id.same tile.id) =
      (catalog.offered rule chain position).any (·.id.same tile.id) := by
  rw [offered_retiring typed, List.any_filter, Bool.eq_iff_iff, List.any_eq_true, List.any_eq_true]
  refine exists_congr fun other => and_congr_right fun isOffered => ?_
  rw [Bool.and_eq_true, and_iff_right_iff_imp]
  intro same
  have candidate := mem_candidates.mp (mem_offered.mp isOffered).2.1
  rw [typed.eq_of_same_id candidate.1 member same]
  exact decide_eq_true stays

end Catalog

/-- An issue of a category that names a retired tile. -/
def Issue.IsAbout (retired : List Tile) (category : Finding.Category) (issue : Issue Json) : Prop :=
  issue.category = category.label ∧ ∃ tile ∈ retired, issue.id = some tile.id

instance (retired : List Tile) (category : Finding.Category) (issue : Issue Json) :
    Decidable (issue.IsAbout retired category) :=
  inferInstanceAs (Decidable (_ ∧ ∃ tile ∈ retired, issue.id = some tile.id))

/-- The issues before and after tiles were retired. Further ones say that retired tiles are hidden,
those that said that a retired tile is illegal are gone, and the others stay. -/
structure Issue.Retires (retired : List Tile) (before after further : List (Issue Json)) :
    Prop where
  kept : after.filter (¬ ·.IsAbout retired .hidden) = before.filter (¬ ·.IsAbout retired .illegal)
  further : after.filter (·.IsAbout retired .hidden) = further
  fresh : ∀ issue ∈ before, ¬ issue.IsAbout retired .hidden
  gone : ∀ issue ∈ after, ¬ issue.IsAbout retired .illegal

namespace Issue.Retires

variable {before after further : List (Issue Json)}

/-- Where nothing else happens, issues are only gone. -/
theorem of_eq_filter (fresh : ∀ issue ∈ before, ¬ issue.IsAbout retired .hidden)
    (gone : after = before.filter (¬ ·.IsAbout retired .illegal)) :
    Retires retired before after [] where
  kept := by
    rw [gone, List.filter_eq_self]
    intro issue member
    exact decide_eq_true (fresh issue (List.mem_filter.mp member).1)
  further := by
    rw [gone, List.filter_eq_nil_iff]
    intro issue member
    simpa using fresh issue (List.mem_filter.mp member).1
  fresh := fresh
  gone := by
    intro issue member
    rw [gone] at member
    exact of_decide_eq_true (List.mem_filter.mp member).2

theorem append {moreBefore moreAfter moreFurther : List (Issue Json)}
    (first : Retires retired before after further)
    (second : Retires retired moreBefore moreAfter moreFurther) :
    Retires retired (before ++ moreBefore) (after ++ moreAfter) (further ++ moreFurther) where
  kept := by rw [List.filter_append, List.filter_append, first.kept, second.kept]
  further := by rw [List.filter_append, first.further, second.further]
  fresh := List.forall_mem_append.mpr ⟨first.fresh, second.fresh⟩
  gone := List.forall_mem_append.mpr ⟨first.gone, second.gone⟩

end Issue.Retires

section Issues

variable {page index : Int} {category : Finding.Category} {finding : Finding}

private theorem not_isAbout_toIssue (differs : finding.category ≠ category) :
    ¬ (finding.toIssue page index).IsAbout retired category :=
  fun about => differs (Finding.Category.label_inj.mp about.1)

/-- Retiring tiles leaves findings alone that are of a category of their own. -/
private theorem retires_of_category {findings : List Finding}
    (same : ∀ finding ∈ findings, finding.category = category) (notHidden : category ≠ .hidden)
    (notIllegal : category ≠ .illegal) :
    Issue.Retires retired (findings.map (·.toIssue page index))
      (findings.map (·.toIssue page index)) [] := by
  have apart {other : Finding.Category} (differs : category ≠ other) :
      ∀ issue ∈ findings.map (·.toIssue page index), ¬ issue.IsAbout retired other := by
    rw [List.forall_mem_map]
    intro finding member
    apply not_isAbout_toIssue
    rwa [same finding member]
  apply Issue.Retires.of_eq_filter (apart notHidden)
  rw [List.filter_eq_self.mpr]
  intro issue member
  exact decide_eq_true (apart notIllegal issue member)

/-- Among the tiles of a catalog, a retired one is told by its identifier. -/
private theorem isAbout_toIssue_iff (typed : catalog.WellTyped) (declared : retired ⊆ catalog.tiles)
    {tile : Tile} (member : tile ∈ catalog.tiles) (placed : finding.tile? = some tile) :
    (finding.toIssue page index).IsAbout retired category ↔
      finding.category = category ∧ tile ∈ retired := by
  unfold Issue.IsAbout
  apply and_congr Finding.Category.label_inj
  rw [Finding.toIssue, placed, Option.map_some]
  constructor
  · rintro ⟨other, isRetired, sameId⟩
    have same : tile.id.same other.id = true := by
      rw [← Option.some.inj sameId]
      exact Json.same_self_of_isString (typed tile member).id
    rwa [typed.eq_of_same_id member (declared isRetired) same]
  · intro isRetired
    exact ⟨tile, isRetired, rfl⟩

/-- Issues do not say whether their tile is hidden. -/
private theorem toIssue_finding_retiring :
    ((retiring retired).finding finding).toIssue page index = finding.toIssue page index := by
  cases finding <;> rfl

end Issues

namespace Rule

variable {rule : Rule} (page index : Int)

/-- Hidden tiles are those that were hidden, and the retired ones. -/
theorem hiddenFindings_retires (typed : catalog.WellTyped) (declared : retired ⊆ catalog.tiles)
    (visible : ∀ tile ∈ retired, tile.hidden = false) (taken : rule.TakenFrom catalog) :
    Issue.Retires retired (rule.hiddenFindings.map (·.toIssue page index))
      (((retiring retired).rule rule).hiddenFindings.map (·.toIssue page index))
      ((rule.placed.filter (· ∈ retired)).map fun tile =>
        (Finding.hiddenTile tile).toIssue page index) := by
  have before : rule.hiddenFindings.map (·.toIssue page index) =
      (rule.placed.filter Tile.hidden).map fun tile =>
        (Finding.hiddenTile tile).toIssue page index := List.map_map
  have after : ((retiring retired).rule rule).hiddenFindings.map (·.toIssue page index) =
      (rule.placed.filter fun tile => tile.hidden || decide (tile ∈ retired)).map fun tile =>
        (Finding.hiddenTile tile).toIssue page index := by
    rw [hiddenFindings, placed_rule, List.filter_map, List.map_map, List.map_map]
    rfl
  have about {category : Finding.Category} {tile : Tile} (placed : tile ∈ rule.placed) :
      ((Finding.hiddenTile tile).toIssue page index).IsAbout retired category ↔
        .hidden = category ∧ tile ∈ retired :=
    isAbout_toIssue_iff typed declared (taken.mem_tiles placed) rfl
  rw [before, after]
  constructor
  case kept =>
    rw [List.filter_map, List.filter_map, List.filter_filter, List.filter_filter]
    apply congrArg (List.map _)
    apply List.filter_congr
    intro tile placed
    by_cases isRetired : tile ∈ retired
    · simp [about placed, isRetired, visible tile isRetired]
    · simp [about placed, isRetired]
  case further =>
    rw [List.filter_map, List.filter_filter]
    apply congrArg (List.map _)
    apply List.filter_congr
    intro tile placed
    by_cases isRetired : tile ∈ retired
    · simp [about placed, isRetired]
    · simp [about placed, isRetired]
  case fresh =>
    rw [List.forall_mem_map]
    intro tile member
    obtain ⟨placed, wasHidden⟩ := List.mem_filter.mp member
    rw [about placed]
    rintro ⟨_, isRetired⟩
    rw [visible tile isRetired] at wasHidden
    cases wasHidden
  case gone =>
    rw [List.forall_mem_map]
    intro tile _
    exact not_isAbout_toIssue Finding.Category.noConfusion

/-- A placement is judged as before, unless its tile is retired. -/
theorem placementFinding?_retiring (typed : catalog.WellTyped) (declared : retired ⊆ catalog.tiles)
    {chain : Chain} {tile : Tile} (member : tile ∈ catalog.tiles) (position : Nat) :
    (((retiring retired).rule rule).placementFinding? ((retiring retired).catalog catalog) chain
        ((retiring retired).tile tile) position).map (·.toIssue page index) =
      ((rule.placementFinding? catalog chain tile position).map (·.toIssue page index)).filter
        (¬ ·.IsAbout retired .illegal) := by
  unfold placementFinding?
  rw [terminalBefore?_rule _ (fun _ => rfl)]
  cases rule.terminalBefore? chain position with
  | some terminal =>
    have kept : ¬ ((Finding.afterTerminal chain tile position terminal).toIssue page index).IsAbout
        retired .illegal := not_isAbout_toIssue Finding.Category.noConfusion
    change some _ = Option.filter _
      (some ((Finding.afterTerminal chain tile position terminal).toIssue page index))
    rw [Option.filter_some, if_pos (decide_eq_true kept)]
    rfl
  | none =>
    have about : ((Finding.illegal chain tile position).toIssue page index).IsAbout retired
        .illegal ↔ tile ∈ retired :=
      (isAbout_toIssue_iff typed declared member rfl).trans (and_iff_right rfl)
    by_cases isRetired : tile ∈ retired
    · have isHidden : ((retiring retired).tile tile).hidden = true := by
        simp [hidden_retiring, isRetired]
      simp only [Option.map_none, isHidden, Bool.true_or, if_true]
      split
      · rfl
      · simp [Option.filter, about, isRetired]
    · have offered := Catalog.any_offered_retiring typed member isRetired rule chain position
      simp only [Option.map_none, tile_retiring_of_not_mem isRetired, offered]
      split
      · rfl
      · simp [Option.filter, about, isRetired]

private theorem placementFindings_retires (typed : catalog.WellTyped)
    (declared : retired ⊆ catalog.tiles) (taken : rule.TakenFrom catalog) (chain : Chain) :
    Issue.Retires retired ((rule.placementFindings catalog chain).map (·.toIssue page index))
      ((((retiring retired).rule rule).placementFindings ((retiring retired).catalog catalog)
        chain).map (·.toIssue page index)) [] := by
  apply Issue.Retires.of_eq_filter
  · rw [List.forall_mem_map]
    intro finding member
    apply not_isAbout_toIssue
    rcases category_placementFindings member with same | same <;> rw [same] <;> decide
  · simp only [placementFindings, chain_rule, List.zipIdx_map, List.filterMap_map,
      List.map_filterMap, List.filter_filterMap]
    apply List.filterMap_congr
    rintro ⟨tile, position⟩ member
    have inChain := List.mem_of_getElem? (List.mem_zipIdx_iff_getElem?.mp member)
    have placed := taken.mem_tiles (mem_placed_iff.mpr ⟨chain, .inr inChain⟩)
    exact placementFinding?_retiring page index typed declared placed position

/-- Retiring tiles leaves their categories as they were. -/
private theorem sharesCategory_retiring (typed : catalog.WellTyped) {tile other : Tile}
    (member : tile ∈ catalog.tiles) (otherMember : other ∈ catalog.tiles) :
    ((retiring retired).tile tile).sharesCategory ((retiring retired).tile other) =
      tile.sharesCategory other := by
  have same : (retiring retired).tile tile = (retiring retired).tile other ↔ tile = other := by
    constructor
    · intro alike
      have sameId : tile.id = other.id := by
        simpa only [id_tile] using congrArg Tile.id alike
      apply typed.eq_of_same_id member otherMember
      rw [sameId]
      exact Json.same_self_of_isString (typed other otherMember).id
    · exact congrArg _
  simp only [Tile.sharesCategory, same]
  rfl

private theorem overCountFindings_retires (typed : catalog.WellTyped)
    (taken : rule.TakenFrom catalog) (chain : Chain) :
    Issue.Retires retired ((rule.overCountFindings chain).map (·.toIssue page index))
      ((((retiring retired).rule rule).overCountFindings chain).map (·.toIssue page index)) [] := by
  have inCatalog : ∀ tile ∈ rule.chain chain, tile ∈ catalog.tiles := by
    intro tile inChain
    exact taken.mem_tiles (mem_placed_iff.mpr ⟨chain, .inr inChain⟩)
  have same : ((retiring retired).rule rule).overCountFindings chain =
      (rule.overCountFindings chain).map (retiring retired).finding := by
    rw [overCountFindings, chain_rule]
    apply (retiring retired).overCountsFrom_map chain (fun _ => rfl) _ (List.nil_subset _)
      (List.Subset.refl _)
    intro tile inChain other otherInChain
    exact sharesCategory_retiring typed (inCatalog tile inChain) (inCatalog other otherInChain)
  have sameIssues : (((retiring retired).rule rule).overCountFindings chain).map
      (·.toIssue page index) = (rule.overCountFindings chain).map (·.toIssue page index) := by
    rw [same, List.map_map]
    exact List.map_congr_left fun finding _ => toIssue_finding_retiring
  rw [sameIssues]
  exact retires_of_category (category_overCountsFrom _ _ _) (by decide) (by decide)

private theorem chainFindings_retires (typed : catalog.WellTyped)
    (declared : retired ⊆ catalog.tiles) (taken : rule.TakenFrom catalog) (chain : Chain) :
    Issue.Retires retired ((rule.chainFindings catalog chain).map (·.toIssue page index))
      ((((retiring retired).rule rule).chainFindings ((retiring retired).catalog catalog)
        chain).map (·.toIssue page index)) [] := by
  unfold chainFindings
  rw [anchor?_rule, Option.isNone_map]
  split
  · exact .of_eq_filter nofun rfl
  · rw [List.map_append, List.map_append]
    exact (placementFindings_retires page index typed declared taken chain).append
      (overCountFindings_retires page index typed taken chain)

private theorem orphanFindings_retires (retired : List Tile) (rule : Rule) :
    Issue.Retires retired (rule.orphanFindings.map (·.toIssue page index))
      (((retiring retired).rule rule).orphanFindings.map (·.toIssue page index)) [] := by
  rw [orphanFindings_rule]
  exact retires_of_category (fun _ => category_orphanFindings) (by decide) (by decide)

/-- For every placement of a retired tile, there is an issue that it is hidden. -/
theorem issues_retires (typed : catalog.WellTyped) (declared : retired ⊆ catalog.tiles)
    (visible : ∀ tile ∈ retired, tile.hidden = false) (taken : rule.TakenFrom catalog) :
    Issue.Retires retired (rule.issues catalog page index)
      (((retiring retired).rule rule).issues ((retiring retired).catalog catalog) page index)
      ((rule.placed.filter (· ∈ retired)).map fun tile =>
        (Finding.hiddenTile tile).toIssue page index) := by
  have orphans := orphanFindings_retires page index retired rule
  have hidden := hiddenFindings_retires page index typed declared visible taken
  have chain := chainFindings_retires page index typed declared taken
  have parts := ((orphans.append hidden).append (chain .filters)).append (chain .modifiers)
  simpa only [issues, findings, List.map_append, List.nil_append, List.append_nil]
    using parts

end Rule

/-- What becomes of stored brains, suggestions and audits when certain tiles are retired. -/
structure Catalog.RetiresSafely (catalog : Catalog) (retired : List Tile) : Prop where
  decodes (mode : Mode) (policy : Policy) (data : Json) :
    DecodeOptions.decodeBrain ⟨(retiring retired).catalog catalog, mode, policy⟩ data =
      (retiring retired).brain <$> DecodeOptions.decodeBrain ⟨catalog, mode, policy⟩ data
  taken (mode : Mode) (policy : Policy) (data : Json) (brain : Brain)
    (decoded : (DecodeOptions.decodeBrain ⟨catalog, mode, policy⟩ data).outcome = .ok brain) :
    brain.TakenFrom catalog
  encodes (brain : Brain) : ((retiring retired).brain brain).toJson = brain.toJson
  suggestAnchors (typed : catalog.WellTyped) (chain : Chain) :
    ∃ all, catalog.suggestAnchors chain = .ok all ∧
      ((retiring retired).catalog catalog).suggestAnchors chain = .ok (all.filter (· ∉ retired))
  suggest (typed : catalog.WellTyped) (rule : Rule) (chain : Chain) (index : Int)
    (within : 0 ≤ index ∧ index ≤ (rule.chain chain).length) :
    ∃ all, (catalog.suggest rule chain index).outcome = .ok all ∧
      (((retiring retired).catalog catalog).suggest ((retiring retired).rule rule) chain
        index).outcome = .ok (all.filter (· ∉ retired))
  audit (typed : catalog.WellTyped) (rule : Rule) (taken : rule.TakenFrom catalog)
    (page index : Int) :
    ∃ before after, (rule.audit catalog page index).outcome = .ok before ∧
      (((retiring retired).rule rule).audit ((retiring retired).catalog catalog) page
        index).outcome = .ok after ∧
      Issue.Retires retired before after ((rule.placed.filter (· ∈ retired)).map fun tile =>
        (Finding.hiddenTile tile).toIssue page index)

/-- Visible tiles can be retired safely. -/
theorem Catalog.retiresSafely (declared : retired ⊆ catalog.tiles)
    (visible : ∀ tile ∈ retired, tile.hidden = false) : catalog.RetiresSafely retired where
  decodes := (retiring retired).decodeBrain_catalog catalog
  taken mode policy data brain decoded := by
    obtain ⟨record, resolved, _⟩ := DecodeOptions.exists_record decoded
    exact BrainRecord.takenFrom_of_resolveUnder resolved
  encodes := (retiring retired).toJson_brain
  suggestAnchors typed chain := by
    refine ⟨catalog.candidates chain.anchorKind, if_pos (typed.isRankable _), ?_⟩
    rw [← candidates_retiring typed]
    exact if_pos (typed.retiring.isRankable _)
  suggest typed rule chain index within := by
    refine ⟨catalog.offered rule chain index.toNat,
      outcome_suggest (typed.isRankable _) within, ?_⟩
    rw [← offered_retiring typed]
    apply outcome_suggest (typed.retiring.isRankable _)
    rwa [chain_rule, List.length_map]
  audit typed rule taken page index := by
    have before := Rule.outcome_audit (fun chain => typed.isRankable chain.kind)
      (taken.isCountable typed) page index
    have stillTyped : ((retiring retired).catalog catalog).WellTyped := typed.retiring
    have stillTaken := (retiring retired).takenFrom_rule taken
    have after := Rule.outcome_audit (fun chain => stillTyped.isRankable chain.kind)
      (stillTaken.isCountable stillTyped) page index
    exact ⟨_, _, before, after, Rule.issues_retires page index typed declared visible taken⟩

end Retiring

namespace Builtin

/-- The sensor that sees, and the modifier that points at what is seen. -/
def outmoded : List Tile :=
  catalog.tiles.filter fun tile => tile.id ∈ [.str SensorId.see, .str ModifierId.toward]

/-- Both are placed in the chase, and can be retired. -/
theorem retiresSafely_outmoded :
    outmoded ⊆ catalog.tiles ∧ (∀ tile ∈ outmoded, tile.hidden = false) ∧ catalog.WellTyped ∧
      chasing.TakenFrom catalog ∧
      (chasing.placed.filter (· ∈ outmoded)).map Tile.id =
        [.str SensorId.see, .str ModifierId.toward] ∧
      catalog.RetiresSafely outmoded := by
  have declared : outmoded ⊆ catalog.tiles := List.filter_subset_self _
  have visible : ∀ tile ∈ outmoded, tile.hidden = false := by decide +kernel
  exact ⟨declared, visible, by decide +kernel, by decide +kernel, by decide +kernel,
    Catalog.retiresSafely declared visible⟩

end Builtin

end TileBrain
