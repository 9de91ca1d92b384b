import TileBrain.Proofs.Redeclaration
import TileBrain.Proofs.Suggestion

/-! # Attributes that only inform

Names, phases and priorities are there to be shown, and so are the handling entries of a tile, apart
from that by which it ends its chain. `Redeclaration.IsInformational.keepsVerdicts` says that tiles
may be declared anew with others of these: the same identifiers are suggested, and the audit reports
the same but for exceeded caps, in other words at most.
-/

namespace TileBrain

/-- Tiles are declared anew with the fields that suggestions depend on. Of the constraints, only the
handling may differ, unless it ends the chain. -/
structure Redeclaration.IsInformational (new : Redeclaration) : Prop where
  category (old : Tile) : (new.tile old).category = old.category
  weight (old : Tile) : (new.tile old).weight = old.weight
  hidden (old : Tile) : (new.tile old).hidden = old.hidden
  provides (old : Tile) : (new.tile old).block.provides = old.block.provides
  requires (old : Tile) : (new.tile old).block.requires = old.block.requires
  allow (old : Tile) : (new.tile old).block.allow = old.block.allow
  disallow (old : Tile) : (new.tile old).block.disallow = old.block.disallow
  isTerminal (old : Tile) : (new.tile old).isTerminal = old.isTerminal

/-- What an issue is about, whatever its wording: its category, the tile, and how bad it is. -/
def Issue.verdict (issue : Issue Json) : String × Option Json × String :=
  (issue.category, issue.id, issue.severity)

/-- The verdicts on a rule, exceeded caps left out. -/
def Issue.verdicts (issues : List (Issue Json)) : List (String × Option Json × String) :=
  (issues.filter (·.category ≠ Finding.Category.maxCount.label)).map Issue.verdict

/-- What is suggested for a rule and found in it is the same as before, by the identifiers, and so
are the notices on the way. -/
structure Redeclaration.KeepsVerdicts (new : Redeclaration) (catalog : Catalog) (rule : Rule) :
    Prop where
  anchors (chain : Chain) :
    List.map Tile.id <$> (new.catalog catalog).suggestAnchors chain =
      List.map Tile.id <$> catalog.suggestAnchors chain
  tiles (chain : Chain) (index : Int) :
    List.map Tile.id <$> (new.catalog catalog).suggest (new.rule rule) chain index =
      List.map Tile.id <$> catalog.suggest rule chain index
  issues (page index : Int) :
    Issue.verdicts <$> (new.rule rule).audit (new.catalog catalog) page index =
      Issue.verdicts <$> rule.audit catalog page index

/-- The verdicts are those on what is found besides exceeded caps. -/
theorem Issue.verdicts_issues (rule : Rule) (catalog : Catalog) (page index : Int) :
    verdicts (rule.issues catalog page index) =
      ((rule.findings catalog).filter (·.category ≠ .maxCount)).map fun finding =>
        (finding.toIssue page index).verdict := by
  have listed (finding : Finding) :
      decide ((finding.toIssue page index).category ≠ Finding.Category.maxCount.label) =
        decide (finding.category ≠ .maxCount) := by
    rw [decide_eq_decide, Finding.toIssue, ne_eq, Finding.Category.label_inj]
  simp only [verdicts, Rule.issues, List.filter_map, List.map_map, Function.comp_def, listed]

namespace Redeclaration.IsInformational

variable {new : Redeclaration} (informational : new.IsInformational) (catalog : Catalog)
  (rule : Rule) (chain : Chain)

include informational

theorem sortWeight (old : Tile) : (new.tile old).sortWeight = old.sortWeight := by
  rw [Tile.sortWeight, Tile.sortWeight, informational.weight]

theorem visible (kind : TileKind) :
    (new.catalog catalog).visible kind = (catalog.visible kind).map new.tile := by
  simp only [Catalog.visible, partition_catalog, List.filter_map, Function.comp_def,
    informational.hidden]

/-- The candidates keep their order. -/
theorem candidates (kind : TileKind) :
    (new.catalog catalog).candidates kind = (catalog.candidates kind).map new.tile := by
  rw [Catalog.candidates, Catalog.candidates, informational.visible,
    StableSort.sort_eq_insertionSort, StableSort.sort_eq_insertionSort]
  refine (List.map_insertionSort _ _ _ _ fun tile _ other _ => ?_).symm
  simp only [Catalog.inWeightOrder, informational.sortWeight]

theorem isRankable (kind : TileKind) :
    (new.catalog catalog).isRankable kind = catalog.isRankable kind := by
  simp only [Catalog.isRankable, informational.visible, List.pairwise_map,
    informational.sortWeight]

theorem suggestAnchors :
    (new.catalog catalog).suggestAnchors chain =
      List.map new.tile <$> catalog.suggestAnchors chain := by
  simp only [Catalog.suggestAnchors, Catalog.rank, informational.isRankable,
    informational.candidates]
  split <;> rfl

/-- Tiles are compatible with others as before. -/
theorem isCompatible (tile : Tile) (tiles : List Tile) :
    (new.tile tile).isCompatible (.ofTiles (tiles.map new.tile)) =
      tile.isCompatible (.ofTiles tiles) := by
  rw [Bool.eq_iff_iff, Tile.isCompatible_ofTiles_iff, Tile.isCompatible_ofTiles_iff]
  simp only [List.mem_map, exists_exists_and_eq_and, forall_exists_index, and_imp,
    forall_apply_eq_imp_iff₂, Selector.Names, informational.requires, informational.provides,
    informational.allow, informational.disallow, informational.category, new.id_tile]

theorem terminalBefore? (position : Nat) :
    (new.rule rule).terminalBefore? chain position =
      (rule.terminalBefore? chain position).map new.tile :=
  new.terminalBefore?_rule informational.isTerminal rule chain position

theorem offered (position : Nat) :
    (new.catalog catalog).offered (new.rule rule) chain position =
      (catalog.offered rule chain position).map new.tile := by
  unfold Catalog.offered
  rw [informational.terminalBefore?]
  cases rule.terminalBefore? chain position with
  | some terminal => rfl
  | none =>
    change Catalog.compatible _ _ _ = (Catalog.compatible _ _ _).map _
    simp only [Catalog.compatible, informational.candidates, Rule.accumulated, ahead_rule,
      List.filter_map, Function.comp_def, informational.isCompatible]

/-- The same number of tiles is reported, and the same end of a chain. -/
theorem suggestNotice (position : Nat) :
    (new.catalog catalog).suggestNotice (new.rule rule) chain position =
      catalog.suggestNotice rule chain position := by
  unfold Catalog.suggestNotice
  rw [informational.terminalBefore?, informational.offered, List.length_map]
  cases rule.terminalBefore? chain position with
  | some terminal => exact congrArg (Notice.chainEnded chain) (new.id_tile terminal)
  | none => rfl

theorem suggestAt (position : Nat) :
    (new.catalog catalog).suggestAt (new.rule rule) chain position =
      List.map new.tile <$> catalog.suggestAt rule chain position := by
  simp only [Catalog.suggestAt, informational.terminalBefore?, Option.isSome_map,
    informational.isRankable, informational.suggestNotice, informational.offered]
  split
  · rw [Reported.map_mk_ok]
  · rfl

/-- Those tiles are suggested that were before, declared anew. -/
theorem suggest (index : Int) :
    (new.catalog catalog).suggest (new.rule rule) chain index =
      List.map new.tile <$> catalog.suggest rule chain index := by
  simp only [Catalog.suggest, chain_rule, List.length_map, informational.suggestAt,
    Reported.mapError_map]
  split <;> rfl

theorem placementFinding? (tile : Tile) (position : Nat) :
    (new.rule rule).placementFinding? (new.catalog catalog) chain (new.tile tile) position =
      (rule.placementFinding? catalog chain tile position).map new.finding := by
  unfold Rule.placementFinding?
  rw [informational.terminalBefore?]
  cases rule.terminalBefore? chain position with
  | some terminal => rfl
  | none =>
    simp only [Option.map_none, informational.offered, informational.hidden, List.any_map,
      Function.comp_def, new.id_tile]
    split <;> rfl

theorem placementFindings :
    (new.rule rule).placementFindings (new.catalog catalog) chain =
      (rule.placementFindings catalog chain).map new.finding := by
  simp only [Rule.placementFindings, chain_rule, List.zipIdx_map, List.filterMap_map,
    List.map_filterMap, Function.comp_def, Prod.map, id_eq, informational.placementFinding?]

theorem hiddenFindings :
    (new.rule rule).hiddenFindings = rule.hiddenFindings.map new.finding := by
  simp only [Rule.hiddenFindings, placed_rule, List.filter_map, Function.comp_def,
    informational.hidden, List.map_map, finding]

/-- Apart from exceeded caps, what is found is what was found before. -/
theorem filter_findings :
    ((new.rule rule).findings (new.catalog catalog)).filter (·.category ≠ .maxCount) =
      ((rule.findings catalog).filter (·.category ≠ .maxCount)).map new.finding := by
  have orphans : rule.orphanFindings.map new.finding = rule.orphanFindings := by
    simp only [Rule.orphanFindings, List.map_filterMap, apply_ite (Option.map new.finding),
      Option.map_some, Option.map_none, finding]
  have placements (chain : Chain) :
      (new.rule rule).placements (new.catalog catalog) chain =
        (rule.placements catalog chain).map new.finding := by
    rw [Rule.placements, Rule.placements, anchor?_rule, Option.isNone_map,
      informational.placementFindings]
    split <;> rfl
  simp only [Rule.filter_findings_ne_maxCount, orphanFindings_rule, informational.hiddenFindings,
    placements, List.map_append, orphans]

/-- The verdicts stay what they were. -/
theorem verdicts_issues (page index : Int) :
    Issue.verdicts ((new.rule rule).issues (new.catalog catalog) page index) =
      Issue.verdicts (rule.issues catalog page index) := by
  have verdict (found : Finding) : ((new.finding found).toIssue page index).verdict =
      (found.toIssue page index).verdict := by
    cases found <;> simp [Issue.verdict, Finding.toIssue, finding, Finding.category,
      Finding.severity, Finding.tile?, new.id_tile]
  simp only [Issue.verdicts_issues, informational.filter_findings, List.map_map,
    Function.comp_def, verdict]

/-- The suggestions are replayed with the same notices. -/
theorem replayPlacement (page index : Int) (tile : Tile) (position : Nat) :
    (new.rule rule).replayPlacement (new.catalog catalog) page index chain (new.tile tile)
        position =
      rule.replayPlacement catalog page index chain tile position := by
  unfold Rule.replayPlacement
  simp only [informational.terminalBefore?, Option.isSome_map, informational.hidden,
    informational.suggestAt, bind_map_left, informational.placementFinding?, new.id_tile]
  cases rule.placementFinding? catalog chain tile position <;> rfl

theorem replayChain (page index : Int) :
    (new.rule rule).replayChain (new.catalog catalog) page index chain =
      rule.replayChain catalog page index chain := by
  have countable : (new.rule rule).isCountable chain = rule.isCountable chain := by
    simp only [Rule.isCountable, chain_rule, List.all_map, Function.comp_def,
      informational.category]
  simp only [Rule.replayChain, anchor?_rule, Option.isNone_map, countable, chain_rule,
    List.zipIdx_map, List.forM_eq_forM, List.forM_map, Prod.map, id_eq,
    informational.replayPlacement]

theorem replay (page index : Int) :
    (new.rule rule).replay (new.catalog catalog) page index = rule.replay catalog page index := by
  rw [Rule.replay, Rule.replay, informational.replayChain, informational.replayChain]

/-- The verdicts of the audit stay what they were, and so do its notices. -/
theorem audit (page index : Int) :
    Issue.verdicts <$> (new.rule rule).audit (new.catalog catalog) page index =
      Issue.verdicts <$> rule.audit catalog page index := by
  simp only [Rule.audit, informational.replay, map_bind, map_pure, informational.verdicts_issues]

/-- What only informs has no influence on what is suggested or found. -/
theorem keepsVerdicts : new.KeepsVerdicts catalog rule where
  anchors chain := by
    rw [informational.suggestAnchors, Functor.map_map]
    simp only [List.map_map, Function.comp_def, new.id_tile]
  tiles chain index := by
    simp only [informational.suggest, Functor.map_map, List.map_map, Function.comp_def, new.id_tile]
  issues page index := informational.audit catalog rule page index

end Redeclaration.IsInformational

/-- The block without its handling entries. -/
def Constraints.unhandled (block : Constraints) : Constraints :=
  { block with handling := [], keys_distinct := List.nodup_nil }

/-- Tiles are declared without names, and without handling entries unless they are terminal. Their
phases and priorities are the same for all. -/
def Redeclaration.plain : Redeclaration where
  tile old := { old with
    name := .str ""
    constraints :=
      if old.isTerminal then old.constraints else old.constraints.map Constraints.unhandled
    role := match old.role with
      | .sensor _ => .sensor .pre
      | .filter _ => .filter .null
      | .actuator => .actuator
      | .modifier _ => .modifier .null }
  id_tile _ := rfl
  kind_tile old := by
    obtain ⟨_, _, _, _, _, _, role⟩ := old
    cases role <;> rfl

private theorem Redeclaration.isInformational_plain : plain.IsInformational := by
  have constraints (old : Tile) : (plain.tile old).constraints =
      if old.isTerminal then old.constraints
      else old.constraints.map Constraints.unhandled := rfl
  have block (old : Tile) : (plain.tile old).block =
      if old.isTerminal then old.block else old.block.unhandled := by
    rw [Tile.block, constraints, Tile.block]
    split
    · rfl
    · cases old.constraints <;> rfl
  constructor
  case category | weight | hidden => exact fun _ => rfl
  case isTerminal =>
    intro old
    rw [Tile.isTerminal, constraints]
    split
    · rfl
    next goesOn =>
      rw [Bool.eq_false_iff.mpr goesOn]
      cases old.constraints <;> rfl
  all_goals
    intro old
    rw [block]
    split <;> rfl

namespace Builtin

/-- A rule that moves in a hurry that it mentions four times. -/
def hurrying : Rule :=
  { seeingMoving with
    modifiers := List.replicate 4 (speedModifier ModifierId.quickly "quickly" ModifierId.slowly) }

/-- The mentions exceed a cap, and exceed none without it. Otherwise, the rule is judged alike. -/
theorem keepsVerdicts_hurrying :
    Redeclaration.plain.IsInformational ∧ Redeclaration.plain.KeepsVerdicts catalog hurrying ∧
      (hurrying.issues catalog 0 0).map Issue.verdict =
        [("max-count", some (.str ModifierId.quickly), "low")] ∧
      (Redeclaration.plain.rule hurrying).issues (Redeclaration.plain.catalog catalog) 0 0 =
        [] := by
  have informational := Redeclaration.isInformational_plain
  exact ⟨informational, informational.keepsVerdicts catalog hurrying, by decide +kernel,
    by decide +kernel⟩

end Builtin

end TileBrain
