import TileBrain.Audit.Finding
import TileBrain.Proofs.Decoding.BestEffort

/-! # Tiles declared anew

Tiles may be declared anew with other fields, as long as each keeps its identifier and its kind.
`Redeclaration.decodeBrain_catalog` says that data is then decoded to the same brain as before, with
its tiles declared anew, and `Redeclaration.toJson_brain` that such a brain is stored as before.

A redeclaration is a map on tiles, and catalogs, rules and brains are mapped along with it. What
suggestions and the audit make of the new fields depends on which fields change, and is left to
those who say so.
-/

namespace TileBrain

/-- What tiles are declared anew as. -/
structure Redeclaration where
  tile : Tile → Tile
  id_tile (old : Tile) : (tile old).id = old.id
  kind_tile (old : Tile) : (tile old).kind = old.kind

namespace Redeclaration

variable (new : Redeclaration)

def rule (rule : Rule) : Rule where
  condition := rule.condition
  sensor := rule.sensor.map new.tile
  filters := rule.filters.map new.tile
  actuator := rule.actuator.map new.tile
  modifiers := rule.modifiers.map new.tile

def page (page : Page) : Page := ⟨page.rules.map new.rule⟩

def brain (brain : Brain) : Brain := ⟨brain.pages.map new.page⟩

/-- What is found of such tiles. -/
def finding : Finding → Finding
  | .orphans chain count => .orphans chain count
  | .hiddenTile tile => .hiddenTile (new.tile tile)
  | .afterTerminal chain tile position terminal =>
    .afterTerminal chain (new.tile tile) position (new.tile terminal)
  | .illegal chain tile position => .illegal chain (new.tile tile) position
  | .overCount chain tile count cap => .overCount chain (new.tile tile) count cap

def catalog (catalog : Catalog) : Catalog where
  tiles := catalog.tiles.map new.tile
  ids_atomic := by
    rw [List.forall_mem_map]
    intro tile member
    rw [new.id_tile]
    exact catalog.ids_atomic tile member
  ids_distinct := by
    simp only [List.pairwise_map, new.id_tile]
    exact catalog.ids_distinct

section Rules

variable (rule : Rule) (chain : Chain)

@[simp] theorem chain_rule : (new.rule rule).chain chain = (rule.chain chain).map new.tile := by
  cases chain <;> rfl

@[simp] theorem anchor?_rule :
    (new.rule rule).anchor? chain = (rule.anchor? chain).map new.tile := by
  cases chain <;> rfl

private theorem before_rule : (new.rule rule).before chain = (rule.before chain).map new.tile := by
  cases chain <;> simp [Rule.before, Redeclaration.rule, Option.toList_map]

theorem ahead_rule (position : Nat) :
    (new.rule rule).ahead chain position = (rule.ahead chain position).map new.tile := by
  rw [Rule.ahead, Rule.ahead, before_rule, chain_rule, ← List.map_take, ← List.map_append]

theorem placed_rule : (new.rule rule).placed = rule.placed.map new.tile := by
  simp only [Rule.placed, Redeclaration.rule, Option.toList_map, List.map_append]

private theorem repair_rule : (new.rule rule).repair = new.rule rule.repair := by
  simp only [Rule.repair, Redeclaration.rule, Option.isNone_map]
  split <;> split <;> rfl

private theorem repairNotices_rule : (new.rule rule).repairNotices = rule.repairNotices := by
  simp only [Rule.repairNotices, anchor?_rule, chain_rule, Option.isNone_map, List.isEmpty_map,
    List.length_map]

theorem orphanFindings_rule : (new.rule rule).orphanFindings = rule.orphanFindings := by
  simp only [Rule.orphanFindings, anchor?_rule, chain_rule, Option.isNone_map, List.isEmpty_map,
    List.length_map]

private theorem toRecord_rule : (new.rule rule).toRecord = rule.toRecord := by
  simp only [Rule.toRecord, Redeclaration.rule, Option.bind_map, List.map_map, Function.comp_def,
    new.id_tile]

end Rules

/-- Tiles that are terminal when they were before end chains where these ended. -/
theorem terminalBefore?_rule (keeps : ∀ old, (new.tile old).isTerminal = old.isTerminal)
    (rule : Rule) (chain : Chain) (position : Nat) :
    (new.rule rule).terminalBefore? chain position =
      (rule.terminalBefore? chain position).map new.tile := by
  cases position with
  | zero => rfl
  | succ last =>
    simp only [Rule.terminalBefore?, chain_rule, List.getElem?_map, Option.filter_map,
      Function.comp_def, keeps]

/-- A brain is stored as it was before. -/
theorem toJson_brain (brain : Brain) : (new.brain brain).toJson = brain.toJson := by
  have page (page : Page) : (new.page page).toRecord = page.toRecord := by
    simp only [Page.toRecord, Redeclaration.page, List.map_map, Function.comp_def, toRecord_rule]
  rw [Brain.toJson, Brain.toJson, Brain.toRecord, Brain.toRecord, Redeclaration.brain,
    Pages.map_map]
  simp only [page]

theorem partition_catalog (catalog : Catalog) (kind : TileKind) :
    (new.catalog catalog).partition kind = (catalog.partition kind).map new.tile := by
  simp only [Catalog.partition, Redeclaration.catalog, List.filter_map, Function.comp_def,
    new.kind_tile]

theorem takenFrom_rule {rule : Rule} {catalog : Catalog} (taken : rule.TakenFrom catalog) :
    (new.rule rule).TakenFrom (new.catalog catalog) := by
  constructor
  · intro chain
    rw [anchor?_rule, Option.toList_map, List.forall_mem_map, partition_catalog]
    exact fun tile member => List.mem_map_of_mem (taken.anchor chain tile member)
  · intro chain
    rw [chain_rule, List.forall_mem_map, partition_catalog]
    exact fun tile member => List.mem_map_of_mem (taken.chain chain tile member)

section Resolving

variable (catalog : Catalog) (kind : TileKind)

private theorem get?_catalog (id : Json) :
    (new.catalog catalog).get? kind id = (catalog.get? kind id).map new.tile := by
  simp only [Catalog.get?, partition_catalog, List.find?_map, Function.comp_def, new.id_tile]

private theorem lacks_catalog_iff {reference : Unresolved} :
    (new.catalog catalog).Lacks reference ↔ catalog.Lacks reference := by
  simp only [Catalog.Lacks, partition_catalog, List.forall_mem_map, new.id_tile]

private theorem missing_catalog (record : RuleRecord String) :
    record.missing (new.catalog catalog) = record.missing catalog := by
  simp only [RuleRecord.missing, lacks_catalog_iff]

private theorem known_catalog (ids : List String) :
    (new.catalog catalog).known kind ids = (catalog.known kind ids).map new.tile := by
  simp only [Catalog.known, get?_catalog, List.map_filterMap]

private theorem resolveKnown_catalog (record : RuleRecord String) :
    record.resolveKnown (new.catalog catalog) = new.rule (record.resolveKnown catalog) := by
  simp only [RuleRecord.resolveKnown, Redeclaration.rule, get?_catalog, known_catalog,
    Option.map_bind, Function.comp_def]

/-- A record is resolved to the same brain, with its tiles declared anew. -/
theorem resolveUnder_catalog (record : BrainRecord String) (policy : Policy) :
    record.resolveUnder (new.catalog catalog) policy =
      new.brain <$> record.resolveUnder catalog policy := by
  cases policy with
  | raise =>
    simp only [BrainRecord.resolveUnder_raise, BrainRecord.missing, missing_catalog,
      resolveKnown_catalog, map_bind, map_pure, Redeclaration.brain, Redeclaration.page,
      Pages.map_map, List.map_map, Function.comp_def]
  | dropRule =>
    simp only [BrainRecord.resolveUnder_dropRule, missing_catalog, resolveKnown_catalog,
      Reported.map_mk_ok, Redeclaration.brain, Redeclaration.page, Pages.map_map, List.map_map,
      Function.comp_def]
  | dropTile =>
    simp only [BrainRecord.resolveUnder_dropTile, missing_catalog, resolveKnown_catalog,
      repair_rule, repairNotices_rule, Reported.map_mk_ok, Redeclaration.brain,
      Redeclaration.page, Pages.map_map, List.map_map, Function.comp_def]

/-- Data is decoded to the same brain, with its tiles declared anew. -/
theorem decodeBrain_catalog (mode : Mode) (policy : Policy) (data : Json) :
    DecodeOptions.decodeBrain ⟨new.catalog catalog, mode, policy⟩ data =
      new.brain <$> DecodeOptions.decodeBrain ⟨catalog, mode, policy⟩ data := by
  simp only [DecodeOptions.decodeBrain, resolveUnder_catalog, Reported.mapError_map, map_bind]

end Resolving

section Caps

variable (chain : Chain) {all : List Tile}

/-- A cap is exceeded by the same tiles as before if these set the same caps and share their
categories as before. -/
theorem overCountsFrom_map (keeps : ∀ old, (new.tile old).cap? = old.cap?)
    (alike : ∀ tile ∈ all, ∀ other ∈ all,
      (new.tile tile).sharesCategory (new.tile other) = tile.sharesCategory other)
    {reported tiles : List Tile} (wereIn : reported ⊆ all) (areIn : tiles ⊆ all) :
    Rule.overCountsFrom chain (all.map new.tile) (reported.map new.tile) (tiles.map new.tile) =
      (Rule.overCountsFrom chain all reported tiles).map new.finding := by
  have counts {tile : Tile} (member : tile ∈ all) :
      Rule.countAlike (all.map new.tile) (new.tile tile) = Rule.countAlike all tile := by
    rw [Rule.countAlike, Rule.countAlike, List.countP_map]
    apply List.countP_congr
    intro other isOther
    rw [Function.comp_apply, alike other isOther tile member]
  have reportedBefore {reported : List Tile} (wereIn : reported ⊆ all) {tile : Tile}
      (member : tile ∈ all) : (reported.map new.tile).any (·.sharesCategory (new.tile tile)) =
        reported.any (·.sharesCategory tile) := by
    rw [List.any_map, Bool.eq_iff_iff, List.any_eq_true, List.any_eq_true]
    refine exists_congr fun other => and_congr_right fun wasReported => ?_
    rw [Function.comp_apply, alike other (wereIn wasReported) tile member]
  induction tiles generalizing reported with
  | nil => rfl
  | cons tile rest ih =>
    obtain ⟨isIn, restIn⟩ := List.cons_subset.mp areIn
    have more : tile :: reported ⊆ all := List.cons_subset.mpr ⟨isIn, wereIn⟩
    have next := ih more restIn
    rw [List.map_cons] at next ⊢
    simp only [Rule.overCountsFrom, keeps, counts isIn, reportedBefore wereIn isIn]
    split
    · split
      · rw [List.map_cons, ← next]
        rfl
      · exact ih wereIn restIn
    · exact ih wereIn restIn

end Caps

end Redeclaration

end TileBrain
