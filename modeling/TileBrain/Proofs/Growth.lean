import TileBrain.Proofs.Catalog.Declared
import TileBrain.Proofs.Decoding.Unresolved
import TileBrain.Proofs.Suggestion

/-! # Catalogs that grow

Further tiles may be declared behind those that a catalog has. Whatever was decoded before is
decoded again, with nothing lost that was there: `Catalog.carriesOver_append` says so for every
policy, and that the suggestions among the earlier tiles stay what they were.

A larger catalog finds all that a smaller one finds, so no identifier is missing that was there
before. Where a policy left something out, what is decoded now has more: `Rule.IsPartOf` says so of
a rule with fewer tiles, in the same order.
-/

namespace TileBrain

namespace Catalog

variable {catalog larger : Catalog} {kind : TileKind}

/-- What is found stays when tiles are added. -/
private theorem get?_of_subset (grows : catalog.tiles ⊆ larger.tiles) {id : Json} {tile : Tile}
    (found : catalog.get? kind id = some tile) : larger.get? kind id = some tile := by
  obtain ⟨member, isKind⟩ := get?_eq_some_iff.mp found
  exact get?_eq_some_iff.mpr ⟨grows member, isKind⟩

private theorem Lacks.of_subset (grows : catalog.tiles ⊆ larger.tiles) {reference : Unresolved}
    (lacks : larger.Lacks reference) : catalog.Lacks reference := by
  intro tile member
  obtain ⟨declared, isKind⟩ := mem_partition.mp member
  exact lacks tile (mem_partition.mpr ⟨grows declared, isKind⟩)

/-- Where tiles are added, chains have no less. -/
private theorem known_sublist_of_subset (grows : catalog.tiles ⊆ larger.tiles) (ids : List String) :
    (catalog.known kind ids).Sublist (larger.known kind ids) := by
  induction ids with
  | nil => exact .slnil
  | cons id rest ih =>
    simp only [known, List.filterMap_cons] at ih ⊢
    cases found : catalog.get? kind (.str id) with
    | some tile =>
      rw [get?_of_subset grows found]
      exact ih.cons_cons tile
    | none =>
      cases larger.get? kind (.str id) with
      | none => exact ih
      | some tile => exact ih.cons tile

private theorem bind_get?_of_subset (grows : catalog.tiles ⊆ larger.tiles) (slot : Option String) :
    (slot.bind fun id => catalog.get? kind (.str id)) = none ∨
      (slot.bind fun id => catalog.get? kind (.str id)) =
        slot.bind fun id => larger.get? kind (.str id) := by
  cases slot with
  | none => exact .inl rfl
  | some id =>
    cases found : catalog.get? kind (.str id) with
    | none => exact .inl found
    | some tile => exact .inr (found.trans (get?_of_subset grows found).symm)

end Catalog

/-- A rule with the condition of another, in whose slots and chains only tiles of the other stand,
each in its place or order. -/
structure Rule.IsPartOf (rule other : Rule) : Prop where
  condition : rule.condition = other.condition
  anchor : ∀ chain, rule.anchor? chain = none ∨ rule.anchor? chain = other.anchor? chain
  chain : ∀ chain, (rule.chain chain).Sublist (other.chain chain)

/-- Repairing both leaves a part a part: a chain that is kept in the part has its anchor in the
other as well. -/
theorem Rule.IsPartOf.repair {rule other : Rule} (part : rule.IsPartOf other) :
    rule.repair.IsPartOf other.repair := by
  refine ⟨part.condition, ?_, ?_⟩
  · simpa only [Rule.anchor?_repair] using part.anchor
  · intro chain
    rw [Rule.chain_repair, Rule.chain_repair]
    rcases part.anchor chain with missing | same
    · rw [missing]
      exact List.nil_sublist _
    · rw [same]
      split
      · exact .slnil
      · exact part.chain chain

section Records

variable {catalog larger : Catalog} {record : RuleRecord String}

namespace RuleRecord

private theorem isPartOf_resolveKnown (grows : catalog.tiles ⊆ larger.tiles) :
    (record.resolveKnown catalog).IsPartOf (record.resolveKnown larger) where
  condition := rfl
  anchor := Chain.forall_iff.mpr
    ⟨Catalog.bind_get?_of_subset grows _, Catalog.bind_get?_of_subset grows _⟩
  chain := Chain.forall_iff.mpr
    ⟨Catalog.known_sublist_of_subset grows _, Catalog.known_sublist_of_subset grows _⟩

private theorem missing_eq_nil_of_subset (grows : catalog.tiles ⊆ larger.tiles)
    (complete : record.missing catalog = []) : record.missing larger = [] := by
  apply List.filter_eq_nil_iff.mpr
  intro reference member
  have has := List.filter_eq_nil_iff.mp complete reference member
  rw [decide_eq_true_eq] at has ⊢
  exact mt (Catalog.Lacks.of_subset grows) has

/-- A rule of which nothing is missing is resolved to the tiles that it had before. -/
private theorem resolveKnown_eq_of_subset (grows : catalog.tiles ⊆ larger.tiles)
    (complete : record.missing catalog = []) :
    record.resolveKnown larger = record.resolveKnown catalog := by
  apply resolveKnown_congr
  intro kind id member
  have has : ¬ catalog.Lacks ⟨kind, .str id⟩ := by
    simpa using List.filter_eq_nil_iff.mp complete _ member
  obtain ⟨tile, found⟩ := Option.ne_none_iff_exists'.mp (mt Catalog.get?_str_eq_none_iff.mp has)
  rw [found, Catalog.get?_of_subset grows found]

end RuleRecord

namespace BrainRecord

variable {record : BrainRecord String} {brain : Brain}

/-- A brain of which nothing is missing is resolved to the same brain. -/
theorem resolveUnder_raise_of_subset (grows : catalog.tiles ⊆ larger.tiles)
    (resolved : (record.resolveUnder catalog .raise).outcome = .ok brain) :
    (record.resolveUnder larger .raise).outcome = .ok brain := by
  have complete : record.missing catalog = [] := by
    cases missing : record.missing catalog with
    | nil => rfl
    | cons first rest =>
      exact nomatch (outcome_resolveUnder_raise_of_eq_cons missing).symm.trans resolved
  have ruleComplete {page : PageRecord String} (isPage : page ∈ record.pages.toList)
      {rule : RuleRecord String} (isRule : rule ∈ page.rules) : rule.missing catalog = [] :=
    List.flatMap_eq_nil_iff.mp complete rule (List.mem_flatMap.mpr ⟨page, isPage, isRule⟩)
  have largerComplete : record.missing larger = [] := by
    apply List.flatMap_eq_nil_iff.mpr
    intro rule member
    exact RuleRecord.missing_eq_nil_of_subset grows
      (List.flatMap_eq_nil_iff.mp complete rule member)
  rw [outcome_resolveUnder_raise_of_eq_nil complete] at resolved
  rw [outcome_resolveUnder_raise_of_eq_nil largerComplete, ← resolved]
  apply congrArg fun pages => Except.ok (Brain.mk pages)
  apply Pages.map_congr
  intro page isPage
  apply congrArg Page.mk
  apply List.map_congr_left
  intro rule isRule
  exact RuleRecord.resolveKnown_eq_of_subset grows (ruleComplete isPage isRule)

/-- No rule is dropped that was kept. -/
theorem resolveUnder_dropRule_of_subset (grows : catalog.tiles ⊆ larger.tiles)
    (resolved : (record.resolveUnder catalog .dropRule).outcome = .ok brain) :
    ∃ grown, (record.resolveUnder larger .dropRule).outcome = .ok grown ∧
      List.Forall₂ (fun page more => page.rules.Sublist more.rules) brain.pages.toList
        grown.pages.toList := by
  rw [resolveUnder_dropRule] at resolved
  obtain rfl := Except.ok.inj resolved
  rw [resolveUnder_dropRule]
  refine ⟨_, rfl, ?_⟩
  rw [Pages.toList_map, Pages.toList_map, List.forall₂_map_left_iff, List.forall₂_map_right_iff,
    List.forall₂_same]
  intro page _
  have kept : (page.rules.filter (·.missing catalog = [])).Sublist
      (page.rules.filter (·.missing larger = [])) := by
    apply List.monotone_filter_right
    intro rule complete
    rw [decide_eq_true_eq] at complete ⊢
    exact RuleRecord.missing_eq_nil_of_subset grows complete
  have same : (page.rules.filter (·.missing catalog = [])).map (·.resolveKnown catalog) =
      (page.rules.filter (·.missing catalog = [])).map (·.resolveKnown larger) := by
    apply List.map_congr_left
    intro rule member
    have complete : rule.missing catalog = [] := of_decide_eq_true (List.mem_filter.mp member).2
    exact (RuleRecord.resolveKnown_eq_of_subset grows complete).symm
  rw [same]
  exact kept.map _

/-- No tile is dropped that was kept. -/
theorem resolveUnder_dropTile_of_subset (grows : catalog.tiles ⊆ larger.tiles)
    (resolved : (record.resolveUnder catalog .dropTile).outcome = .ok brain) :
    ∃ grown, (record.resolveUnder larger .dropTile).outcome = .ok grown ∧
      List.Forall₂ (fun page more => List.Forall₂ Rule.IsPartOf page.rules more.rules)
        brain.pages.toList grown.pages.toList := by
  rw [resolveUnder_dropTile] at resolved
  obtain rfl := Except.ok.inj resolved
  rw [resolveUnder_dropTile]
  refine ⟨_, rfl, ?_⟩
  rw [Pages.toList_map, Pages.toList_map, List.forall₂_map_left_iff, List.forall₂_map_right_iff,
    List.forall₂_same]
  intro page _
  rw [List.forall₂_map_left_iff, List.forall₂_map_right_iff, List.forall₂_same]
  intro rule _
  exact (rule.isPartOf_resolveKnown grows).repair

end BrainRecord

end Records

namespace Catalog

variable {catalog larger : Catalog} {more : List Tile}

private theorem WellTyped.of_append (typed : larger.WellTyped)
    (extended : larger.tiles = catalog.tiles ++ more) : catalog.WellTyped := by
  intro tile member
  exact typed tile (extended ▸ List.mem_append_left more member)

/-- The earlier tiles among the candidates are the candidates that there were. -/
theorem filter_candidates_of_append (typed : larger.WellTyped)
    (extended : larger.tiles = catalog.tiles ++ more) (kind : TileKind) :
    (larger.candidates kind).filter (· ∈ catalog.tiles) = catalog.candidates kind := by
  have apart : ∀ tile ∈ more, tile ∉ catalog.tiles := by
    have nodup := extended ▸ typed.nodup_tiles
    intro tile later earlier
    exact (List.nodup_append.mp nodup).2.2 tile earlier tile later rfl
  have kept : catalog.tiles.filter (· ∈ catalog.tiles) = catalog.tiles := by
    apply List.filter_eq_self.mpr
    intro tile member
    exact decide_eq_true member
  have added : more.filter (· ∈ catalog.tiles) = [] := by
    apply List.filter_eq_nil_iff.mpr
    intro tile member
    simpa using apart tile member
  apply typed.filter_candidates
  rw [visible, visible, partition, partition, List.filter_comm,
    List.filter_comm (· ∈ catalog.tiles), extended, List.filter_append, kept, added,
    List.append_nil]

private theorem filter_offered_of_append (typed : larger.WellTyped)
    (extended : larger.tiles = catalog.tiles ++ more) (rule : Rule) (chain : Chain)
    (position : Nat) :
    (larger.offered rule chain position).filter (· ∈ catalog.tiles) =
      catalog.offered rule chain position := by
  unfold offered
  split
  · rfl
  · rw [compatible, compatible, List.filter_comm, filter_candidates_of_append typed extended]

/-- What a catalog of certain tiles decodes and suggests is what a larger one decodes and
suggests. -/
structure CarriesOver (tiles : List Tile) (catalog larger : Catalog) : Prop where
  raise (mode : Mode) (data : Json) (brain : Brain)
    (decoded : (DecodeOptions.decodeBrain ⟨catalog, mode, .raise⟩ data).outcome = .ok brain) :
    (DecodeOptions.decodeBrain ⟨larger, mode, .raise⟩ data).outcome = .ok brain
  dropRule (mode : Mode) (data : Json) (brain : Brain)
    (decoded : (DecodeOptions.decodeBrain ⟨catalog, mode, .dropRule⟩ data).outcome = .ok brain) :
    ∃ grown, (DecodeOptions.decodeBrain ⟨larger, mode, .dropRule⟩ data).outcome = .ok grown ∧
      List.Forall₂ (fun page more => page.rules.Sublist more.rules) brain.pages.toList
        grown.pages.toList
  dropTile (mode : Mode) (data : Json) (brain : Brain)
    (decoded : (DecodeOptions.decodeBrain ⟨catalog, mode, .dropTile⟩ data).outcome = .ok brain) :
    ∃ grown, (DecodeOptions.decodeBrain ⟨larger, mode, .dropTile⟩ data).outcome = .ok grown ∧
      List.Forall₂ (fun page more => List.Forall₂ Rule.IsPartOf page.rules more.rules)
        brain.pages.toList grown.pages.toList
  suggestAnchors (typed : larger.WellTyped) (chain : Chain) :
    ∃ all, larger.suggestAnchors chain = .ok all ∧
      catalog.suggestAnchors chain = .ok (all.filter (· ∈ tiles))
  suggest (typed : larger.WellTyped) (rule : Rule) (chain : Chain) (index : Int)
    (within : 0 ≤ index ∧ index ≤ (rule.chain chain).length) :
    ∃ all, (larger.suggest rule chain index).outcome = .ok all ∧
      (catalog.suggest rule chain index).outcome = .ok (all.filter (· ∈ tiles))

/-- Declaring further tiles carries everything over. -/
theorem carriesOver_append {tiles more : List Tile} {catalog larger : Catalog}
    (built : ofTiles tiles = .ok catalog) (extended : ofTiles (tiles ++ more) = .ok larger) :
    CarriesOver tiles catalog larger := by
  obtain rfl := tiles_of_ofTiles built
  have appended := tiles_of_ofTiles extended
  have grows : catalog.tiles ⊆ larger.tiles := appended ▸ List.subset_append_left _ _
  constructor
  case raise =>
    intro mode data brain decoded
    obtain ⟨record, resolved, again⟩ := DecodeOptions.exists_record decoded
    exact again larger brain (record.resolveUnder_raise_of_subset grows resolved)
  case dropRule =>
    intro mode data brain decoded
    obtain ⟨record, resolved, again⟩ := DecodeOptions.exists_record decoded
    obtain ⟨grown, isGrown, pages⟩ := record.resolveUnder_dropRule_of_subset grows resolved
    exact ⟨grown, again larger grown isGrown, pages⟩
  case dropTile =>
    intro mode data brain decoded
    obtain ⟨record, resolved, again⟩ := DecodeOptions.exists_record decoded
    obtain ⟨grown, isGrown, pages⟩ := record.resolveUnder_dropTile_of_subset grows resolved
    exact ⟨grown, again larger grown isGrown, pages⟩
  case suggestAnchors =>
    intro typed chain
    have rankable := (typed.of_append appended).isRankable chain.anchorKind
    refine ⟨larger.candidates chain.anchorKind, ?_, ?_⟩
    · exact if_pos (typed.isRankable _)
    · rw [filter_candidates_of_append typed appended]
      exact if_pos rankable
  case suggest =>
    intro typed rule chain index within
    have rankable := (typed.of_append appended).isRankable chain.kind
    refine ⟨larger.offered rule chain index.toNat, outcome_suggest (typed.isRankable _) within, ?_⟩
    rw [filter_offered_of_append typed appended]
    exact outcome_suggest rankable within

end Catalog

namespace Builtin

/-- The built-in tiles but for the modifiers. -/
def plainTiles : List Tile := sensors ++ filters ++ actuators

def plainCatalog : Catalog := ⟨plainTiles, by decide +kernel, by decide +kernel⟩

/-- Declaring the modifiers behind them carries everything over. -/
theorem carriesOver_plainCatalog :
    Catalog.ofTiles plainTiles = .ok plainCatalog ∧
      Catalog.ofTiles (plainTiles ++ modifiers) = .ok catalog ∧ catalog.WellTyped ∧
      Catalog.CarriesOver plainTiles plainCatalog catalog := by
  have built : Catalog.ofTiles plainTiles = .ok plainCatalog := Catalog.ofTiles_tiles plainCatalog
  have extended : Catalog.ofTiles (plainTiles ++ modifiers) = .ok catalog :=
    Catalog.ofTiles_tiles catalog
  exact ⟨built, extended, by decide +kernel, Catalog.carriesOver_append built extended⟩

end Builtin

end TileBrain
