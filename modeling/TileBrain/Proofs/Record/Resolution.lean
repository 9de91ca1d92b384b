import TileBrain.Proofs.Brain.TakenFrom
import TileBrain.Proofs.Catalog.WellTyped
import TileBrain.Proofs.Record.Missing
import TileBrain.Proofs.Reported
import TileBrain.Record.Encoding

/-! # Tiles come back from their identifiers

Where every identifier is a text, a rule over a catalog is stored as a record of texts. All of them
are found in that catalog again, so no policy has anything to drop; the policy that drops tiles
still repairs the rule, as it repairs every rule.

`Policy.settle` is what a policy makes of a rule that misses nothing, and the lemmas that end in
`resolveUnder` say that resolving comes to that, without a warning. What becomes of missing
identifiers is said elsewhere.
-/

namespace TileBrain

/-- Every tile has a text as its identifier, as it is declared to have. -/
def Catalog.HasTextIds (catalog : Catalog) : Prop :=
  ∀ tile ∈ catalog.tiles, tile.id.isString = true

instance (catalog : Catalog) : Decidable catalog.HasTextIds :=
  inferInstanceAs (Decidable (∀ tile ∈ catalog.tiles, tile.id.isString = true))

theorem Catalog.WellTyped.hasTextIds {catalog : Catalog} (typed : catalog.WellTyped) :
    catalog.HasTextIds :=
  fun tile member => (typed tile member).id

/-- The identifier, if it is a text. -/
def Tile.idText (tile : Tile) : String := tile.id.str?.getD ""

private theorem Tile.str_idText {tile : Tile} (isString : tile.id.isString = true) :
    .str tile.idText = tile.id := by
  obtain ⟨text, isText⟩ := Json.isString_iff.mp isString
  rw [idText, isText, Json.str?_str, Option.getD_some]

def Rule.textRecord (rule : Rule) : RuleRecord String where
  condition := rule.condition
  sensor := rule.sensor.map Tile.idText
  actuator := rule.actuator.map Tile.idText
  filters := rule.filters.map Tile.idText
  modifiers := rule.modifiers.map Tile.idText

def Page.textRecord (page : Page) : PageRecord String := ⟨page.rules.map Rule.textRecord⟩

def Brain.textRecord (brain : Brain) : BrainRecord String := ⟨brain.pages.map Page.textRecord⟩

private theorem Tile.map_str_idText {tiles : List Tile}
    (areStrings : ∀ tile ∈ tiles, tile.id.isString = true) :
    (tiles.map Tile.idText).map Json.str = tiles.map Tile.id := by
  rw [List.map_map]
  exact List.map_congr_left fun tile member => Tile.str_idText (areStrings tile member)

private theorem Tile.bind_present? {slot : Option Tile}
    (areStrings : ∀ tile ∈ slot.toList, tile.id.isString = true) :
    slot.bind (·.id.present?) = (slot.map Tile.idText).map Json.str := by
  cases slot with
  | none => rfl
  | some tile =>
    have isString := areStrings tile (List.mem_singleton_self tile)
    have present : tile.id.present? = some tile.id := by
      obtain ⟨text, isText⟩ := Json.isString_iff.mp isString
      rw [isText]
      rfl
    change tile.id.present? = some (.str tile.idText)
    rw [present, Tile.str_idText isString]

section Layouts

variable {catalog : Catalog}

/-- What is laid out for a rule is laid out for its record of texts. -/
theorem Rule.toJson_eq_textRecord (texts : catalog.HasTextIds) {rule : Rule}
    (taken : rule.TakenFrom catalog) : rule.toJson = rule.textRecord.toJson .str := by
  have areStrings (tile : Tile) (member : tile ∈ rule.placed) : tile.id.isString = true :=
    texts tile (taken.mem_tiles member)
  simp only [placed, List.mem_append] at areStrings
  have sensor := Tile.bind_present? fun tile member => areStrings tile (.inl (.inl (.inl member)))
  have actuator := Tile.bind_present? fun tile member => areStrings tile (.inl (.inl (.inr member)))
  have filters := Tile.map_str_idText fun tile member => areStrings tile (.inl (.inr member))
  have modifiers := Tile.map_str_idText fun tile member => areStrings tile (.inr member)
  simp only [toJson, toRecord, RuleRecord.toJson, textRecord, sensor, actuator, ← filters,
    ← modifiers, Option.map_map, List.map_map, List.isEmpty_map, Function.comp_def, id]
  rfl

theorem Page.toJson_eq_textRecord (texts : catalog.HasTextIds) {page : Page}
    (taken : page.TakenFrom catalog) : page.toJson = page.textRecord.toJson .str := by
  have rules : page.toRecord.rules.map (RuleRecord.toJson · id) =
      page.textRecord.rules.map (RuleRecord.toJson · .str) := by
    simp only [toRecord, textRecord, List.map_map]
    exact List.map_congr_left fun rule member => Rule.toJson_eq_textRecord texts (taken rule member)
  have isEmpty : page.toRecord.rules.isEmpty = page.textRecord.rules.isEmpty := by
    simp only [toRecord, textRecord, List.isEmpty_map]
  simp only [toJson, PageRecord.toJson, rules, isEmpty]

theorem Brain.toJson_eq_textRecord (texts : catalog.HasTextIds) {brain : Brain}
    (taken : brain.TakenFrom catalog) : brain.toJson = brain.textRecord.toJson .str := by
  have pages : brain.toRecord.pages.toList.map (PageRecord.toJson · id) =
      brain.textRecord.pages.toList.map (PageRecord.toJson · .str) := by
    simp only [toRecord, textRecord, Pages.toList_map, List.map_map]
    exact List.map_congr_left fun page member => Page.toJson_eq_textRecord texts (taken page member)
  simp only [toJson, BrainRecord.toJson, pages]

end Layouts

namespace Catalog

variable {catalog : Catalog} {kind : TileKind}

private theorem get?_idText (texts : catalog.HasTextIds) {tile : Tile}
    (member : tile ∈ catalog.partition kind) :
    catalog.get? kind (.str tile.idText) = some tile := by
  obtain ⟨inCatalog, isKind⟩ := mem_partition.mp member
  have isString := texts tile inCatalog
  rw [Tile.str_idText isString]
  exact get?_eq_some_iff.mpr ⟨inCatalog, isKind, Json.same_self_of_isString isString⟩

private theorem bind_get?_idText (texts : catalog.HasTextIds) {slot : Option Tile}
    (taken : ∀ tile ∈ slot.toList, tile ∈ catalog.partition kind) :
    ((slot.map Tile.idText).bind fun id => catalog.get? kind (.str id)) = slot := by
  cases slot with
  | none => rfl
  | some tile => exact get?_idText texts (taken tile (List.mem_singleton_self tile))

private theorem known_idText (texts : catalog.HasTextIds) {tiles : List Tile}
    (taken : ∀ tile ∈ tiles, tile ∈ catalog.partition kind) :
    catalog.known kind (tiles.map Tile.idText) = tiles := by
  induction tiles with
  | nil => rfl
  | cons tile rest ih =>
    obtain ⟨first, others⟩ := List.forall_mem_cons.mp taken
    simp only [known] at ih
    simp only [known, List.map_cons, List.filterMap_cons, get?_idText texts first, ih others]

end Catalog

section Rules

variable {catalog : Catalog} {rule : Rule}

theorem Rule.TakenFrom.resolveKnown (taken : rule.TakenFrom catalog) (texts : catalog.HasTextIds) :
    rule.textRecord.resolveKnown catalog = rule := by
  obtain ⟨⟨sensor, actuator⟩, filters, modifiers⟩ := Rule.takenFrom_iff.mp taken
  simp only [RuleRecord.resolveKnown, textRecord, Catalog.bind_get?_idText texts sensor,
    Catalog.bind_get?_idText texts actuator, Catalog.known_idText texts filters,
    Catalog.known_idText texts modifiers]

/-- No identifier of the rule is missing from the catalog. -/
theorem Rule.TakenFrom.missing (taken : rule.TakenFrom catalog) (texts : catalog.HasTextIds) :
    rule.textRecord.missing catalog = [] := by
  obtain ⟨⟨sensor, actuator⟩, filters, modifiers⟩ := Rule.takenFrom_iff.mp taken
  have found {kind : TileKind} {tile : Tile} (member : tile ∈ catalog.partition kind) :
      ¬ decide (catalog.Lacks ⟨kind, .str tile.idText⟩) = true := by
    rw [decide_eq_true_eq, ← Catalog.get?_str_eq_none_iff, Catalog.get?_idText texts member]
    exact Option.some_ne_none tile
  apply List.filter_eq_nil_iff.mpr
  intro reference member
  simp only [RuleRecord.references, textRecord, Option.toList_map, List.mem_append, List.mem_map]
    at member
  rcases member with ((⟨_, ⟨tile, inSlot, rfl⟩, rfl⟩ | ⟨_, ⟨tile, inSlot, rfl⟩, rfl⟩) |
    ⟨_, ⟨tile, inChain, rfl⟩, rfl⟩) | ⟨_, ⟨tile, inChain, rfl⟩, rfl⟩
  · exact found (sensor tile inSlot)
  · exact found (actuator tile inSlot)
  · exact found (filters tile inChain)
  · exact found (modifiers tile inChain)

namespace Policy

/-- What resolving makes of a rule that misses no tile: one policy repairs every rule. -/
def settle : Policy → Rule → Rule
  | .dropTile, rule => rule.repair
  | _, rule => rule

def settlePage (policy : Policy) (page : Page) : Page := ⟨page.rules.map policy.settle⟩

def settleBrain (policy : Policy) (brain : Brain) : Brain := ⟨brain.pages.map policy.settlePage⟩

theorem settle_eq (policy : Policy) (rule : Rule) :
    policy.settle rule = if policy = .dropTile then rule.repair else rule := by
  cases policy <;> rfl

theorem settlePage_eq (policy : Policy) (page : Page) :
    policy.settlePage page = if policy = .dropTile then page.repair else page := by
  cases policy with
  | dropTile => rfl
  | raise => exact congrArg Page.mk (List.map_id page.rules)
  | dropRule => exact congrArg Page.mk (List.map_id page.rules)

theorem settleBrain_eq (policy : Policy) (brain : Brain) :
    policy.settleBrain brain = if policy = .dropTile then brain.repair else brain := by
  cases policy with
  | dropTile => rfl
  | raise =>
    apply congrArg Brain.mk
    exact Pages.map_eq_self fun page _ => settlePage_eq .raise page
  | dropRule =>
    apply congrArg Brain.mk
    exact Pages.map_eq_self fun page _ => settlePage_eq .dropRule page

end Policy

theorem Policy.yields_finish (policy : Policy) (rule : Rule) :
    (policy.finish rule).Yields .warning (policy.settle rule) := by
  cases policy with
  | raise => exact Reported.yields_pure .warning rule
  | dropRule => exact Reported.yields_pure .warning rule
  | dropTile =>
    have silent : (Reported.note rule.repairNotices : Reported Halt Unit).Yields .warning () :=
      ⟨rfl, rule.noticesFrom_repairNotices⟩
    exact silent.bind (Reported.yields_pure .warning rule.repair)

private theorem Rule.TakenFrom.yields_resolve (taken : rule.TakenFrom catalog)
    (texts : catalog.HasTextIds) (policy : Policy) :
    (rule.textRecord.resolve catalog policy).Yields .warning (policy.settle rule) := by
  rw [RuleRecord.resolve_eq, taken.missing texts, taken.resolveKnown texts]
  exact policy.yields_finish rule

theorem Rule.TakenFrom.yields_resolveAlone (taken : rule.TakenFrom catalog)
    (texts : catalog.HasTextIds) (policy : Policy) :
    (rule.textRecord.resolveAlone catalog policy).Yields .warning (policy.settle rule) := by
  have settled : policy.alone.settle rule = policy.settle rule := by cases policy <;> rfl
  rw [← settled]
  exact (taken.yields_resolve texts policy.alone).mapError _

theorem Rule.TakenFrom.yields_resolveUnder (taken : rule.TakenFrom catalog)
    (texts : catalog.HasTextIds) (policy : Policy) :
    (rule.textRecord.resolveUnder catalog policy).Yields .warning (some (policy.settle rule)) := by
  have resolved := taken.yields_resolve texts policy
  simp only [RuleRecord.resolveUnder, resolved.outcome]
  exact ⟨rfl, resolved.silent⟩

theorem Page.TakenFrom.yields_resolveUnder {page : Page} (taken : page.TakenFrom catalog)
    (texts : catalog.HasTextIds) (policy : Policy) :
    (page.textRecord.resolveUnder catalog policy).Yields .warning (policy.settlePage page) := by
  have rules : ((page.rules.map Rule.textRecord).mapM
      (RuleRecord.resolveUnder · catalog policy)).Yields .warning
      (page.rules.map fun rule => some (policy.settle rule)) :=
    Reported.yields_mapM_map fun rule member => (taken rule member).yields_resolveUnder texts policy
  have kept : (page.rules.map fun rule => some (policy.settle rule)).filterMap id =
      page.rules.map policy.settle := by
    simp [List.filterMap_map]
  apply rules.bind
  rw [kept]
  exact Reported.yields_pure .warning _

theorem Brain.TakenFrom.yields_resolveUnder {brain : Brain} (taken : brain.TakenFrom catalog)
    (texts : catalog.HasTextIds) (policy : Policy) :
    (brain.textRecord.resolveUnder catalog policy).Yields .warning (policy.settleBrain brain) := by
  have pages : ((brain.pages.map Page.textRecord).mapM
      (PageRecord.resolveUnder · catalog policy)).Yields .warning
      (brain.pages.map policy.settlePage) :=
    Reported.yields_pages_mapM_map fun page member =>
      (taken page member).yields_resolveUnder texts policy
  exact pages.bind (Reported.yields_pure .warning _)

end Rules

end TileBrain
