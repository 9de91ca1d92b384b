import TileBrain.Proofs.Decoding
import TileBrain.Proofs.Record.Modes

/-! # Decoding with best effort

Lenient reading takes what is faulty as absent, and a policy that drops what is missing leaves
nothing unresolved. Together they make a brain of any value at all. Its tiles are those that the
catalog has for their slots, so that it can be encoded and decoded again without any leniency.

`DecodeOptions.decodeBrain_lenient_sound` puts this together. Records hold texts, so a tile with
another identifier is never found; `Catalog.textual` leaves such tiles out, and decoding is the same
without them.
-/

namespace TileBrain

namespace Catalog

/-- The catalog of the tiles that have a text as their identifier. A record holds texts, so it names
no other tile. -/
def textual (catalog : Catalog) : Catalog where
  tiles := catalog.tiles.filter (·.id.isString)
  ids_atomic tile member := catalog.ids_atomic tile (List.mem_filter.mp member).1
  ids_distinct := catalog.ids_distinct.filter _

variable {catalog : Catalog}

theorem hasTextIds_textual : catalog.textual.HasTextIds := fun _ member =>
  (List.mem_filter.mp member).2

private theorem mem_partition_of_textual {kind : TileKind} {tile : Tile}
    (member : tile ∈ catalog.textual.partition kind) : tile ∈ catalog.partition kind := by
  obtain ⟨isTextual, isKind⟩ := mem_partition.mp member
  exact mem_partition.mpr ⟨(List.mem_filter.mp isTextual).1, isKind⟩

/-- A text finds the same tile among the textual ones as among all. -/
theorem get?_textual (kind : TileKind) (id : String) :
    catalog.textual.get? kind (.str id) = catalog.get? kind (.str id) := by
  apply Option.ext
  intro tile
  rw [get?_eq_some_iff, get?_eq_some_iff]
  constructor
  · rintro ⟨member, isKind, same⟩
    exact ⟨(List.mem_filter.mp member).1, isKind, same⟩
  · rintro ⟨member, isKind, same⟩
    have isString : tile.id.isString = true := by
      rw [Json.eq_str_of_same same]
      rfl
    exact ⟨List.mem_filter.mpr ⟨member, isString⟩, isKind, same⟩

private theorem resolve_textual (policy : Policy) (kind : TileKind) :
    catalog.textual.resolve policy kind = catalog.resolve policy kind := by
  funext id
  rw [resolve, resolve, lookup, lookup, get?_textual]

private theorem resolveSlot_textual (policy : Policy) (kind : TileKind) (slot : Option String) :
    catalog.textual.resolveSlot policy kind slot = catalog.resolveSlot policy kind slot := by
  cases slot with
  | none => rfl
  | some id => exact congrFun (resolve_textual policy kind) id

private theorem resolveChain_textual (policy : Policy) (kind : TileKind) (ids : List String) :
    catalog.textual.resolveChain policy kind ids = catalog.resolveChain policy kind ids := by
  rw [resolveChain, resolveChain, resolve_textual]

end Catalog

private theorem BrainRecord.resolveUnder_textual (record : BrainRecord String) (catalog : Catalog)
    (policy : Policy) :
    record.resolveUnder catalog.textual policy = record.resolveUnder catalog policy := by
  simp only [resolveUnder, PageRecord.resolveUnder, RuleRecord.resolveUnder, RuleRecord.resolve,
    Catalog.resolveSlot_textual, Catalog.resolveChain_textual]

theorem RuleRecord.takenFrom_resolveKnown (record : RuleRecord String) (catalog : Catalog) :
    (record.resolveKnown catalog).TakenFrom catalog := by
  have slot {kind : TileKind} {id : Option String} {tile : Tile}
      (member : tile ∈ (id.bind fun id => catalog.get? kind (.str id)).toList) :
      tile ∈ catalog.partition kind := by
    obtain ⟨_, _, found⟩ := Option.bind_eq_some_iff.mp (Option.mem_toList.mp member)
    exact Catalog.mem_partition_of_get? found
  have chain {kind : TileKind} {ids : List String} {tile : Tile}
      (member : tile ∈ catalog.known kind ids) : tile ∈ catalog.partition kind := by
    obtain ⟨_, _, found⟩ := List.mem_filterMap.mp member
    exact Catalog.mem_partition_of_get? found
  exact Rule.takenFrom_iff.mpr ⟨⟨fun _ => slot, fun _ => slot⟩, fun _ => chain, fun _ => chain⟩

namespace Rule

variable {rule : Rule} {catalog : Catalog}

theorem TakenFrom.settle (taken : rule.TakenFrom catalog) (policy : Policy) :
    (policy.settle rule).TakenFrom catalog := by
  cases policy with
  | dropTile => exact taken.repair
  | raise => exact taken
  | dropRule => exact taken

end Rule

private theorem Brain.TakenFrom.of_textual {brain : Brain} {catalog : Catalog}
    (taken : brain.TakenFrom catalog.textual) : brain.TakenFrom catalog :=
  fun page isPage rule isRule =>
    let slots := taken page isPage rule isRule
    ⟨fun chain tile member => Catalog.mem_partition_of_textual (slots.anchor chain tile member),
      fun chain tile member => Catalog.mem_partition_of_textual (slots.chain chain tile member)⟩

/-- A policy that drops what is missing comes to a brain, each rule of which has the tiles of some
record that are there. -/
theorem BrainRecord.exists_resolveUnder (record : BrainRecord String) (catalog : Catalog)
    {policy : Policy} (drops : policy ≠ .raise) :
    ∃ brain, (record.resolveUnder catalog policy).outcome = .ok brain ∧
      ∀ page ∈ brain.pages.toList, ∀ rule ∈ page.rules,
        ∃ original : RuleRecord String, rule = policy.settle (original.resolveKnown catalog) := by
  have settled (kept : PageRecord String → List (RuleRecord String)) :
      ∀ page ∈ record.pages.toList.map (fun page =>
          Page.mk ((kept page).map fun rule => policy.settle (rule.resolveKnown catalog))),
        ∀ rule ∈ page.rules,
          ∃ original : RuleRecord String, rule = policy.settle (original.resolveKnown catalog) := by
    intro page isPage rule isRule
    obtain ⟨pageRecord, _, rfl⟩ := List.mem_map.mp isPage
    obtain ⟨original, _, rfl⟩ := List.mem_map.mp isRule
    exact ⟨original, rfl⟩
  cases policy with
  | raise => exact absurd rfl drops
  | dropRule =>
    rw [resolveUnder_dropRule]
    exact ⟨_, rfl, settled fun page => page.rules.filter (·.missing catalog = [])⟩
  | dropTile =>
    rw [resolveUnder_dropTile]
    exact ⟨_, rfl, settled PageRecord.rules⟩

/-- Whatever a record is resolved to is taken from the catalog. -/
theorem BrainRecord.takenFrom_of_resolveUnder {record : BrainRecord String} {catalog : Catalog}
    {policy : Policy} {brain : Brain}
    (resolved : (record.resolveUnder catalog policy).outcome = .ok brain) :
    brain.TakenFrom catalog := by
  intro page isPage rule isRule
  by_cases raises : policy = .raise
  · subst raises
    rw [resolveUnder_raise] at resolved
    obtain ⟨_, _, found⟩ := Reported.outcome_bind_eq_ok_iff.mp resolved
    obtain rfl := Except.ok.inj found
    obtain ⟨pageRecord, _, rfl⟩ := List.mem_map.mp isPage
    obtain ⟨original, _, rfl⟩ := List.mem_map.mp isRule
    exact original.takenFrom_resolveKnown catalog
  · obtain ⟨another, isAnother, rules⟩ := record.exists_resolveUnder catalog raises
    obtain rfl := Except.ok.inj (resolved.symm.trans isAnother)
    obtain ⟨original, rfl⟩ := rules page isPage rule isRule
    exact (original.takenFrom_resolveKnown catalog).settle policy

/-- So is a rule that is resolved on its own. -/
theorem RuleRecord.takenFrom_of_resolveAlone {record : RuleRecord String} {catalog : Catalog}
    {policy : Policy} {rule : Rule}
    (resolved : (record.resolveAlone catalog policy).outcome = .ok rule) :
    rule.TakenFrom catalog := by
  rw [resolveAlone, Reported.outcome_mapError_eq_ok_iff, resolve_eq] at resolved
  obtain ⟨_, _, finished⟩ := Reported.exists_of_outcome_bind_eq_ok resolved
  rw [(policy.alone.yields_finish _).outcome] at finished
  obtain rfl := Except.ok.inj finished
  exact (record.takenFrom_resolveKnown catalog).settle policy.alone

namespace DecodeOptions

theorem takenFrom_of_decodeRule {options : DecodeOptions} {data : Json} {rule : Rule}
    (decoded : (options.decodeRule data).outcome = .ok rule) : rule.TakenFrom options.catalog := by
  obtain ⟨json, _, decoded⟩ := Reported.exists_of_outcome_bind_eq_ok decoded
  obtain ⟨record, _, resolved⟩ := Reported.exists_of_outcome_bind_eq_ok decoded
  exact RuleRecord.takenFrom_of_resolveAlone (Reported.outcome_mapError_eq_ok_iff.mp resolved)

theorem takenFrom_of_decodeBrain {options : DecodeOptions} {data : Json} {brain : Brain}
    (decoded : (options.decodeBrain data).outcome = .ok brain) :
    brain.TakenFrom options.catalog := by
  obtain ⟨json, _, decoded⟩ := Reported.exists_of_outcome_bind_eq_ok decoded
  obtain ⟨record, _, resolved⟩ := Reported.exists_of_outcome_bind_eq_ok decoded
  exact BrainRecord.takenFrom_of_resolveUnder (Reported.outcome_mapError_eq_ok_iff.mp resolved)

private theorem decodeBrain_textual (catalog : Catalog) (mode : Mode) (policy : Policy)
    (data : Json) :
    decodeBrain ⟨catalog.textual, mode, policy⟩ data =
      decodeBrain ⟨catalog, mode, policy⟩ data := by
  simp only [decodeBrain, BrainRecord.resolveUnder_textual]

/-- Lenient decoding of a value that is no text comes to what the policy makes of some record. -/
theorem exists_decodeBrain_lenient (catalog : Catalog) {policy : Policy} (drops : policy ≠ .raise)
    {data : Json} (noText : data.isString = false) :
    ∃ brain, (decodeBrain ⟨catalog, .lenient, policy⟩ data).outcome = .ok brain ∧
      ∀ page ∈ brain.pages.toList, ∀ rule ∈ page.rules,
        ∃ original : RuleRecord String, rule = policy.settle (original.resolveKnown catalog) := by
  have source : readSource data = pure data := by
    cases data with
    | str text => exact nomatch noText
    | _ => rfl
  obtain ⟨record, isRead⟩ := (BrainRecord.inStep_read data).recovers
  obtain ⟨brain, resolved, rules⟩ := record.exists_resolveUnder catalog drops
  refine ⟨brain, ?_, rules⟩
  have recorded : ((BrainRecord.read .lenient data).mapError DecodeError.record).outcome =
      .ok record := Reported.outcome_mapError_of_ok isRead _
  rw [decodeBrain, source, pure_bind, Reported.outcome_bind_of_ok recorded]
  exact Reported.outcome_mapError_of_ok resolved _

/-- Lenient decoding under a policy that drops what is missing makes a sound brain of every value
that is no text. -/
theorem decodeBrain_lenient_sound (catalog : Catalog) {policy : Policy} (drops : policy ≠ .raise)
    {data : Json} (noText : data.isString = false) :
    ∃ brain, (decodeBrain ⟨catalog, .lenient, policy⟩ data).outcome = .ok brain ∧
      brain.pages.toList.length = 5 ∧ brain.TakenFrom catalog ∧
      (policy = .dropTile → ∀ page ∈ brain.pages.toList, ∀ rule ∈ page.rules, rule.Anchored) ∧
      (decodeBrain ⟨catalog, .strict, .raise⟩ brain.toJson).outcome = .ok brain := by
  obtain ⟨brain, decoded, rules⟩ := exists_decodeBrain_lenient catalog.textual drops noText
  rw [decodeBrain_textual] at decoded
  have taken : brain.TakenFrom catalog.textual := by
    intro page isPage rule isRule
    obtain ⟨original, rfl⟩ := rules page isPage rule isRule
    exact (original.takenFrom_resolveKnown catalog.textual).settle policy
  refine ⟨brain, decoded, brain.pages.length_toList, taken.of_textual, ?_, ?_⟩
  · rintro rfl page isPage rule isRule
    obtain ⟨original, rfl⟩ := rules page isPage rule isRule
    exact Rule.anchored_repair _
  · rw [← decodeBrain_textual]
    exact Brain.outcome_decodeBrain_toJson Catalog.hasTextIds_textual taken

end DecodeOptions

namespace Builtin

/-- Six pages, one of them a number and one with rules that are no list, beside a key that no brain
has. Of the three rules on the first page one is null, one has an unknown condition and a missing
filter, and one has a filter without a sensor and a modifier that is no list. -/
def mangled : Json :=
  .obj [("version", .int 2),
    ("P", .arr [
      .obj [("R", .arr [.null,
        .obj [("C", .str "RC9"), ("S", .str SensorId.see),
          ("F", .arr [.str FilterId.apple, .str "F99"])],
        .obj [("F", .arr [.str FilterId.apple]), ("M", .int 1)]])],
      .int 0, .obj [("R", .str "none")], .obj [], .obj [], .obj []])]

/-- A sound brain is made of it all the same. -/
theorem decodeBrain_lenient_sound_mangled :
    Policy.dropTile ≠ .raise ∧ mangled.isString = false ∧
      ∃ brain, (DecodeOptions.decodeBrain ⟨catalog, .lenient, .dropTile⟩ mangled).outcome =
          .ok brain ∧
        brain.pages.toList.length = 5 ∧ brain.TakenFrom catalog ∧
        (Policy.dropTile = .dropTile →
          ∀ page ∈ brain.pages.toList, ∀ rule ∈ page.rules, rule.Anchored) ∧
        (DecodeOptions.decodeBrain ⟨catalog, .strict, .raise⟩ brain.toJson).outcome =
          .ok brain := by
  have drops : Policy.dropTile ≠ .raise := by decide
  exact ⟨drops, rfl, DecodeOptions.decodeBrain_lenient_sound catalog drops rfl⟩

end Builtin

end TileBrain
