import Mathlib.Data.List.Forall2
import TileBrain.Catalog.Builtin
import TileBrain.Decoding
import TileBrain.Proofs.Record.Missing
import TileBrain.Proofs.Record.Modes

/-! # Decoding records with missing identifiers

What becomes of a record of which a catalog lacks some identifiers. One policy ends decoding with
the first of them. Another leaves out every rule that misses one, and the third leaves out the
missing identifiers alone and repairs all rules; both warn about whatever they leave out.

`DecodeOptions.decodeBrain_missing` is about any catalog and any data that is read as a record.
Missing identifiers come in the order in which the record names them, which is the order of the
warnings, and the first of them is the one that is raised.
-/

namespace TileBrain

/-- The rule without the identifiers that the catalog lacks. -/
def RuleRecord.pruned (record : RuleRecord String) (catalog : Catalog) : RuleRecord String where
  condition := record.condition
  sensor := record.sensor.filter fun id => ¬ catalog.Lacks ⟨.sensor, .str id⟩
  actuator := record.actuator.filter fun id => ¬ catalog.Lacks ⟨.actuator, .str id⟩
  filters := record.filters.filter fun id => ¬ catalog.Lacks ⟨.filter, .str id⟩
  modifiers := record.modifiers.filter fun id => ¬ catalog.Lacks ⟨.modifier, .str id⟩

/-- The brain without the identifiers that the catalog lacks. -/
def BrainRecord.pruned (record : BrainRecord String) (catalog : Catalog) : BrainRecord String :=
  ⟨record.pages.map fun page => ⟨page.rules.map (·.pruned catalog)⟩⟩

section Pruned

variable {catalog : Catalog} {kind : TileKind}

namespace Catalog

/-- An identifier that is not lacking has the tile that it had before. -/
private theorem filter_bind_get? (slot : Option String) :
    ((slot.filter fun id => ¬ catalog.Lacks ⟨kind, .str id⟩).bind fun id =>
        catalog.get? kind (.str id)) =
      slot.bind fun id => catalog.get? kind (.str id) := by
  cases slot with
  | none => rfl
  | some id =>
    by_cases lacks : catalog.Lacks ⟨kind, .str id⟩
    · simp [lacks, Option.filter, get?_str_eq_none_iff.mpr lacks]
    · simp [lacks, Option.filter]

private theorem known_filter (ids : List String) :
    catalog.known kind (ids.filter fun id => ¬ catalog.Lacks ⟨kind, .str id⟩) =
      catalog.known kind ids := by
  rw [known, known, List.filterMap_filter]
  refine List.filterMap_congr fun id _ => ?_
  by_cases lacks : catalog.Lacks ⟨kind, .str id⟩
  · simp [lacks, get?_str_eq_none_iff.mpr lacks]
  · simp [lacks]

end Catalog

namespace RuleRecord

variable (record : RuleRecord String) (catalog : Catalog)

private theorem resolveKnown_pruned :
    (record.pruned catalog).resolveKnown catalog = record.resolveKnown catalog := by
  simp only [resolveKnown, pruned, Catalog.filter_bind_get?, Catalog.known_filter]

private theorem missing_pruned : (record.pruned catalog).missing catalog = [] := by
  apply List.filter_eq_nil_iff.mpr
  intro reference member
  simp only [references, pruned, List.mem_append, List.mem_map, Option.mem_toList,
    Option.filter_eq_some_iff, List.mem_filter] at member
  rcases member with ((⟨id, ⟨_, has⟩, rfl⟩ | ⟨id, ⟨_, has⟩, rfl⟩) | ⟨id, ⟨_, has⟩, rfl⟩) |
    ⟨id, ⟨_, has⟩, rfl⟩ <;> simpa using has

end RuleRecord

namespace BrainRecord

variable (record : BrainRecord String) (catalog : Catalog)

private theorem missing_pruned : (record.pruned catalog).missing catalog = [] := by
  apply List.flatMap_eq_nil_iff.mpr
  intro rule member
  obtain ⟨page, isPage, isRule⟩ := List.mem_flatMap.mp member
  obtain ⟨original, _, rfl⟩ := List.mem_map.mp isPage
  obtain ⟨originalRule, _, rfl⟩ := List.mem_map.mp isRule
  exact originalRule.missing_pruned catalog

end BrainRecord

end Pruned

/-- A rule that misses nothing is resolved to its tiles. -/
theorem RuleRecord.resolveAlone_raise {record : RuleRecord String} {catalog : Catalog}
    (complete : record.missing catalog = []) :
    record.resolveAlone catalog .raise = pure (record.resolveKnown catalog) := by
  rw [resolveAlone, resolve_eq]
  change ((record.missing catalog).forM Policy.raise.meet >>= fun _ =>
    Policy.raise.finish (record.resolveKnown catalog)).mapError Halt.missing = _
  rw [complete]
  rfl

namespace BrainRecord

variable {record : BrainRecord String} {catalog : Catalog}

theorem outcome_resolveUnder_raise_of_eq_nil (complete : record.missing catalog = []) :
    (record.resolveUnder catalog .raise).outcome =
      .ok ⟨record.pages.map fun page => ⟨page.rules.map (·.resolveKnown catalog)⟩⟩ := by
  rw [resolveUnder_raise, complete]
  rfl

theorem outcome_resolveUnder_raise_of_eq_cons {first : Unresolved} {rest : List Unresolved}
    (missing : record.missing catalog = first :: rest) :
    (record.resolveUnder catalog .raise).outcome = .error first := by
  rw [resolveUnder_raise, missing]
  rfl

/-- Without its missing identifiers, a brain is resolved to the tiles that are there. -/
theorem outcome_resolveUnder_raise_pruned :
    ((record.pruned catalog).resolveUnder catalog .raise).outcome =
      .ok ⟨record.pages.map fun page => ⟨page.rules.map (·.resolveKnown catalog)⟩⟩ := by
  rw [outcome_resolveUnder_raise_of_eq_nil (record.missing_pruned catalog)]
  simp only [pruned, Pages.map, List.map_map, Function.comp_def, RuleRecord.resolveKnown_pruned]

end BrainRecord

namespace DecodeOptions

variable (options : DecodeOptions)

/-- A layout is decoded as the record that it is for. -/
theorem decodeRule_toJson (record : RuleRecord String) :
    options.decodeRule (record.toJson .str) =
      (record.resolveAlone options.catalog options.policy).mapError .unresolved := by
  change ((RuleRecord.read options.mode (record.toJson .str)).mapError DecodeError.record >>=
    fun record => (record.resolveAlone options.catalog options.policy).mapError .unresolved) = _
  rw [RuleRecord.read_toJson]
  rfl

/-- A well-formed value is decoded as the record that it is read as. -/
theorem decodeBrain_of_read {data : Json} {record : BrainRecord String}
    (wellFormed : (BrainRecord.read .strict data).outcome = .ok record) :
    options.decodeBrain data =
      (record.resolveUnder options.catalog options.policy).mapError .unresolved := by
  have noText : readSource data = pure data := by
    cases data with
    | str text => exact nomatch wellFormed
    | _ => rfl
  have isRead : BrainRecord.read options.mode data = pure record :=
    (BrainRecord.inStep_read data).eq_pure wellFormed options.mode
  rw [decodeBrain, noText, pure_bind, isRead]
  rfl

/-- Data that was decoded is read as the same record over any catalog. -/
theorem exists_record {catalog : Catalog} {mode : Mode} {policy : Policy} {data : Json}
    {brain : Brain} (decoded : (decodeBrain ⟨catalog, mode, policy⟩ data).outcome = .ok brain) :
    ∃ record : BrainRecord String, (record.resolveUnder catalog policy).outcome = .ok brain ∧
      ∀ larger another, (record.resolveUnder larger policy).outcome = .ok another →
        (decodeBrain ⟨larger, mode, policy⟩ data).outcome = .ok another := by
  simp only [decodeBrain, Reported.outcome_bind_eq_ok_iff, Reported.outcome_mapError_eq_ok_iff]
    at decoded ⊢
  obtain ⟨json, given, record, isRead, resolved⟩ := decoded
  exact ⟨record, resolved, fun _ _ again => ⟨json, given, record, isRead, again⟩⟩

section Policies

variable (catalog : Catalog) (mode : Mode) (data : Json) (record : BrainRecord String)

/-- Decoding succeeds if nothing is missing, and otherwise ends with the first missing
identifier. -/
structure RaisesFirst : Prop where
  succeeds_iff : (∃ brain, (decodeBrain ⟨catalog, mode, .raise⟩ data).outcome = .ok brain) ↔
    record.missing catalog = []
  fails : ∀ first rest, record.missing catalog = first :: rest →
    (decodeBrain ⟨catalog, mode, .raise⟩ data).outcome = .error (.unresolved first)

/-- The pages of the brain hold the rules that miss nothing, in order, and there is a warning about
every other rule, which names the first identifier that it misses. -/
structure DropsRules : Prop where
  kept : ∃ brain, (decodeBrain ⟨catalog, mode, .dropRule⟩ data).outcome = .ok brain ∧
    List.Forall₂ (fun page kept =>
        List.Forall₂ (fun rule decoded =>
            (decodeRule ⟨catalog, mode, .raise⟩ (rule.toJson .str)).outcome = .ok decoded)
          (page.rules.filter (·.missing catalog = [])) kept.rules)
      record.pages.toList brain.pages.toList
  warned : (decodeBrain ⟨catalog, mode, .dropRule⟩ data).noticesFrom .warning =
    record.rules.filterMap fun rule => (rule.missing catalog).head?.map .droppedRule

/-- The brain is what is decoded without the missing identifiers, with its rules repaired, and there
is a warning about every missing identifier. -/
structure DropsTiles : Prop where
  repaired : ∃ brain,
    (decodeBrain ⟨catalog, mode, .raise⟩ ((record.pruned catalog).toJson .str)).outcome =
      .ok brain ∧
    (decodeBrain ⟨catalog, mode, .dropTile⟩ data).outcome = .ok brain.repair
  warned : (decodeBrain ⟨catalog, mode, .dropTile⟩ data).noticesFrom .warning =
    (record.missing catalog).map .droppedTile

variable {catalog mode data record}

private theorem raisesFirst (wellFormed : (BrainRecord.read .strict data).outcome = .ok record) :
    RaisesFirst catalog mode data record := by
  have decoded := (DecodeOptions.mk catalog mode .raise).decodeBrain_of_read wellFormed
  have fails (first : Unresolved) (rest : List Unresolved)
      (missing : record.missing catalog = first :: rest) :
      (decodeBrain ⟨catalog, mode, .raise⟩ data).outcome = .error (.unresolved first) := by
    rw [decoded]
    exact Reported.outcome_mapError_of_error
      (BrainRecord.outcome_resolveUnder_raise_of_eq_cons missing) _
  refine ⟨⟨?_, ?_⟩, fails⟩
  · rintro ⟨brain, succeeds⟩
    cases missing : record.missing catalog with
    | nil => rfl
    | cons first rest =>
      rw [fails first rest missing] at succeeds
      exact nomatch succeeds
  · intro complete
    rw [decoded]
    exact ⟨_, Reported.outcome_mapError_of_ok
      (BrainRecord.outcome_resolveUnder_raise_of_eq_nil complete) _⟩

private theorem dropsRules (wellFormed : (BrainRecord.read .strict data).outcome = .ok record) :
    DropsRules catalog mode data record := by
  have decoded := (DecodeOptions.mk catalog mode .dropRule).decodeBrain_of_read wellFormed
  constructor
  · rw [decoded, Reported.mapError, record.resolveUnder_dropRule catalog]
    refine ⟨_, rfl, ?_⟩
    rw [Pages.toList_map, List.forall₂_map_right_iff, List.forall₂_same]
    intro page _
    rw [List.forall₂_map_right_iff, List.forall₂_same]
    intro rule member
    have complete : rule.missing catalog = [] := of_decide_eq_true (List.mem_filter.mp member).2
    rw [decodeRule_toJson, RuleRecord.resolveAlone_raise complete]
    rfl
  · rw [decoded]
    exact record.noticesFrom_resolveUnder_dropRule catalog

private theorem dropsTiles (wellFormed : (BrainRecord.read .strict data).outcome = .ok record) :
    DropsTiles catalog mode data record := by
  have decoded := (DecodeOptions.mk catalog mode .dropTile).decodeBrain_of_read wellFormed
  have read : (BrainRecord.read .strict ((record.pruned catalog).toJson .str)).outcome =
      .ok (record.pruned catalog) := by
    rw [BrainRecord.read_toJson]
    rfl
  have pruned := (DecodeOptions.mk catalog mode .raise).decodeBrain_of_read read
  constructor
  · have dropped := congrArg Reported.outcome (record.resolveUnder_dropTile catalog)
    rw [pruned, decoded, Reported.outcome_mapError_of_ok dropped]
    refine ⟨_, Reported.outcome_mapError_of_ok BrainRecord.outcome_resolveUnder_raise_pruned _, ?_⟩
    simp only [Brain.repair, Page.repair, Pages.map, List.map_map, Function.comp_def]
  · rw [decoded]
    exact record.noticesFrom_resolveUnder_dropTile catalog

end Policies

/-- What the policies make of a well-formed brain record of which a catalog lacks some identifiers.
A rule on its own is decoded under the policy that drops rules as it is under the one that
raises. -/
theorem decodeBrain_missing (catalog : Catalog) (mode : Mode) {data : Json}
    {record : BrainRecord String}
    (wellFormed : (BrainRecord.read .strict data).outcome = .ok record) :
    RaisesFirst catalog mode data record ∧ DropsRules catalog mode data record ∧
      DropsTiles catalog mode data record ∧
      ∀ rule, decodeRule ⟨catalog, mode, .dropRule⟩ rule =
        decodeRule ⟨catalog, mode, .raise⟩ rule :=
  ⟨raisesFirst wellFormed, dropsRules wellFormed, dropsTiles wellFormed, fun _ => rfl⟩

end DecodeOptions

namespace Builtin

/-- A brain with a rule that misses a filter and a modifier, one that misses nothing, and one on a
later page that misses its sensor, so that its filter is left over. -/
def outdated : BrainRecord String :=
  ⟨⟨[⟨[⟨.default, some SensorId.see, some ActuatorId.move, [FilterId.apple, FilterId.me], ["M99"]⟩,
      ⟨.high, some SensorId.see, none, [], []⟩]⟩,
    .empty, ⟨[⟨.low, some FilterId.kodu, none, [FilterId.kodu], []⟩]⟩, .empty, .empty], rfl⟩⟩

/-- Raising ends with the filter, dropping rules keeps one of them, and dropping tiles empties the
last. -/
theorem decodeBrain_missing_outdated :
    (BrainRecord.read .strict (outdated.toJson .str)).outcome = .ok outdated ∧
      outdated.missing catalog =
        [⟨.filter, .str FilterId.me⟩, ⟨.modifier, .str "M99"⟩, ⟨.sensor, .str FilterId.kodu⟩] ∧
      DecodeOptions.RaisesFirst catalog .lenient (outdated.toJson .str) outdated ∧
      DecodeOptions.DropsRules catalog .lenient (outdated.toJson .str) outdated ∧
      DecodeOptions.DropsTiles catalog .lenient (outdated.toJson .str) outdated ∧
      ∀ rule, DecodeOptions.decodeRule ⟨catalog, .lenient, .dropRule⟩ rule =
        DecodeOptions.decodeRule ⟨catalog, .lenient, .raise⟩ rule := by
  have wellFormed : (BrainRecord.read .strict (outdated.toJson .str)).outcome = .ok outdated := by
    rw [BrainRecord.read_toJson]
    rfl
  exact ⟨wellFormed, by decide +kernel,
    DecodeOptions.decodeBrain_missing catalog .lenient wellFormed⟩

end Builtin

end TileBrain
