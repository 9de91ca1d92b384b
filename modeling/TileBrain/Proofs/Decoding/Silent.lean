import TileBrain.Proofs.Decoding.Text
import TileBrain.Proofs.Decoding.Unresolved
import TileBrain.Proofs.Record.Canonical

/-! # Decoding without a warning

If decoding gives no warning, then there was no fault in the data and no identifier was missing, so
that the brain holds whatever the data held. `DecodeOptions.decodeBrain_of_yields` says so. The
policy that drops tiles still repairs the rules of such a brain, and reports that at a lower level.

The layout of such a brain is then the canonical form of the data that it was decoded from. Data are
given as a value here; a text is decoded as the value that it spells.
-/

namespace TileBrain

section Complete

namespace Catalog

variable {catalog : Catalog} {kind : TileKind}

private theorem exists_get?_of_not_lacks {id : String} (has : ¬ catalog.Lacks ⟨kind, .str id⟩) :
    ∃ tile, catalog.get? kind (.str id) = some tile ∧ tile.idText = id := by
  obtain ⟨tile, found⟩ := Option.ne_none_iff_exists'.mp (mt get?_str_eq_none_iff.mp has)
  refine ⟨tile, found, ?_⟩
  rw [Tile.idText, id_of_get?_str found, Json.str?_str, Option.getD_some]

private theorem map_idText_bind_get? {slot : Option String}
    (has : ∀ id ∈ slot, ¬ catalog.Lacks ⟨kind, .str id⟩) :
    (slot.bind fun id => catalog.get? kind (.str id)).map Tile.idText = slot := by
  cases slot with
  | none => rfl
  | some id =>
    obtain ⟨tile, found, isText⟩ := exists_get?_of_not_lacks (has id rfl)
    rw [Option.bind_some, found, Option.map_some, isText]

private theorem map_idText_known {ids : List String}
    (has : ∀ id ∈ ids, ¬ catalog.Lacks ⟨kind, .str id⟩) :
    (catalog.known kind ids).map Tile.idText = ids := by
  induction ids with
  | nil => rfl
  | cons id rest ih =>
    obtain ⟨first, others⟩ := List.forall_mem_cons.mp has
    obtain ⟨tile, found, isText⟩ := exists_get?_of_not_lacks first
    have joined : catalog.known kind (id :: rest) = tile :: catalog.known kind rest :=
      List.filterMap_cons_some found
    rw [joined, List.map_cons, isText, ih others]

end Catalog

variable {catalog : Catalog}

namespace RuleRecord

private theorem resolveKnown_textual (record : RuleRecord String) (catalog : Catalog) :
    record.resolveKnown catalog.textual = record.resolveKnown catalog := by
  simp only [resolveKnown, Catalog.known, Catalog.get?_textual]

/-- A rule of which nothing is missing comes back from its tiles. -/
theorem textRecord_resolveKnown {record : RuleRecord String}
    (complete : record.missing catalog = []) :
    (record.resolveKnown catalog).textRecord = record := by
  have has (reference : Unresolved) (member : reference ∈ record.references) :
      ¬ catalog.Lacks reference := by
    simpa using List.filter_eq_nil_iff.mp complete reference member
  simp only [references, List.mem_append, List.mem_map, Option.mem_toList] at has
  have sensor := Catalog.map_idText_bind_get? fun id member =>
    has _ (.inl (.inl (.inl ⟨id, member, rfl⟩)))
  have actuator := Catalog.map_idText_bind_get? fun id member =>
    has _ (.inl (.inl (.inr ⟨id, member, rfl⟩)))
  have filters := Catalog.map_idText_known fun id member => has _ (.inl (.inr ⟨id, member, rfl⟩))
  have modifiers := Catalog.map_idText_known fun id member => has _ (.inr ⟨id, member, rfl⟩)
  simp only [Rule.textRecord, resolveKnown, sensor, actuator, filters, modifiers]

end RuleRecord

namespace BrainRecord

/-- The brain with the tiles that are there. -/
def resolveKnown (record : BrainRecord String) (catalog : Catalog) : Brain :=
  ⟨record.pages.map fun page => ⟨page.rules.map (·.resolveKnown catalog)⟩⟩

variable {record : BrainRecord String}

private theorem missing_eq_nil_iff : record.missing catalog = [] ↔
    ∀ page ∈ record.pages.toList, ∀ rule ∈ page.rules, rule.missing catalog = [] := by
  simp only [missing, rules, List.flatMap_eq_nil_iff, List.mem_flatMap]
  constructor
  · intro complete page isPage rule isRule
    exact complete rule ⟨page, isPage, isRule⟩
  · rintro complete rule ⟨page, isPage, isRule⟩
    exact complete page isPage rule isRule

/-- A brain of which nothing is missing comes back from its tiles. -/
theorem textRecord_resolveKnown (complete : record.missing catalog = []) :
    (record.resolveKnown catalog).textRecord = record := by
  have pages : (record.pages.map fun page =>
      Page.textRecord ⟨page.rules.map (·.resolveKnown catalog)⟩) = record.pages := by
    apply Pages.map_eq_self
    intro page isPage
    have rules : (page.rules.map fun rule => (rule.resolveKnown catalog).textRecord) =
        page.rules.map id := by
      apply List.map_congr_left
      intro rule isRule
      have ruleComplete := missing_eq_nil_iff.mp complete page isPage rule isRule
      exact RuleRecord.textRecord_resolveKnown ruleComplete
    rw [Page.textRecord, List.map_map]
    exact congrArg PageRecord.mk (rules.trans (List.map_id _))
  rw [Brain.textRecord, resolveKnown, Pages.map_map]
  exact congrArg BrainRecord.mk pages

/-- Such a brain is laid out as its record is. -/
theorem toJson_resolveKnown (complete : record.missing catalog = []) :
    (record.resolveKnown catalog).toJson = record.toJson .str := by
  have taken : (record.resolveKnown catalog).TakenFrom catalog.textual := by
    intro page isPage rule isRule
    obtain ⟨pageRecord, _, rfl⟩ := List.mem_map.mp isPage
    obtain ⟨original, _, rfl⟩ := List.mem_map.mp isRule
    rw [← original.resolveKnown_textual]
    exact original.takenFrom_resolveKnown catalog.textual
  rw [Brain.toJson_eq_textRecord Catalog.hasTextIds_textual taken, textRecord_resolveKnown complete]

/-- Nothing is missing if there was nothing to warn about. -/
theorem missing_eq_nil_of_yields {policy : Policy} {brain : Brain}
    (yields : (record.resolveUnder catalog policy).Yields .warning brain) :
    record.missing catalog = [] := by
  cases policy with
  | raise =>
    cases missing : record.missing catalog with
    | nil => rfl
    | cons first rest =>
      have outcome := yields.outcome
      rw [outcome_resolveUnder_raise_of_eq_cons missing] at outcome
      exact nomatch outcome
  | dropRule =>
    have silent := yields.silent
    rw [noticesFrom_resolveUnder_dropRule, List.filterMap_eq_nil_iff] at silent
    apply List.flatMap_eq_nil_iff.mpr
    intro rule member
    exact List.head?_eq_none_iff.mp (Option.map_eq_none_iff.mp (silent rule member))
  | dropTile =>
    have silent := yields.silent
    rw [noticesFrom_resolveUnder_dropTile] at silent
    exact List.map_eq_nil_iff.mp silent

/-- Where nothing is missing, policies differ in nothing but the repair. -/
theorem resolveUnder_of_eq_nil (complete : record.missing catalog = []) (policy : Policy) :
    record.resolveUnder catalog policy =
      ⟨if policy = .dropTile then (record.resolveKnown catalog).repairNotices else [],
        .ok (if policy = .dropTile then (record.resolveKnown catalog).repair
          else record.resolveKnown catalog)⟩ := by
  cases policy with
  | raise =>
    rw [resolveUnder_raise, complete]
    rfl
  | dropRule =>
    have kept : (record.pages.map fun page =>
        ⟨(page.rules.filter (·.missing catalog = [])).map (·.resolveKnown catalog)⟩) =
          (record.resolveKnown catalog).pages := by
      apply Pages.map_congr
      intro page isPage
      rw [List.filter_eq_self.mpr]
      intro rule isRule
      exact decide_eq_true (missing_eq_nil_iff.mp complete page isPage rule isRule)
    have silent : (record.rules.filterMap fun rule =>
        (rule.missing catalog).head?.map Notice.droppedRule) = [] := by
      apply List.filterMap_eq_nil_iff.mpr
      intro rule member
      rw [List.flatMap_eq_nil_iff.mp complete rule member]
      rfl
    rw [resolveUnder_dropRule, kept, silent]
    rfl
  | dropTile =>
    have repaired : (record.pages.map fun page =>
        ⟨page.rules.map fun rule => (rule.resolveKnown catalog).repair⟩) =
          (record.resolveKnown catalog).repair.pages := by
      simp only [resolveKnown, Brain.repair, Page.repair, Pages.map, List.map_map,
        Function.comp_def]
    have notices : (record.rules.flatMap fun rule => (rule.missing catalog).map .droppedTile ++
        (rule.resolveKnown catalog).repairNotices) =
          record.rules.flatMap fun rule => (rule.resolveKnown catalog).repairNotices := by
      apply List.flatMap_congr
      intro rule member
      rw [List.flatMap_eq_nil_iff.mp complete rule member]
      rfl
    have inPages : (record.rules.flatMap fun rule => (rule.resolveKnown catalog).repairNotices) =
        (record.resolveKnown catalog).repairNotices := by
      simp only [Brain.repairNotices, resolveKnown, Pages.toList_map, List.flatMap_map, rules,
        List.flatMap_assoc]
    rw [resolveUnder_dropTile, repaired, notices, inPages]
    rfl

end BrainRecord

end Complete

/-- Decoding without a warning loses nothing: the policy that raises decodes the data as well, to a
brain whose layout is the canonical form of the data. Every policy comes to that brain, and the one
that drops tiles repairs it and reports every chain that it clears. -/
theorem DecodeOptions.decodeBrain_of_yields (options : DecodeOptions) {data : Json} {brain : Brain}
    (noText : data.isString = false) (distinct : data.Distinct)
    (yields : (options.decodeBrain data).Yields .warning brain) :
    ∃ original : Brain,
      (decodeBrain ⟨options.catalog, options.mode, .raise⟩ data).outcome = .ok original ∧
      original.toJson.same (BrainRecord.canonical data) = true ∧
      brain = (if options.policy = .dropTile then original.repair else original) ∧
      (options.decodeBrain data).notices =
        if options.policy = .dropTile then original.repairNotices else [] := by
  have steps := yields
  rw [decodeBrain_eq_decodeValue options noText] at steps
  obtain ⟨record, recorded, resolved⟩ := steps.exists_of_bind
  have read := (BrainRecord.inStep_read data).of_yields recorded.of_mapError
  have complete := BrainRecord.missing_eq_nil_of_yields resolved.of_mapError
  have decoded (policy : Policy) :=
    (DecodeOptions.mk options.catalog options.mode policy).decodeBrain_of_read read
  simp only [BrainRecord.resolveUnder_of_eq_nil complete] at decoded
  refine ⟨record.resolveKnown options.catalog, ?_, ?_, ?_, ?_⟩
  · rw [decoded .raise]
    rfl
  · rw [BrainRecord.toJson_resolveKnown complete]
    exact BrainRecord.same_canonical read distinct
  · have outcome := yields.outcome
    rw [decoded options.policy] at outcome
    exact (Except.ok.inj outcome).symm
  · rw [decoded options.policy]
    rfl

namespace Builtin

/-- The layout of a brain with a leftover, with everything spelled out that a layout leaves out. -/
def verbose : Json :=
  .obj [("P", .arr [
    .obj [("R", .arr [
      .obj [("M", .arr []), ("A", .str ActuatorId.move), ("C", .str "RC2"),
        ("F", .arr [.str FilterId.apple, .str FilterId.apple])],
      .obj [("C", .str "RC0"), ("F", .arr [])]])],
    .obj [("R", .arr [])], .obj [], .obj [], .obj []])]

/-- The leftover is dropped without a warning. -/
theorem yields_verbose (mode : Mode) :
    (DecodeOptions.decodeBrain ⟨catalog, mode, .dropTile⟩ verbose).Yields .warning
      straying.repair := by
  cases mode <;> exact ⟨by decide +kernel, by decide +kernel⟩

/-- The policy that raises decodes the data as they are, and the clearing is reported. -/
theorem decodeBrain_of_yields_verbose :
    verbose.isString = false ∧ verbose.Distinct ∧
      (DecodeOptions.decodeBrain ⟨catalog, .lenient, .dropTile⟩ verbose).Yields .warning
        straying.repair ∧
      ∃ original : Brain,
        (DecodeOptions.decodeBrain ⟨catalog, .lenient, .raise⟩ verbose).outcome = .ok original ∧
        original.toJson.same (BrainRecord.canonical verbose) = true ∧
        straying.repair = (if Policy.dropTile = .dropTile then original.repair else original) ∧
        (DecodeOptions.decodeBrain ⟨catalog, .lenient, .dropTile⟩ verbose).notices =
          if Policy.dropTile = .dropTile then original.repairNotices else [] := by
  have distinct : verbose.Distinct := by
    simp [verbose, Json.Distinct, Json.DistinctItems, Json.DistinctMembers, Keyed.keys]
  have yields := yields_verbose .lenient
  exact ⟨rfl, distinct, yields,
    DecodeOptions.decodeBrain_of_yields ⟨catalog, .lenient, .dropTile⟩ rfl distinct yields⟩

/-- What is left of the brain is no longer what the data held. -/
theorem not_same_canonical_verbose :
    (DecodeOptions.decodeBrain ⟨catalog, .strict, .dropTile⟩ verbose).Yields .warning
        straying.repair ∧
      straying.repair.toJson.same (BrainRecord.canonical verbose) = false :=
  ⟨yields_verbose .strict, by decide +kernel⟩

end Builtin

end TileBrain
