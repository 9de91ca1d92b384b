import TileBrain.Proofs.Record.Reading
import TileBrain.Proofs.Reported
import TileBrain.Proofs.StableSort

/-! # What strict reading accepts

Strict reading accepts an object under whose keys stand values of the right types, and no others.
Each reader has a lemma that says which value it reads as what: `RuleRecord.read_strict_iff`,
`PageRecord.read_strict_iff` and `BrainRecord.read_strict_iff` put them together.

All of them are equivalences, so that they tell what is refused as well. `SpelledBy` is what they
come to for a rule: under each key stands the field of the record, or a default that may be left
out.
-/

namespace TileBrain

/-- A list of strings is a list of their values. -/
theorem Json.strings?_eq_some_iff {json : Json} {texts : List String} :
    json.strings? = some texts ↔ json = .strings texts := by
  constructor
  · intro isStrings
    cases json with
    | arr items =>
      change items.mapM str? = some texts at isStrings
      apply congrArg Json.arr
      induction items generalizing texts with
      | nil =>
        obtain rfl := Option.some.inj isStrings
        rfl
      | cons item rest ih =>
        simp only [List.mapM_cons, Option.bind_eq_bind, Option.bind_eq_some_iff] at isStrings
        obtain ⟨text, isText, more, others, joined⟩ := isStrings
        obtain rfl := Option.some.inj joined
        cases item with
        | str found =>
          obtain rfl := Option.some.inj isText
          rw [List.map_cons, ih others]
        | _ => exact nomatch isText
    | _ => exact nomatch isStrings
  · rintro rfl
    exact strings?_strings texts

namespace Record

private theorem readMapping_strict_iff {part : RecordPart} {json : Json}
    {members : List (String × Json)} :
    (readMapping .strict part json).outcome = .ok members ↔ json = .obj members := by
  cases json with
  | obj found => rw [readMapping, Reported.outcome_pure_eq_ok_iff, Json.obj.injEq]
  | _ =>
    constructor
    · intro ok
      cases ok
    · intro isObject
      cases isObject

private theorem checkKeys_strict_iff {part : RecordPart} {members : List (String × Json)}
    {done : Unit} :
    (checkKeys .strict part members).outcome = .ok done ↔ Keyed.keys members ⊆ part.keys := by
  constructor
  · intro ok key member
    unfold checkKeys at ok
    split at ok
    next noKeys =>
      by_contra unknown
      have unexpected : key ∈ unexpectedKeys part members := by
        apply (StableSort.sort_perm _ _).mem_iff.mpr
        exact List.mem_filter.mpr ⟨member, by simpa using unknown⟩
      rw [noKeys] at unexpected
      exact nomatch unexpected
    next => exact nomatch ok
  · intro known
    rw [checkKeys_of_subset .strict known]
    rfl

private theorem readCondition_strict_iff {field : Option Json} {condition : Condition} :
    (readCondition .strict field).outcome = .ok condition ↔
      field = none ∧ condition = .default ∨ field = some (.str condition.code) := by
  constructor
  · intro ok
    unfold readCondition at ok
    split at ok
    next => exact .inl ⟨rfl, (Reported.outcome_pure_eq_ok_iff.mp ok).symm⟩
    next =>
      split at ok
      next found isCode =>
        obtain rfl := Reported.outcome_pure_eq_ok_iff.mp ok
        rw [Condition.ofCode?_eq_some_iff.mp isCode]
        exact .inr rfl
      next => exact nomatch ok
    next => exact nomatch ok
  · rintro (⟨rfl, rfl⟩ | rfl)
    · rfl
    · simp only [readCondition, Condition.ofCode?_code]
      rfl

private theorem readId_strict_iff {key : String} {field : Option Json} {id : Option String} :
    (readId .strict key field).outcome = .ok id ↔ field = id.map .str := by
  constructor
  · intro ok
    unfold readId at ok
    split at ok
    next =>
      rw [← Reported.outcome_pure_eq_ok_iff.mp ok]
      rfl
    next =>
      rw [← Reported.outcome_pure_eq_ok_iff.mp ok]
      rfl
    next => exact nomatch ok
  · rintro rfl
    rw [readId_map]
    rfl

private theorem readIds_strict_iff {key : String} {field : Option Json} {ids : List String} :
    (readIds .strict key field).outcome = .ok ids ↔
      field = none ∧ ids = [] ∨ field = some (.strings ids) := by
  constructor
  · intro ok
    unfold readIds at ok
    split at ok
    next => exact .inl ⟨rfl, (Reported.outcome_pure_eq_ok_iff.mp ok).symm⟩
    next =>
      split at ok
      next found areStrings =>
        obtain rfl := Reported.outcome_pure_eq_ok_iff.mp ok
        rw [Json.strings?_eq_some_iff.mp areStrings]
        exact .inr rfl
      next => exact nomatch ok
  · rintro (⟨rfl, rfl⟩ | rfl)
    · rfl
    · simp only [readIds, Json.strings?_strings]
      rfl

end Record

open Record

/-- The members spell the rule: they are fields of a rule, with the rule's own value or left out
where the default is. -/
structure RuleRecord.SpelledBy (record : RuleRecord String) (members : List (String × Json)) :
    Prop where
  keys : Keyed.keys members ⊆ RecordPart.rule.keys
  condition : Keyed.get? members RecordKey.condition = none ∧ record.condition = .default ∨
    Keyed.get? members RecordKey.condition = some (.str record.condition.code)
  sensor : Keyed.get? members RecordKey.sensor = record.sensor.map .str
  actuator : Keyed.get? members RecordKey.actuator = record.actuator.map .str
  filters : Keyed.get? members RecordKey.filters = none ∧ record.filters = [] ∨
    Keyed.get? members RecordKey.filters = some (.strings record.filters)
  modifiers : Keyed.get? members RecordKey.modifiers = none ∧ record.modifiers = [] ∨
    Keyed.get? members RecordKey.modifiers = some (.strings record.modifiers)

theorem RuleRecord.read_strict_iff {json : Json} {record : RuleRecord String} :
    (RuleRecord.read .strict json).outcome = .ok record ↔
      ∃ members, json = .obj members ∧ record.SpelledBy members := by
  simp only [RuleRecord.read, Reported.outcome_bind_eq_ok_iff, Reported.outcome_pure_eq_ok_iff,
    readMapping_strict_iff, checkKeys_strict_iff, readCondition_strict_iff, readId_strict_iff,
    readIds_strict_iff]
  constructor
  · rintro ⟨members, isObject, ⟨⟩, keys, condition, isCondition, sensor, isSensor, actuator,
      isActuator, filters, isFilters, modifiers, isModifiers, rfl⟩
    exact ⟨members, isObject, keys, isCondition, isSensor, isActuator, isFilters, isModifiers⟩
  · rintro ⟨members, isObject, spelled⟩
    exact ⟨members, isObject, (), spelled.keys, _, spelled.condition, _, spelled.sensor, _,
      spelled.actuator, _, spelled.filters, _, spelled.modifiers, rfl⟩

/-- The members spell the page: they are a list of objects that spell its rules, which is left out
only if there are none. -/
structure PageRecord.SpelledBy (record : PageRecord String) (members : List (String × Json)) :
    Prop where
  keys : Keyed.keys members ⊆ RecordPart.page.keys
  rules : Keyed.get? members RecordKey.rules = none ∧ record.rules = [] ∨
    ∃ items, Keyed.get? members RecordKey.rules = some (.arr items) ∧
      List.Forall₂ (fun item rule => (RuleRecord.read .strict item).outcome = .ok rule)
        items record.rules

theorem PageRecord.read_strict_iff {json : Json} {record : PageRecord String} :
    (PageRecord.read .strict json).outcome = .ok record ↔
      ∃ members, json = .obj members ∧ record.SpelledBy members := by
  simp only [PageRecord.read, Reported.outcome_bind_eq_ok_iff, readMapping_strict_iff,
    checkKeys_strict_iff]
  constructor
  · rintro ⟨members, isObject, ⟨⟩, keys, ok⟩
    refine ⟨members, isObject, keys, ?_⟩
    split at ok
    next absent =>
      obtain rfl := Reported.outcome_pure_eq_ok_iff.mp ok
      exact .inl ⟨absent, rfl⟩
    next items found =>
      obtain ⟨rules, read, isPage⟩ := Reported.outcome_bind_eq_ok_iff.mp ok
      obtain rfl := Reported.outcome_pure_eq_ok_iff.mp isPage
      exact .inr ⟨items, found, Reported.outcome_mapM_eq_ok_iff.mp read⟩
    next => cases ok
  · rintro ⟨members, isObject, spelled⟩
    refine ⟨members, isObject, (), spelled.keys, ?_⟩
    rcases spelled.rules with ⟨absent, none⟩ | ⟨items, found, read⟩
    · obtain ⟨rules⟩ := record
      obtain rfl := none
      rw [absent]
      rfl
    · rw [found]
      exact Reported.outcome_bind_eq_ok_iff.mpr
        ⟨record.rules, Reported.outcome_mapM_eq_ok_iff.mpr read, rfl⟩

/-- The members spell the brain: they are a list of objects that spell its pages. -/
structure BrainRecord.SpelledBy (record : BrainRecord String) (members : List (String × Json)) :
    Prop where
  keys : Keyed.keys members ⊆ RecordPart.brain.keys
  pages : ∃ items, Keyed.get? members RecordKey.pages = some (.arr items) ∧
    List.Forall₂ (fun item page => (PageRecord.read .strict item).outcome = .ok page)
      items record.pages.toList

private theorem Record.readPages_strict_iff {field : Option Json} {items : List Json} :
    (readPages .strict field).outcome = .ok items ↔ field = some (.arr items) := by
  constructor
  · intro ok
    unfold readPages at ok
    split at ok
    next => rw [Reported.outcome_pure_eq_ok_iff.mp ok]
    next => exact nomatch ok
  · rintro rfl
    rfl

private theorem Record.fitPages_strict_iff {items : List Json} {pages : Pages Json} :
    (fitPages .strict items).outcome = .ok pages ↔ items = pages.toList := by
  constructor
  · intro ok
    unfold fitPages Pages.ofList at ok
    split at ok
    next found fits =>
      obtain rfl := Reported.outcome_pure_eq_ok_iff.mp ok
      split at fits
      · obtain rfl := Except.ok.inj fits
        rfl
      · cases fits
    next => cases ok
  · rintro rfl
    have fits := fitPages_map .strict id pages
    rw [List.map_id] at fits
    rw [fits, Pages.map, Reported.outcome_pure_eq_ok_iff]
    simp only [List.map_id]

theorem BrainRecord.read_strict_iff {json : Json} {record : BrainRecord String} :
    (BrainRecord.read .strict json).outcome = .ok record ↔
      ∃ members, json = .obj members ∧ record.SpelledBy members := by
  simp only [BrainRecord.read, Reported.outcome_bind_eq_ok_iff, Reported.outcome_pure_eq_ok_iff,
    Reported.outcome_pages_mapM_eq_ok_iff, readMapping_strict_iff, checkKeys_strict_iff,
    readPages_strict_iff, fitPages_strict_iff]
  constructor
  · rintro ⟨members, isObject, ⟨⟩, keys, items, isList, raw, rfl, pages, read, rfl⟩
    exact ⟨members, isObject, keys, raw.toList, isList, read⟩
  · rintro ⟨members, isObject, keys, items, isList, read⟩
    have fits : items.length = pageCount := read.length_eq.trans record.pages.length_toList
    exact ⟨members, isObject, (), keys, items, isList, ⟨items, fits⟩, rfl, record.pages, read, rfl⟩

end TileBrain
