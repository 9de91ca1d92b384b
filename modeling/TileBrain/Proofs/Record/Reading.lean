import TileBrain.Proofs.Keyed
import TileBrain.Proofs.Json.Written
import TileBrain.Record.Reading

/-! # Records come back from their layout

What is laid out for a record is read as that record, in either mode and without a notice. A layout
leaves out every field that has its default, and reading takes a missing field for its default.

Each reader undoes its writer field by field, and `Pages.mapM_map_of_inverse` carries that over to
lists of fixed length. Identifiers are texts here, since nothing else is read as one.
-/

namespace TileBrain

section Traversal

variable {m : Type → Type} [Monad m] [LawfulMonad m] {α β : Type} {f : α → β} {read : β → m α}

private theorem Pages.traverse_map_of_inverse (inverse : ∀ element, read (f element) = pure element)
    (elements : List α) :
    Pages.traverse read (elements.map f) = pure ⟨elements, (List.length_map f).symm⟩ := by
  induction elements with
  | nil => rfl
  | cons element rest ih =>
    change Pages.traverse read (f element :: rest.map f) = _
    rw [Pages.traverse, inverse, pure_bind, ih, pure_bind]

private theorem Pages.mapM_map_of_inverse (inverse : ∀ element, read (f element) = pure element)
    (pages : Pages α) : (pages.map f).mapM read = pure pages := by
  simp only [Pages.mapM, toList_map, traverse_map_of_inverse inverse, pure_bind]

private theorem Pages.list_mapM_map_of_inverse
    (inverse : ∀ element, read (f element) = pure element) (elements : List α) :
    (elements.map f).mapM read = pure elements := by
  rw [← Pages.val_traverse, Pages.traverse_map_of_inverse inverse, map_pure]

end Traversal

namespace Record

variable (mode : Mode)

private theorem readCondition_code (condition : Condition) :
    readCondition mode (if condition = .default then none else some (.str condition.code)) =
      pure condition := by
  split
  next isDefault => rw [isDefault]; rfl
  next => simp only [readCondition, Condition.ofCode?_code]

theorem readId_map (key : String) (id : Option String) :
    readId mode key (id.map .str) = pure id := by
  cases id <;> rfl

private theorem readIds_map (key : String) (ids : List String) :
    readIds mode key (if ids.isEmpty then none else some (.arr (ids.map .str))) = pure ids := by
  split
  next isEmpty => rw [List.isEmpty_iff.mp isEmpty]; rfl
  next =>
    have strings : (Json.arr (ids.map .str)).strings? = some ids := Json.strings?_strings ids
    simp only [readIds, strings]

/-- Keys that all belong to a part are nothing to complain about. -/
theorem checkKeys_of_subset {part : RecordPart} {members : List (String × Json)}
    (known : Keyed.keys members ⊆ part.keys) : checkKeys mode part members = pure () := by
  have none : (Keyed.keys members).filter (fun key => !part.keys.contains key) = [] := by
    apply List.filter_eq_nil_iff.mpr
    intro key member
    simp [known member]
  rw [checkKeys, unexpectedKeys, none]
  rfl

end Record

namespace RuleRecord

/-- The keys of a rule, with the value that is stored for each unless it is left out. -/
def fields {ι : Type} (record : RuleRecord ι) (idJson : ι → Json) : List (String × Option Json) :=
  [(RecordKey.condition,
      if record.condition = .default then none else some (.str record.condition.code)),
    (RecordKey.sensor, record.sensor.map idJson),
    (RecordKey.actuator, record.actuator.map idJson),
    (RecordKey.filters,
      if record.filters.isEmpty then none else some (.arr (record.filters.map idJson))),
    (RecordKey.modifiers,
      if record.modifiers.isEmpty then none else some (.arr (record.modifiers.map idJson)))]

variable {ι : Type} (record : RuleRecord ι) (idJson : ι → Json)

theorem toJson_eq_present : record.toJson idJson = .obj (Keyed.present (record.fields idJson)) := by
  simp only [toJson, fields, Keyed.present_cons, Keyed.present_nil, Option.map_map,
    Function.comp_def, List.append_nil, List.append_assoc]
  split <;> split <;> split <;> rfl

theorem nodup_keys_fields : (Keyed.keys (record.fields idJson)).Nodup := by
  change RecordPart.rule.keys.Nodup
  decide

end RuleRecord

open Record

/-- A laid out rule is read as the rule that it was laid out for. -/
theorem RuleRecord.read_toJson (mode : Mode) (record : RuleRecord String) :
    RuleRecord.read mode (record.toJson .str) = pure record := by
  have known := (Keyed.keys_present_sublist (record.fields .str)).subset
  have found (key : String) {value : Option Json} (member : (key, value) ∈ record.fields .str) :
      Keyed.get? (Keyed.present (record.fields .str)) key = value :=
    Keyed.get?_present (record.nodup_keys_fields .str) member
  have condition := found RecordKey.condition (.head _)
  have sensor := found RecordKey.sensor (.tail _ (.head _))
  have actuator := found RecordKey.actuator (.tail _ (.tail _ (.head _)))
  have filters := found RecordKey.filters (.tail _ (.tail _ (.tail _ (.head _))))
  have modifiers := found RecordKey.modifiers (.tail _ (.tail _ (.tail _ (.tail _ (.head _)))))
  have keys : checkKeys mode .rule (Keyed.present (record.fields .str)) = pure () :=
    checkKeys_of_subset mode known
  rw [toJson_eq_present]
  simp only [RuleRecord.read, readMapping, pure_bind, keys, condition, sensor, actuator, filters,
    modifiers, readCondition_code, readId_map, readIds_map]

theorem PageRecord.read_toJson (mode : Mode) (record : PageRecord String) :
    PageRecord.read mode (record.toJson .str) = pure record := by
  obtain ⟨rules⟩ := record
  cases rules with
  | nil => rfl
  | cons rule rest =>
    have keys : checkKeys mode .page [(RecordKey.rules,
        .arr ((rule :: rest).map (RuleRecord.toJson · .str)))] = pure () :=
      checkKeys_of_subset mode (List.Subset.refl _)
    have rules : ((rule :: rest).map (RuleRecord.toJson · .str)).mapM (RuleRecord.read mode) =
        pure (rule :: rest) :=
      Pages.list_mapM_map_of_inverse (RuleRecord.read_toJson mode) _
    have found : Keyed.get? [(RecordKey.rules, Json.arr ((rule :: rest).map
        (RuleRecord.toJson · .str)))] RecordKey.rules = some _ :=
      (Keyed.get?_cons _ _ _).trans (if_pos rfl)
    simp only [toJson, List.isEmpty_cons, Bool.false_eq_true, if_false, PageRecord.read,
      readMapping, pure_bind, keys, found, rules]

theorem Record.fitPages_map {α : Type} (mode : Mode) (f : α → Json) (pages : Pages α) :
    fitPages mode (pages.toList.map f) = pure (pages.map f) := by
  have fits : (pages.toList.map f).length = pageCount := (pages.map f).length_toList
  simp only [fitPages, Pages.ofList, fits, dif_pos]
  rfl

/-- A laid out brain is read as the brain that it was laid out for. -/
theorem BrainRecord.read_toJson (mode : Mode) (record : BrainRecord String) :
    BrainRecord.read mode (record.toJson .str) = pure record := by
  have keys : checkKeys mode .brain [(RecordKey.pages,
      .arr (record.pages.toList.map (PageRecord.toJson · .str)))] = pure () :=
    checkKeys_of_subset mode (List.Subset.refl _)
  have pages : (record.pages.map (PageRecord.toJson · .str)).mapM (PageRecord.read mode) =
      pure record.pages :=
    Pages.mapM_map_of_inverse (PageRecord.read_toJson mode) _
  have found : Keyed.get? [(RecordKey.pages, Json.arr (record.pages.toList.map
      (PageRecord.toJson · .str)))] RecordKey.pages = some _ :=
    (Keyed.get?_cons _ _ _).trans (if_pos rfl)
  simp only [toJson, BrainRecord.read, readMapping, pure_bind, keys, found, readPages,
    fitPages_map, pages]

theorem RuleRecord.restorable_of_mem_fields {record : RuleRecord String} {key : String}
    {value : Json} (member : (key, some value) ∈ record.fields .str) : value.Restorable := by
  simp only [fields, List.mem_cons, Prod.mk.injEq, List.not_mem_nil, or_false] at member
  have ids {id : Option String} (isId : some value = id.map .str) : value.Restorable := by
    obtain ⟨text, _, rfl⟩ := Option.map_eq_some_iff.mp isId.symm
    exact .str text
  have chains {texts : List String} (isChain : some value =
      if texts.isEmpty then none else some (.arr (texts.map .str))) : value.Restorable := by
    split at isChain
    · exact nomatch isChain
    · rw [Option.some.inj isChain]
      exact .strings texts
  rcases member with ⟨_, condition⟩ | ⟨_, sensor⟩ | ⟨_, actuator⟩ | ⟨_, filters⟩ | ⟨_, modifiers⟩
  · split at condition
    · exact nomatch condition
    · rw [Option.some.inj condition]
      exact .str _
  · exact ids sensor
  · exact ids actuator
  · exact chains filters
  · exact chains modifiers

theorem RuleRecord.restorable_toJson (record : RuleRecord String) :
    (record.toJson .str).Restorable := by
  rw [toJson_eq_present]
  apply Json.Restorable.obj
  · exact (Keyed.keys_present_sublist _).nodup (record.nodup_keys_fields .str)
  · intro member isPresent
    exact restorable_of_mem_fields (Keyed.mem_present.mp isPresent)

theorem PageRecord.restorable_toJson (record : PageRecord String) :
    (record.toJson .str).Restorable := by
  unfold toJson
  split
  · exact .obj .nil nofun
  · apply Json.Restorable.singleton
    apply Json.Restorable.arr
    intro item isItem
    obtain ⟨rule, _, rfl⟩ := List.mem_map.mp isItem
    exact rule.restorable_toJson

theorem BrainRecord.restorable_toJson (record : BrainRecord String) :
    (record.toJson .str).Restorable := by
  apply Json.Restorable.singleton
  apply Json.Restorable.arr
  intro item isItem
  obtain ⟨page, _, rfl⟩ := List.mem_map.mp isItem
  exact page.restorable_toJson

end TileBrain
