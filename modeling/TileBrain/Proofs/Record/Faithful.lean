import TileBrain.Proofs.Record.Canonical

/-! # Records stand for their canonical form

A record is read from its layout again, and what a record was read from has the layout as its
canonical form. Data that counts as the same is read as the same record. Together these make two
accepted values the same record if and only if they have the same canonical form, which
`Record.faithful` says of rules, pages and brains.
-/

namespace TileBrain

/-- A list of strings counts as the same as itself alone. -/
private theorem Json.eq_of_same_strings {texts : List String} {json : Json}
    (like : same (.strings texts) json = true) : json = .strings texts := by
  obtain ⟨others, rfl⟩ := exists_arr_of_same like
  rw [strings, same_arr_iff, List.forall₂_map_left_iff] at like
  rw [strings, arr.injEq]
  induction like with
  | nil => rfl
  | cons first _ ih => rw [same_str_iff.mp first, ih, List.map_cons]

/-- Lists of data that count as the same are read as the same records. -/
private theorem forall₂_read_of_same {ρ : Type} {read : Json → ρ → Prop} {items others : List Json}
    {records : List ρ} (areRead : List.Forall₂ read items records)
    (distinct : (Json.arr items).Distinct) (like : (Json.arr items).same (.arr others) = true)
    (each : ∀ {item other record}, item.Distinct → item.same other = true → read item record →
      read other record) : List.Forall₂ read others records := by
  have parts := Json.distinctItems_iff.mp distinct
  rw [Json.same_arr_iff] at like
  clear distinct
  induction areRead generalizing others with
  | nil =>
    cases like
    exact .nil
  | cons isRead _ ih =>
    obtain ⟨first, rest⟩ := List.forall_mem_cons.mp parts
    cases like with
    | cons same likes => exact .cons (each first same isRead) (ih likes rest)

section Same

variable {members others : List (String × Json)} {key : String}

/-- What counts as the same as itself alone is found in both. -/
private theorem get?_eq_some_of_same (like : (Json.obj members).same (.obj others) = true)
    {value : Json} (alone : ∀ other, value.same other = true → other = value)
    (found : Keyed.get? members key = some value) : Keyed.get? others key = some value := by
  obtain ⟨other, isOther, same⟩ := Json.exists_get?_of_same like found
  rw [isOther, alone other same]

private theorem get?_id_of_same (distinct : (Keyed.keys members).Nodup)
    (like : (Json.obj members).same (.obj others) = true) {id : Option String}
    (isId : Keyed.get? members key = id.map .str) : Keyed.get? others key = id.map .str := by
  cases id with
  | none => exact Json.get?_eq_none_of_same distinct like isId
  | some text => exact get?_eq_some_of_same like (fun _ => Json.same_str_iff.mp) isId

private theorem get?_ids_of_same (distinct : (Keyed.keys members).Nodup)
    (like : (Json.obj members).same (.obj others) = true) {ids : List String}
    (areIds : Keyed.get? members key = none ∧ ids = [] ∨
      Keyed.get? members key = some (.strings ids)) :
    Keyed.get? others key = none ∧ ids = [] ∨ Keyed.get? others key = some (.strings ids) := by
  rcases areIds with ⟨absent, empty⟩ | found
  · exact .inl ⟨Json.get?_eq_none_of_same distinct like absent, empty⟩
  · exact .inr (get?_eq_some_of_same like (fun _ => Json.eq_of_same_strings) found)

variable {json other : Json}

private theorem RuleRecord.read_of_same {record : RuleRecord String} (distinct : json.Distinct)
    (like : json.same other = true) (read : (RuleRecord.read .strict json).outcome = .ok record) :
    (RuleRecord.read .strict other).outcome = .ok record := by
  obtain ⟨members, rfl, spelled⟩ := read_strict_iff.mp read
  obtain ⟨others, rfl⟩ := Json.exists_obj_of_same like
  have keys := (Json.keys_perm_of_same distinct.1 like).symm.subset
  have condition : Keyed.get? others RecordKey.condition = none ∧ record.condition = .default ∨
      Keyed.get? others RecordKey.condition = some (.str record.condition.code) := by
    rcases spelled.condition with ⟨absent, isDefault⟩ | found
    · exact .inl ⟨Json.get?_eq_none_of_same distinct.1 like absent, isDefault⟩
    · exact .inr (get?_eq_some_of_same like (fun _ => Json.same_str_iff.mp) found)
  exact read_strict_iff.mpr ⟨others, rfl, List.Subset.trans keys spelled.keys, condition,
    get?_id_of_same distinct.1 like spelled.sensor,
    get?_id_of_same distinct.1 like spelled.actuator,
    get?_ids_of_same distinct.1 like spelled.filters,
    get?_ids_of_same distinct.1 like spelled.modifiers⟩

private theorem PageRecord.read_of_same {record : PageRecord String} (distinct : json.Distinct)
    (like : json.same other = true) (read : (PageRecord.read .strict json).outcome = .ok record) :
    (PageRecord.read .strict other).outcome = .ok record := by
  obtain ⟨members, rfl, spelled⟩ := read_strict_iff.mp read
  obtain ⟨others, rfl⟩ := Json.exists_obj_of_same like
  have keys := (Json.keys_perm_of_same distinct.1 like).symm.subset
  refine read_strict_iff.mpr ⟨others, rfl, List.Subset.trans keys spelled.keys, ?_⟩
  rcases spelled.rules with ⟨absent, none⟩ | ⟨items, found, areRead⟩
  · exact .inl ⟨Json.get?_eq_none_of_same distinct.1 like absent, none⟩
  · obtain ⟨value, isValue, same⟩ := Json.exists_get?_of_same like found
    obtain ⟨likes, rfl⟩ := Json.exists_arr_of_same same
    exact .inr ⟨likes, isValue,
      forall₂_read_of_same areRead (distinct.get? found) same RuleRecord.read_of_same⟩

private theorem BrainRecord.read_of_same {record : BrainRecord String} (distinct : json.Distinct)
    (like : json.same other = true) (read : (BrainRecord.read .strict json).outcome = .ok record) :
    (BrainRecord.read .strict other).outcome = .ok record := by
  obtain ⟨members, rfl, spelled⟩ := read_strict_iff.mp read
  obtain ⟨others, rfl⟩ := Json.exists_obj_of_same like
  obtain ⟨items, found, areRead⟩ := spelled.pages
  have keys := (Json.keys_perm_of_same distinct.1 like).symm.subset
  obtain ⟨value, isValue, same⟩ := Json.exists_get?_of_same like found
  obtain ⟨likes, rfl⟩ := Json.exists_arr_of_same same
  exact read_strict_iff.mpr ⟨others, rfl, List.Subset.trans keys spelled.keys, likes, isValue,
    forall₂_read_of_same areRead (distinct.get? found) same PageRecord.read_of_same⟩

end Same

/-- Records and what strict reading accepts stand for each other, up to what need not be spelled
out. -/
structure Record.Faithful {ρ : Type} (read : Mode → Json → Reported RecordFault ρ)
    (layout : ρ → Json) (canonical : Json → Json) : Prop where
  reads_layout (mode : Mode) (record : ρ) : (read mode (layout record)).outcome = .ok record
  same_canonical {json : Json} {record : ρ} (accepted : (read .strict json).outcome = .ok record)
    (distinct : json.Distinct) : (layout record).same (canonical json) = true
  idempotent {json laidOut : Json} (once : layout <$> (read .strict json).outcome = .ok laidOut) :
    layout <$> (read .strict laidOut).outcome = .ok laidOut
  eq_iff {json other : Json} {record another : ρ}
    (accepted : (read .strict json).outcome = .ok record)
    (otherAccepted : (read .strict other).outcome = .ok another)
    (distinct : json.Distinct) (otherDistinct : other.Distinct) :
    record = another ↔ (canonical json).same (canonical other) = true

namespace Record

section Assembly

variable {ρ : Type} {read : Mode → Json → Reported RecordFault ρ} {layout : ρ → Json}
  {canonical : Json → Json}

/-- Two values with a common record have canonical forms that count as the same as its layout, and
canonical forms that count as the same make their layouts count as the same. -/
theorem Faithful.of_same
    (reads_layout : ∀ mode record, (read mode (layout record)).outcome = .ok record)
    (restorable : ∀ record, (layout record).Restorable)
    (same_canonical : ∀ {json record}, (read .strict json).outcome = .ok record → json.Distinct →
      (layout record).same (canonical json) = true)
    (read_of_same : ∀ {json other record}, json.Distinct → json.same other = true →
      (read .strict json).outcome = .ok record → (read .strict other).outcome = .ok record) :
    Faithful read layout canonical where
  reads_layout := reads_layout
  same_canonical := same_canonical
  idempotent {json laidOut} once := by
    generalize (read .strict json).outcome = outcome at once
    cases outcome with
    | error fault => exact nomatch once
    | ok record =>
      obtain rfl := Except.ok.inj once
      rw [reads_layout]
      rfl
  eq_iff {json other record another} accepted otherAccepted distinct otherDistinct := by
    have laidOut := same_canonical accepted distinct
    have otherLaidOut := same_canonical otherAccepted otherDistinct
    have layoutDistinct (record : ρ) := (restorable record).distinct
    constructor
    · rintro rfl
      exact Json.same_trans (Json.same_symm (layoutDistinct record) laidOut) otherLaidOut
    · intro like
      have back := Json.same_symm (layoutDistinct another) otherLaidOut
      have layouts := Json.same_trans (Json.same_trans laidOut like) back
      have again := read_of_same (layoutDistinct record) layouts (reads_layout .strict record)
      exact Except.ok.inj (again.symm.trans (reads_layout .strict another))

end Assembly

/-- Rules, pages and brains stand for their canonical forms. -/
theorem faithful :
    Faithful RuleRecord.read (RuleRecord.toJson · .str) RuleRecord.canonical ∧
      Faithful PageRecord.read (PageRecord.toJson · .str) PageRecord.canonical ∧
      Faithful BrainRecord.read (BrainRecord.toJson · .str) BrainRecord.canonical :=
  ⟨.of_same (fun mode record => congrArg Reported.outcome (RuleRecord.read_toJson mode record))
      RuleRecord.restorable_toJson RuleRecord.same_canonical RuleRecord.read_of_same,
    .of_same (fun mode record => congrArg Reported.outcome (PageRecord.read_toJson mode record))
      PageRecord.restorable_toJson PageRecord.same_canonical PageRecord.read_of_same,
    .of_same (fun mode record => congrArg Reported.outcome (BrainRecord.read_toJson mode record))
      BrainRecord.restorable_toJson BrainRecord.same_canonical BrainRecord.read_of_same⟩

end Record

end TileBrain
