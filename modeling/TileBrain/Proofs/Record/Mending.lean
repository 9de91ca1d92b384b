import TileBrain.Proofs.Record.Modes

/-! # Mending

Mending a value leaves out what a record cannot have: keys that do not belong there, fields of the
wrong type, and condition codes that do not exist. What is no object is mended to an empty one, and
pages are cut or filled up to their number. `Record.modesAgree` says how strict and lenient reading
compare, and that lenient reading of a value is strict reading of the mended value.
-/

namespace TileBrain

namespace Json

/-- The members of an object. What is no object has none. -/
def members : Json → List (String × Json)
  | .obj members => members
  | _ => []

/-- The items of a list. What is no list has none. -/
def items : Json → List Json
  | .arr items => items
  | _ => []

/-- Whether the value is a code that a condition has. -/
def isCondition (json : Json) : Bool := (json.str?.bind Condition.ofCode?).isSome

/-- Whether the value is a list of strings. -/
def isStrings (json : Json) : Bool := json.strings?.isSome

end Json

namespace RuleRecord

/-- What the fields of a rule have to be. -/
def fieldTests : List (String × (Json → Bool)) :=
  [(RecordKey.condition, Json.isCondition), (RecordKey.sensor, Json.isString),
    (RecordKey.actuator, Json.isString), (RecordKey.filters, Json.isStrings),
    (RecordKey.modifiers, Json.isStrings)]

/-- Whether a rule has the key, and what is found under it is what it has to be. -/
def keeps (members : List (String × Json)) (key : String) : Bool :=
  (Keyed.get? fieldTests key).any fun test => (Keyed.get? members key).any test

/-- Leaves out the members that are not as a rule has them. -/
def mend (json : Json) : Json :=
  .obj (json.members.filter fun member => keeps json.members member.1)

end RuleRecord

/-- Leaves out everything but a list of rules, and mends these. -/
def PageRecord.mend (json : Json) : Json :=
  .obj (match Keyed.get? json.members RecordKey.rules with
    | some (.arr rules) => [(RecordKey.rules, .arr (rules.map RuleRecord.mend))]
    | _ => [])

/-- Leaves out everything but the pages, of which it makes as many as a brain has, and mends
these. -/
def BrainRecord.mend (json : Json) : Json :=
  let raw := ((Keyed.get? json.members RecordKey.pages).map Json.items).getD []
  .obj [(RecordKey.pages, .arr ((Pages.fit (.obj []) raw).toList.map PageRecord.mend))]

namespace Record

variable {α β : Type}

/-- Lenient reading comes to a value, and strict reading of what was mended comes to the same
without a fault. -/
def Mends (lenient mended : Reported RecordFault α) : Prop :=
  ∃ value, lenient.outcome = .ok value ∧ mended = pure value

section Mends

variable {lenient mended : Reported RecordFault α} {a b : α}
  {next clean : α → Reported RecordFault β}

private theorem mends_pure (value : α) : Mends (pure value) (pure value) := ⟨value, rfl, rfl⟩

theorem Mends.bind (ok : lenient.outcome = .ok a) (faultless : mended = pure b)
    (others : Mends (next a) (clean b)) : Mends (lenient >>= next) (mended >>= clean) := by
  obtain ⟨value, outcome, pure_eq⟩ := others
  refine ⟨value, ?_, ?_⟩
  · rw [Reported.outcome_bind_of_ok ok, outcome]
  · rw [faultless, pure_bind, pure_eq]

/-- Steps that come to the same value have the same steps after them. -/
private theorem Mends.andThen (mends : Mends lenient mended)
    (others : ∀ value, Mends (next value) (clean value)) :
    Mends (lenient >>= next) (mended >>= clean) := by
  obtain ⟨value, outcome, pure_eq⟩ := mends
  exact Mends.bind outcome pure_eq (others value)

end Mends

section Traversal

variable {read clean : Json → Reported RecordFault α} {mend : Json → Json}

theorem Mends.mapM (mends : ∀ item, Mends (read item) (clean (mend item))) (items : List Json) :
    Mends (items.mapM read) ((items.map mend).mapM clean) := by
  induction items with
  | nil => exact mends_pure []
  | cons item rest ih =>
    simp only [List.map_cons, List.mapM_cons]
    exact (mends item).andThen fun result => ih.andThen fun results => mends_pure _

private theorem exists_traverse_mends (mends : ∀ item, Mends (read item) (clean (mend item)))
    (items : List Json) :
    ∃ results length length', (Pages.traverse read items).outcome = .ok ⟨results, length⟩ ∧
      Pages.traverse clean (items.map mend) = pure ⟨results, length'⟩ := by
  induction items with
  | nil => exact ⟨[], rfl, rfl, rfl, rfl⟩
  | cons item rest ih =>
    obtain ⟨result, outcome, pure_eq⟩ := mends item
    obtain ⟨results, length, length', others, pure_eqs⟩ := ih
    refine ⟨result :: results, by simpa using length, by simpa using length', ?_, ?_⟩
    · rw [Pages.traverse, Reported.outcome_bind_of_ok outcome, Reported.outcome_bind_of_ok others]
      rfl
    · change Pages.traverse clean (mend item :: rest.map mend) = _
      rw [Pages.traverse, pure_eq, pure_bind, pure_eqs, pure_bind]

theorem Mends.pages_mapM (mends : ∀ item, Mends (read item) (clean (mend item)))
    (pages : Pages Json) : Mends (pages.mapM read) ((pages.map mend).mapM clean) := by
  obtain ⟨results, length, length', outcome, pure_eq⟩ := exists_traverse_mends mends pages.toList
  refine ⟨⟨results, length.trans pages.length_toList⟩, ?_, ?_⟩
  · rw [Pages.mapM, Reported.outcome_bind_of_ok outcome]
    rfl
  · have traversed : Pages.traverse clean (pages.map mend).toList = pure ⟨results, length'⟩ :=
      pure_eq
    rw [Pages.mapM, traversed]
    rfl

end Traversal

private theorem outcome_readMapping_lenient (part : RecordPart) (json : Json) :
    (readMapping .lenient part json).outcome = .ok json.members := by
  cases json <;> rfl

private theorem outcome_checkKeys_lenient (part : RecordPart) (members : List (String × Json)) :
    (checkKeys .lenient part members).outcome = .ok () := by
  unfold checkKeys
  split <;> rfl

private theorem outcome_readPages_lenient (field : Option Json) :
    (readPages .lenient field).outcome = .ok ((field.map Json.items).getD []) := by
  unfold readPages
  split
  · rfl
  next other =>
    cases field with
    | none => rfl
    | some json =>
      cases json with
      | arr items => exact absurd rfl (other items)
      | _ => rfl

private theorem outcome_fitPages_lenient (pages : List Json) :
    (fitPages .lenient pages).outcome = .ok (Pages.fit (.obj []) pages) := by
  by_cases length : pages.length = pageCount
  · have same : Pages.fit (.obj []) pages = ⟨pages, length⟩ := by
      rw [Pages.fit, Pages.mk.injEq]
      exact Pages.toList_fit (.obj []) length
    rw [same, fitPages, Pages.ofList, dif_pos length]
    rfl
  · rw [fitPages, Pages.ofList, dif_neg length]
    rfl

private theorem mends_readCondition (field : Option Json) :
    Mends (readCondition .lenient field)
      (readCondition .strict (field.filter Json.isCondition)) := by
  cases field with
  | none => exact mends_pure Condition.default
  | some json =>
    cases json with
    | str code =>
      cases found : Condition.ofCode? code with
      | some condition =>
        have kept : (some (Json.str code)).filter Json.isCondition = some (.str code) := by
          simp [Json.isCondition, found]
        rw [kept]
        simp only [readCondition, found]
        exact mends_pure condition
      | none =>
        have left : (some (Json.str code)).filter Json.isCondition = none := by
          simp [Json.isCondition, found]
        rw [left]
        simp only [readCondition, found]
        exact ⟨.default, rfl, rfl⟩
    | _ => exact ⟨.default, rfl, rfl⟩

private theorem mends_readId (key : String) (field : Option Json) :
    Mends (readId .lenient key field) (readId .strict key (field.filter Json.isString)) := by
  cases field with
  | none => exact mends_pure none
  | some json =>
    cases json with
    | str id => exact mends_pure (some id)
    | _ => exact ⟨none, rfl, rfl⟩

private theorem mends_readIds (key : String) (field : Option Json) :
    Mends (readIds .lenient key field) (readIds .strict key (field.filter Json.isStrings)) := by
  cases field with
  | none => exact mends_pure []
  | some json =>
    cases found : json.strings? with
    | some ids =>
      have kept : (some json).filter Json.isStrings = some json := by simp [Json.isStrings, found]
      rw [kept]
      simp only [readIds, found]
      exact mends_pure ids
    | none =>
      have left : (some json).filter Json.isStrings = none := by simp [Json.isStrings, found]
      rw [left]
      simp only [readIds, found]
      exact ⟨[], rfl, rfl⟩

end Record

open Record

namespace RuleRecord

/-- What is kept under a key is what it has to be. -/
theorem get?_mend (members : List (String × Json)) (key : String) {test : Json → Bool}
    (tested : Keyed.get? fieldTests key = some test) :
    Keyed.get? (members.filter fun member => keeps members member.1) key =
      (Keyed.get? members key).filter test := by
  rw [Keyed.get?_filter_key]
  simp only [keeps, tested, Option.any_some]
  cases found : Keyed.get? members key with
  | none => rfl
  | some json => cases passes : test json <;> simp [passes, Option.filter]

private theorem keys_mend_subset (members : List (String × Json)) :
    Keyed.keys (members.filter fun member => keeps members member.1) ⊆ RecordPart.rule.keys := by
  intro key isKey
  obtain ⟨member, isKept, rfl⟩ := List.mem_map.mp isKey
  have kept := (List.mem_filter.mp isKept).2
  by_cases isField : member.1 ∈ RecordPart.rule.keys
  · exact isField
  · have untested : Keyed.get? fieldTests member.1 = none := Keyed.get?_of_not_mem isField
    simp [keeps, untested] at kept

private theorem mends_read (json : Json) :
    Mends (RuleRecord.read .lenient json) (RuleRecord.read .strict (mend json)) := by
  have condition := get?_mend json.members RecordKey.condition rfl
  have sensor := get?_mend json.members RecordKey.sensor rfl
  have actuator := get?_mend json.members RecordKey.actuator rfl
  have filters := get?_mend json.members RecordKey.filters rfl
  have modifiers := get?_mend json.members RecordKey.modifiers rfl
  refine Mends.bind (outcome_readMapping_lenient .rule json) rfl ?_
  refine Mends.bind (outcome_checkKeys_lenient .rule json.members)
    (checkKeys_of_subset .strict (keys_mend_subset json.members)) ?_
  rw [condition, sensor, actuator, filters, modifiers]
  refine (mends_readCondition _).andThen fun condition => ?_
  refine (mends_readId _ _).andThen fun sensor => ?_
  refine (mends_readId _ _).andThen fun actuator => ?_
  refine (mends_readIds _ _).andThen fun filters => ?_
  refine (mends_readIds _ _).andThen fun modifiers => ?_
  exact mends_pure _

end RuleRecord

private theorem PageRecord.mends_read (json : Json) :
    Mends (PageRecord.read .lenient json) (PageRecord.read .strict (mend json)) := by
  refine Mends.bind (outcome_readMapping_lenient .page json) rfl ?_
  refine Mends.bind (outcome_checkKeys_lenient .page json.members)
    (checkKeys_of_subset .strict ?_) ?_
  · split <;> simp [Keyed.keys, RecordPart.keys]
  · cases Keyed.get? json.members RecordKey.rules with
    | none => exact mends_pure _
    | some field =>
      cases field with
      | arr rules =>
        exact (Mends.mapM RuleRecord.mends_read rules).andThen fun rules => mends_pure _
      | _ => exact ⟨_, rfl, rfl⟩

private theorem BrainRecord.mends_read (json : Json) :
    Mends (BrainRecord.read .lenient json) (BrainRecord.read .strict (mend json)) := by
  refine Mends.bind (outcome_readMapping_lenient .brain json) rfl ?_
  refine Mends.bind (outcome_checkKeys_lenient .brain json.members)
    (checkKeys_of_subset .strict (List.Subset.refl _)) ?_
  refine Mends.bind (outcome_readPages_lenient _) rfl ?_
  refine Mends.bind (outcome_fitPages_lenient _) (fitPages_map .strict PageRecord.mend _) ?_
  exact (Mends.pages_mapM PageRecord.mends_read _).andThen fun pages => mends_pure _

/-- How strict and lenient reading of all values compare. -/
structure Record.ModesAgree {ρ : Type} (read : Mode → Json → Reported RecordFault ρ)
    (mend : Json → Json) : Prop where
  /-- Lenient reading never fails. -/
  recovers : ∀ json, ∃ record, (read .lenient json).outcome = .ok record
  /-- Strict reading fails exactly if lenient reading warns. -/
  fails_iff_warns : ∀ json, (∃ fault, (read .strict json).outcome = .error fault) ↔
    (read .lenient json).noticesFrom .warning ≠ []
  /-- The message of the failure is what the first warning says was recovered. -/
  message_iff : ∀ json message,
    (∃ fault, (read .strict json).outcome = .error fault ∧ fault.message = message) ↔
      ∃ notice, ((read .lenient json).noticesFrom .warning).head? = some notice ∧
        notice.text = "Recovered malformed record: " ++ message
  /-- If strict reading does not fail, both read the same. -/
  agrees : ∀ json record, (read .strict json).outcome = .ok record →
    (read .lenient json).outcome = .ok record
  /-- Lenient reading comes to what strict reading makes of the mended value. -/
  mends : ∀ json, (read .lenient json).outcome = (read .strict (mend json)).outcome

namespace Record

private theorem ModesAgree.of_inStep {ρ : Type} {read : Mode → Json → Reported RecordFault ρ}
    {mend : Json → Json} (inStep : ∀ json, InStep fun mode => read mode json)
    (mends : ∀ json, Mends (read .lenient json) (read .strict (mend json))) :
    ModesAgree read mend where
  recovers json := (inStep json).recovers
  fails_iff_warns json := by
    constructor
    · rintro ⟨fault, fails⟩ silent
      have first := ((inStep json).fails_iff fault).mp fails
      rw [silent] at first
      exact nomatch first
    · intro warns
      obtain ⟨notice, rest, listed⟩ := List.exists_cons_of_ne_nil warns
      have first : ((read .lenient json).noticesFrom .warning).head? = some notice := by
        rw [listed, List.head?_cons]
      obtain ⟨fault, rfl⟩ := (inStep json).head?_noticesFrom first
      exact ⟨fault, ((inStep json).fails_iff fault).mpr first⟩
  message_iff json message := by
    constructor
    · rintro ⟨fault, fails, rfl⟩
      exact ⟨.recovered fault, ((inStep json).fails_iff fault).mp fails, rfl⟩
    · rintro ⟨notice, first, said⟩
      obtain ⟨fault, rfl⟩ := (inStep json).head?_noticesFrom first
      refine ⟨fault, ((inStep json).fails_iff fault).mpr first, ?_⟩
      exact (String.append_right_inj _).mp said
  agrees json record ok := congrArg Reported.outcome ((inStep json).eq_pure ok .lenient)
  mends json := by
    obtain ⟨record, outcome, pure_eq⟩ := mends json
    rw [outcome, pure_eq]
    rfl

/-- Strict and lenient reading agree on rules, pages and brains. -/
theorem modesAgree :
    ModesAgree RuleRecord.read RuleRecord.mend ∧ ModesAgree PageRecord.read PageRecord.mend ∧
      ModesAgree BrainRecord.read BrainRecord.mend :=
  ⟨.of_inStep RuleRecord.inStep_read RuleRecord.mends_read,
    .of_inStep PageRecord.inStep_read PageRecord.mends_read,
    .of_inStep BrainRecord.inStep_read BrainRecord.mends_read⟩

end Record

end TileBrain
