import TileBrain.Proofs.Json.Sameness
import TileBrain.Proofs.Record.Strict

/-! # Canonical data

Data that strict reading accepts may spell out what a layout leaves out: the default condition, and
lists without items. Leaving these out makes the data canonical. A layout counts as the same as the
canonical form of whatever its record was read from, which `BrainRecord.same_canonical` says of
brains.

An object counts as the same whatever the order of its members, so only what stands under each key
is compared, layer by layer. Every layer has the statement under one name, `same_canonical`.
-/

namespace TileBrain

namespace Json

/-- The object without certain members. -/
def without (redundant : List (String × Json)) : Json → Json
  | .obj members => .obj (members.filter (· ∉ redundant))
  | json => json

/-- The list with every item rewritten. -/
def mapItems (f : Json → Json) : Json → Json
  | .arr items => .arr (items.map f)
  | json => json

/-- The object with the value under a key rewritten. -/
def mapMember (key : String) (f : Json → Json) : Json → Json
  | .obj members => .obj (Keyed.update key f members)
  | json => json

end Json

/-- What a rule need not spell out. -/
def RuleRecord.redundant : List (String × Json) :=
  [(RecordKey.condition, .str Condition.default.code), (RecordKey.filters, .arr []),
    (RecordKey.modifiers, .arr [])]

def RuleRecord.canonical (json : Json) : Json := json.without RuleRecord.redundant

/-- What a page need not spell out. -/
def PageRecord.redundant : List (String × Json) := [(RecordKey.rules, .arr [])]

def PageRecord.canonical (json : Json) : Json :=
  (json.mapMember RecordKey.rules (.mapItems RuleRecord.canonical)).without PageRecord.redundant

def BrainRecord.canonical (json : Json) : Json :=
  json.mapMember RecordKey.pages (.mapItems PageRecord.canonical)

namespace RuleRecord

variable {members : List (String × Json)}

/-- What a rule has under a key when the redundant members are left out. -/
def remaining (members : List (String × Json)) (key : String) : Option Json :=
  (Keyed.get? members key).filter fun value => (key, value) ∉ redundant

private theorem remaining_condition {condition : Condition}
    (spelled : Keyed.get? members RecordKey.condition = none ∧ condition = .default ∨
      Keyed.get? members RecordKey.condition = some (.str condition.code)) :
    remaining members RecordKey.condition =
      if condition = .default then none else some (.str condition.code) := by
  unfold remaining
  rcases spelled with ⟨absent, rfl⟩ | found
  · rw [absent]
    rfl
  · rw [found]
    cases condition <;> decide +kernel

private theorem remaining_id {key : String} (isSlot : ∀ entry ∈ redundant, entry.1 ≠ key)
    {id : Option String} (spelled : Keyed.get? members key = id.map .str) :
    remaining members key = id.map .str := by
  unfold remaining
  rw [spelled]
  cases id with
  | none => rfl
  | some id =>
    have kept : (key, Json.str id) ∉ redundant := fun member => isSlot _ member rfl
    rw [Option.map_some, Option.filter_some, if_pos (decide_eq_true kept)]

private theorem remaining_ids {key : String}
    (isChain : ∀ value, (key, value) ∈ redundant ↔ value = .arr []) {ids : List String}
    (spelled : Keyed.get? members key = none ∧ ids = [] ∨
      Keyed.get? members key = some (.strings ids)) :
    remaining members key = if ids.isEmpty then none else some (.strings ids) := by
  unfold remaining
  rcases spelled with ⟨absent, rfl⟩ | found
  · rw [absent]
    rfl
  · rw [found, Option.filter_some]
    simp only [isChain]
    cases ids with
    | nil => rfl
    | cons id rest => rfl

/-- What is laid out under a key is what remains there of the members that spell the rule. -/
theorem SpelledBy.get?_present {record : RuleRecord String} (spelled : record.SpelledBy members)
    {key : String} (known : key ∈ RecordPart.rule.keys) :
    Keyed.get? (Keyed.present (record.fields .str)) key = remaining members key := by
  have laidOut {value : Option Json} (member : (key, value) ∈ record.fields .str) :
      Keyed.get? (Keyed.present (record.fields .str)) key = value :=
    Keyed.get?_present (record.nodup_keys_fields .str) member
  have dropsEmpty (key : String) (isChain : key = RecordKey.filters ∨ key = RecordKey.modifiers)
      (value : Json) : (key, value) ∈ redundant ↔ value = .arr [] := by
    rcases isChain with rfl | rfl <;>
      simp [redundant, RecordKey.condition, RecordKey.filters, RecordKey.modifiers]
  simp only [RecordPart.keys, List.mem_cons, List.not_mem_nil, or_false] at known
  rcases known with rfl | rfl | rfl | rfl | rfl
  · rw [remaining_condition spelled.condition]
    exact laidOut (.head _)
  · rw [remaining_id (by decide) spelled.sensor]
    exact laidOut (.tail _ (.head _))
  · rw [remaining_id (by decide) spelled.actuator]
    exact laidOut (.tail _ (.tail _ (.head _)))
  · rw [remaining_ids (dropsEmpty _ (.inl rfl)) spelled.filters]
    exact laidOut (.tail _ (.tail _ (.tail _ (.head _))))
  · rw [remaining_ids (dropsEmpty _ (.inr rfl)) spelled.modifiers]
    exact laidOut (.tail _ (.tail _ (.tail _ (.tail _ (.head _)))))

/-- The layout of a rule counts as the same as the canonical form of what the rule was read from. -/
theorem same_canonical {json : Json} {record : RuleRecord String}
    (read : (RuleRecord.read .strict json).outcome = .ok record) (distinct : json.Distinct) :
    (record.toJson .str).same (canonical json) = true := by
  obtain ⟨members, rfl, spelled⟩ := read_strict_iff.mp read
  have laidOut := (Keyed.keys_present_sublist _).nodup (record.nodup_keys_fields .str)
  have fewer := Keyed.keys_filter_sublist (· ∉ redundant) members
  rw [toJson_eq_present]
  apply Json.same_obj RecordPart.rule.keys
  · exact laidOut
  · exact fewer.nodup distinct.1
  · exact (Keyed.keys_present_sublist _).subset
  · exact List.Subset.trans fewer.subset spelled.keys
  · intro key known
    rw [Keyed.get?_filter distinct.1]
    change Option.Rel _ _ (remaining members key)
    rw [← spelled.get?_present known]
    cases found : Keyed.get? (Keyed.present (record.fields .str)) key with
    | none => exact .none
    | some value =>
      have member := Keyed.mem_present.mp ((Keyed.get?_eq_some_iff laidOut).mp found)
      exact .some (restorable_of_mem_fields member).same_self

end RuleRecord

/-- Layouts count as the same as canonical forms if they do so item by item. -/
theorem Json.same_arr_mapItems {ρ : Type} {layout : ρ → Json} {canonical : Json → Json}
    {read : Json → ρ → Prop} {items : List Json} {records : List ρ}
    (areRead : List.Forall₂ read items records) (distinct : (Json.arr items).Distinct)
    (each : ∀ item record, read item record → item.Distinct →
      (layout record).same (canonical item) = true) :
    (Json.arr (records.map layout)).same (mapItems canonical (.arr items)) = true := by
  apply same_arr_iff.mpr
  have parts := distinctItems_iff.mp distinct
  clear distinct
  induction areRead with
  | nil => exact .nil
  | cons isRead _ ih =>
    obtain ⟨first, others⟩ := List.forall_mem_cons.mp parts
    exact .cons (each _ _ isRead first) (ih others)

namespace PageRecord

/-- The layout of a page counts as the same as the canonical form of what the page was read from. -/
theorem same_canonical {json : Json} {record : PageRecord String}
    (read : (PageRecord.read .strict json).outcome = .ok record) (distinct : json.Distinct) :
    (record.toJson .str).same (canonical json) = true := by
  obtain ⟨members, rfl, spelled⟩ := read_strict_iff.mp read
  have keys := Keyed.keys_update RecordKey.rules (.mapItems RuleRecord.canonical) members
  have distinctKeys := keys ▸ distinct.1
  have fewer := Keyed.keys_filter_sublist (· ∉ redundant)
    (Keyed.update RecordKey.rules (.mapItems RuleRecord.canonical) members)
  apply Json.same_obj RecordPart.page.keys
  · split <;> simp [Keyed.keys]
  · exact fewer.nodup distinctKeys
  · split <;> simp [Keyed.keys, RecordPart.keys]
  · exact List.Subset.trans fewer.subset (keys ▸ spelled.keys)
  · intro key isRules
    obtain rfl := List.mem_singleton.mp isRules
    rw [Keyed.get?_filter distinctKeys, Keyed.get?_update]
    rcases spelled.rules with ⟨absent, none⟩ | ⟨items, found, areRead⟩
    · rw [absent, none]
      exact .none
    · have same := Json.same_arr_mapItems areRead (distinct.get? found)
        fun _ _ => RuleRecord.same_canonical
      obtain ⟨rules⟩ := record
      change List.Forall₂ _ items rules at areRead
      rw [found]
      cases areRead with
      | nil => exact .none
      | @cons item rule rest more first others =>
        have kept : (RecordKey.rules, Json.mapItems RuleRecord.canonical (.arr (item :: rest))) ∉
            redundant := by
          simp [redundant, Json.mapItems]
        rw [Option.map_some, Option.filter_some, if_pos (decide_eq_true kept)]
        exact .some same

end PageRecord

namespace BrainRecord

/-- The layout of a brain counts as the same as the canonical form of what the brain was read
from. -/
theorem same_canonical {json : Json} {record : BrainRecord String}
    (read : (BrainRecord.read .strict json).outcome = .ok record) (distinct : json.Distinct) :
    (record.toJson .str).same (canonical json) = true := by
  obtain ⟨members, rfl, spelled⟩ := read_strict_iff.mp read
  obtain ⟨items, found, areRead⟩ := spelled.pages
  have keys := Keyed.keys_update RecordKey.pages (.mapItems PageRecord.canonical) members
  apply Json.same_obj RecordPart.brain.keys
  · exact List.pairwise_singleton _ _
  · exact keys ▸ distinct.1
  · exact List.Subset.refl _
  · exact keys ▸ spelled.keys
  · intro key isPages
    obtain rfl := List.mem_singleton.mp isPages
    rw [Keyed.get?_update, found]
    exact .some (Json.same_arr_mapItems areRead (distinct.get? found)
      fun _ _ => PageRecord.same_canonical)

end BrainRecord

end TileBrain
