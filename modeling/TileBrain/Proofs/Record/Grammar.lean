import TileBrain.Proofs.Json.Sameness
import TileBrain.Proofs.Record.Strict

/-! # The grammar of stored brains

A brain is stored as an object that has nothing but a list of its pages, a page as an object that
has nothing but a list of its rules, and a rule as an object that has nothing but a condition,
identifiers, and lists of identifiers. `Record.acceptsExactly` says that strict reading accepts what
is in this grammar and nothing else.
-/

namespace TileBrain

/-- A stored rule. Each of its fields may be left out, but none may be null. -/
inductive RuleRecord.Grammar : Json → Prop
  | obj {members : List (String × Json)}
    (keys : ∀ member ∈ members, member.1 ∈ ["C", "S", "A", "F", "M"])
    (condition : ∀ value, ("C", value) ∈ members →
      ∃ code ∈ ["RC0", "RC1", "RC2", "RC3", "RC4"], value = .str code)
    (sensor : ∀ value, ("S", value) ∈ members → ∃ id, value = .str id)
    (actuator : ∀ value, ("A", value) ∈ members → ∃ id, value = .str id)
    (filters : ∀ value, ("F", value) ∈ members → ∃ ids, value = .strings ids)
    (modifiers : ∀ value, ("M", value) ∈ members → ∃ ids, value = .strings ids) :
    Grammar (.obj members)

/-- A stored page. Its rules may be left out. -/
inductive PageRecord.Grammar : Json → Prop
  | obj {members : List (String × Json)} (keys : ∀ member ∈ members, member.1 = "R")
    (rules : ∀ value, ("R", value) ∈ members →
      ∃ items, value = .arr items ∧ ∀ item ∈ items, RuleRecord.Grammar item) :
    Grammar (.obj members)

/-- A stored brain. Its pages may not be left out. -/
inductive BrainRecord.Grammar : Json → Prop
  | obj {items : List Json} (count : items.length = 5)
    (pages : ∀ item ∈ items, PageRecord.Grammar item) : Grammar (.obj [("P", .arr items)])

/-- Strict reading accepts the value if it is in the grammar, and ends with a fault if it is not. -/
structure Record.AcceptsExactly {ρ : Type} (read : Mode → Json → Reported RecordFault ρ)
    (grammar : Json → Prop) (json : Json) : Prop where
  accepts_iff : (∃ record, (read .strict json).outcome = .ok record) ↔ grammar json
  refuses : ¬ grammar json → ∃ fault, (read .strict json).outcome = .error fault

private theorem Record.AcceptsExactly.of_iff {ρ : Type}
    {read : Mode → Json → Reported RecordFault ρ} {grammar : Json → Prop} {json : Json}
    (accepts_iff : (∃ record, (read .strict json).outcome = .ok record) ↔ grammar json) :
    AcceptsExactly read grammar json where
  accepts_iff := accepts_iff
  refuses := by
    intro outside
    cases outcome : (read .strict json).outcome with
    | ok record => exact absurd (accepts_iff.mp ⟨record, outcome⟩) outside
    | error fault => exact ⟨fault, rfl⟩

private theorem Condition.exists_code_iff {code : String} :
    (∃ condition : Condition, code = condition.code) ↔
      code ∈ ["RC0", "RC1", "RC2", "RC3", "RC4"] := by
  constructor
  · rintro ⟨condition, rfl⟩
    cases condition <;> simp [Condition.code]
  · intro listed
    simp only [List.mem_cons, List.not_mem_nil, or_false] at listed
    rcases listed with rfl | rfl | rfl | rfl | rfl
    · exact ⟨.default, rfl⟩
    · exact ⟨.high, rfl⟩
    · exact ⟨.low, rfl⟩
    · exact ⟨.highToLow, rfl⟩
    · exact ⟨.lowToHigh, rfl⟩

section Fields

variable {members : List (String × Json)} {key : String}

/-- A member has the value that is found under its key. -/
private theorem eq_of_mem (distinct : (Keyed.keys members).Nodup) {value field : Json}
    {absence : Prop}
    (spelled : Keyed.get? members key = none ∧ absence ∨ Keyed.get? members key = some field)
    (member : (key, value) ∈ members) : value = field := by
  rw [(Keyed.get?_eq_some_iff distinct).mpr member] at spelled
  rcases spelled with ⟨absent, _⟩ | found
  · exact nomatch absent
  · exact Option.some.inj found

private theorem exists_id_of_mem (distinct : (Keyed.keys members).Nodup) {id : Option String}
    (spelled : Keyed.get? members key = id.map .str) (value : Json)
    (member : (key, value) ∈ members) : ∃ id, value = .str id := by
  rw [(Keyed.get?_eq_some_iff distinct).mpr member] at spelled
  obtain ⟨id, _, isId⟩ := Option.map_eq_some_iff.mp spelled.symm
  exact ⟨id, isId.symm⟩

/-- A field stands for its default if it is left out, and otherwise for what its value spells. -/
private theorem exists_spelled {α : Type} {encode : α → Json} (default : α)
    (values : ∀ value, (key, value) ∈ members → ∃ x, value = encode x) :
    ∃ x, Keyed.get? members key = none ∧ x = default ∨
      Keyed.get? members key = some (encode x) := by
  cases found : Keyed.get? members key with
  | none => exact ⟨default, .inl ⟨rfl, rfl⟩⟩
  | some value =>
    obtain ⟨x, rfl⟩ := values value (Keyed.mem_of_get? found)
    exact ⟨x, .inr rfl⟩

private theorem exists_id (values : ∀ value, (key, value) ∈ members → ∃ id, value = .str id) :
    ∃ id : Option String, Keyed.get? members key = id.map .str := by
  cases found : Keyed.get? members key with
  | none => exact ⟨none, rfl⟩
  | some value =>
    obtain ⟨id, rfl⟩ := values value (Keyed.mem_of_get? found)
    exact ⟨some id, rfl⟩

end Fields

namespace RuleRecord

variable {members : List (String × Json)}

private theorem SpelledBy.grammar {record : RuleRecord String} (spelled : record.SpelledBy members)
    (distinct : (Keyed.keys members).Nodup) : Grammar (.obj members) := by
  have isCode := Condition.exists_code_iff.mp ⟨record.condition, rfl⟩
  apply Grammar.obj
  · intro member isMember
    exact spelled.keys (List.mem_map_of_mem isMember)
  · intro value member
    exact ⟨_, isCode, eq_of_mem distinct spelled.condition member⟩
  · exact exists_id_of_mem distinct spelled.sensor
  · exact exists_id_of_mem distinct spelled.actuator
  · intro value member
    exact ⟨_, eq_of_mem distinct spelled.filters member⟩
  · intro value member
    exact ⟨_, eq_of_mem distinct spelled.modifiers member⟩

private theorem Grammar.exists_spelledBy (grammar : Grammar (.obj members)) :
    ∃ record : RuleRecord String, record.SpelledBy members := by
  obtain ⟨keys, isCode, isSensor, isActuator, areFilters, areModifiers⟩ := grammar
  have subset : Keyed.keys members ⊆ RecordPart.rule.keys := by
    intro key isKey
    obtain ⟨member, isMember, rfl⟩ := List.mem_map.mp isKey
    exact keys member isMember
  have isCondition (value : Json) (member : (RecordKey.condition, value) ∈ members) :
      ∃ condition : Condition, value = .str condition.code := by
    obtain ⟨code, listed, rfl⟩ := isCode value member
    obtain ⟨condition, rfl⟩ := Condition.exists_code_iff.mpr listed
    exact ⟨condition, rfl⟩
  obtain ⟨condition, spelledCondition⟩ := exists_spelled .default isCondition
  obtain ⟨sensor, spelledSensor⟩ := exists_id isSensor
  obtain ⟨actuator, spelledActuator⟩ := exists_id isActuator
  obtain ⟨filters, spelledFilters⟩ := exists_spelled [] areFilters
  obtain ⟨modifiers, spelledModifiers⟩ := exists_spelled [] areModifiers
  exact ⟨⟨condition, sensor, actuator, filters, modifiers⟩, subset, spelledCondition,
    spelledSensor, spelledActuator, spelledFilters, spelledModifiers⟩

theorem accepts_iff {json : Json} (distinct : json.Distinct) :
    (∃ record, (RuleRecord.read .strict json).outcome = .ok record) ↔ Grammar json := by
  simp only [read_strict_iff]
  constructor
  · rintro ⟨record, members, rfl, spelled⟩
    exact spelled.grammar distinct.1
  · intro grammar
    cases json with
    | obj members =>
      obtain ⟨record, spelled⟩ := grammar.exists_spelledBy
      exact ⟨record, members, rfl, spelled⟩
    | _ => exact nomatch grammar

end RuleRecord

/-- All items are read if each of them is. -/
private theorem exists_forall₂_iff {α β : Type} {read : α → β → Prop} {items : List α} :
    (∃ records, List.Forall₂ read items records) ↔ ∀ item ∈ items, ∃ record, read item record := by
  induction items with
  | nil => simp
  | cons item rest ih =>
    rw [List.forall_mem_cons, ← ih]
    constructor
    · rintro ⟨_, read⟩
      cases read with
      | cons first others => exact ⟨⟨_, first⟩, _, others⟩
    · rintro ⟨⟨record, first⟩, records, others⟩
      exact ⟨record :: records, .cons first others⟩

/-- The items of a list are all accepted if they are all in a grammar. -/
private theorem accepts_items_iff {ρ : Type} {read : Mode → Json → Reported RecordFault ρ}
    {grammar : Json → Prop}
    (each : ∀ {json : Json}, json.Distinct →
      ((∃ record, (read .strict json).outcome = .ok record) ↔ grammar json))
    {items : List Json} (distinct : (Json.arr items).Distinct) :
    (∃ records, List.Forall₂ (fun item record => (read .strict item).outcome = .ok record)
      items records) ↔ ∀ item ∈ items, grammar item := by
  rw [exists_forall₂_iff]
  exact forall₂_congr fun item member => each (Json.distinctItems_iff.mp distinct item member)

theorem PageRecord.accepts_iff {json : Json} (distinct : json.Distinct) :
    (∃ record, (PageRecord.read .strict json).outcome = .ok record) ↔ Grammar json := by
  simp only [read_strict_iff]
  constructor
  · rintro ⟨record, members, rfl, spelled⟩
    apply Grammar.obj
    · intro member isMember
      exact List.mem_singleton.mp (spelled.keys (List.mem_map_of_mem isMember))
    · intro value member
      have found := (Keyed.get?_eq_some_iff distinct.1).mpr member
      rcases spelled.rules with ⟨absent, _⟩ | ⟨items, isList, areRead⟩
      · exact nomatch absent.symm.trans found
      · obtain rfl := Option.some.inj (isList.symm.trans found)
        have parts := distinct.get? found
        exact ⟨items, rfl, (accepts_items_iff RuleRecord.accepts_iff parts).mp ⟨_, areRead⟩⟩
  · rintro @⟨members, keys, areRules⟩
    have subset : Keyed.keys members ⊆ RecordPart.page.keys := by
      intro key isKey
      obtain ⟨member, isMember, rfl⟩ := List.mem_map.mp isKey
      exact List.mem_singleton.mpr (keys member isMember)
    cases found : Keyed.get? members RecordKey.rules with
    | none => exact ⟨.empty, members, rfl, subset, .inl ⟨found, rfl⟩⟩
    | some value =>
      obtain ⟨items, rfl, inGrammar⟩ := areRules value (Keyed.mem_of_get? found)
      have parts := distinct.get? found
      obtain ⟨rules, areRead⟩ := (accepts_items_iff RuleRecord.accepts_iff parts).mpr inGrammar
      exact ⟨⟨rules⟩, members, rfl, subset, .inr ⟨items, found, areRead⟩⟩

theorem BrainRecord.accepts_iff {json : Json} (distinct : json.Distinct) :
    (∃ record, (BrainRecord.read .strict json).outcome = .ok record) ↔ Grammar json := by
  simp only [read_strict_iff]
  constructor
  · rintro ⟨record, members, rfl, spelled⟩
    obtain ⟨items, found, areRead⟩ := spelled.pages
    have inGrammar := (accepts_items_iff PageRecord.accepts_iff (distinct.get? found)).mp
      ⟨_, areRead⟩
    have count : items.length = 5 := areRead.length_eq.trans record.pages.length_toList
    rw [Keyed.eq_singleton_of_get? distinct.1 spelled.keys found]
    exact .obj count inGrammar
  · rintro @⟨items, count, inGrammar⟩
    have found : Keyed.get? [(RecordKey.pages, Json.arr items)] RecordKey.pages =
      some (.arr items) := rfl
    obtain ⟨pages, areRead⟩ :=
      (accepts_items_iff PageRecord.accepts_iff (distinct.get? found)).mpr inGrammar
    have length : pages.length = pageCount := areRead.length_eq.symm.trans count
    exact ⟨⟨⟨pages, length⟩⟩, _, rfl, List.Subset.refl _, items, found, areRead⟩

/-- Strict reading accepts exactly the grammar, at each of its levels. -/
theorem Record.acceptsExactly {json : Json} (distinct : json.Distinct) :
    AcceptsExactly RuleRecord.read RuleRecord.Grammar json ∧
      AcceptsExactly PageRecord.read PageRecord.Grammar json ∧
      AcceptsExactly BrainRecord.read BrainRecord.Grammar json :=
  ⟨.of_iff (RuleRecord.accepts_iff distinct), .of_iff (PageRecord.accepts_iff distinct),
    .of_iff (BrainRecord.accepts_iff distinct)⟩

/-- A brain of one rule, under whose sensor key the value stands. -/
def Record.sensing (value : Json) : Json :=
  .obj [("P", .arr [.obj [("R", .arr [.obj [("S", value)]])], .obj [], .obj [], .obj [], .obj []])]

/-- A sensor may be a string, but not null. -/
theorem Record.acceptsExactly_sensing :
    (sensing (.str "Eyes")).Distinct ∧
      (∃ record, (BrainRecord.read .strict (sensing (.str "Eyes"))).outcome = .ok record) ∧
      (sensing .null).Distinct ∧
      ∃ fault, (BrainRecord.read .strict (sensing .null)).outcome = .error fault := by
  have distinct (value : Json) (atom : value.Distinct) : (sensing value).Distinct := by
    simp [sensing, Json.Distinct, Json.DistinctItems, Json.DistinctMembers, Keyed.keys, atom]
  have blank : PageRecord.Grammar (.obj []) := by
    apply PageRecord.Grammar.obj <;> simp
  have rule : RuleRecord.Grammar (.obj [("S", .str "Eyes")]) := by
    apply RuleRecord.Grammar.obj <;> simp
  have page : PageRecord.Grammar (.obj [("R", .arr [.obj [("S", .str "Eyes")]])]) := by
    apply PageRecord.Grammar.obj <;> simp [rule]
  have inside : BrainRecord.Grammar (sensing (.str "Eyes")) := .obj rfl (by simp [page, blank])
  have outside : ¬ BrainRecord.Grammar (sensing .null) := by
    rintro ⟨_, pages⟩
    obtain @⟨_, _, areRules⟩ := pages _ (.head _)
    obtain ⟨items, isList, rules⟩ := areRules _ (.head _)
    obtain rfl := Json.arr.inj isList
    obtain @⟨_, _, _, isSensor, _⟩ := rules _ (.head _)
    obtain ⟨id, isId⟩ := isSensor _ (.head _)
    cases isId
  have distinctText := distinct (.str "Eyes") trivial
  have distinctNull := distinct .null trivial
  exact ⟨distinctText, (acceptsExactly distinctText).2.2.accepts_iff.mpr inside, distinctNull,
    (acceptsExactly distinctNull).2.2.refuses outside⟩

end TileBrain
