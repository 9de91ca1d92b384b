import Mathlib.Data.Set.List
import TileBrain.Proofs.Keyed
import TileBrain.Tile.ConstraintsLayout

/-! # Which constraint blocks are read

A block is read from the members that spell it, and from no others. If there is no such block, the
fault that reading ends with cites what is wrong with the members. Each reader has a lemma about
both of its ends, and `Constraints.ofMembers_ends` puts them together.

A success and a fault are followed together: `Ends` says which blocks a reader may end with and
which faults, and `Ends.bind` passes that on. Members that spell a block spell no other,
`Constraints.SpelledBy.unique`.
-/

namespace TileBrain

/-- A success has one property and a failure another. -/
def Ends {ε α : Type} (good : α → Prop) (bad : ε → Prop) : Except ε α → Prop
  | .ok value => good value
  | .error fault => bad fault

/-- What is read first is good for the rest, or its fault is one of the whole. -/
theorem Ends.bind {ε α β : Type} {good : α → Prop} {good' : β → Prop} {bad bad' : ε → Prop}
    {first : Except ε α} {next : α → Except ε β} (ends : Ends good bad first)
    (blames : ∀ fault, bad fault → bad' fault)
    (follows : ∀ value, good value → Ends good' bad' (next value)) :
    Ends good' bad' (first >>= next) := by
  cases first with
  | ok value => exact follows value ends
  | error fault => exact blames fault ends

namespace Json

/-- A list of strings. -/
def IsStrings (json : Json) : Prop := ∃ texts : List String, json = .strings texts

/-- An object. -/
def IsMapping (json : Json) : Prop := ∃ members, json = .obj members

/-- A string, a boolean or a number. -/
inductive Scalar : Json → Prop
  | str (text : String) : Scalar (.str text)
  | bool (flag : Bool) : Scalar (.bool flag)
  | int (count : Int) : Scalar (.int count)
  | float (number : Binary64) : Scalar (.float number)

private theorem arr_injective : Function.Injective arr := fun _ _ => arr.inj

theorem obj_injective : Function.Injective obj := fun _ _ => obj.inj

theorem isStrings_arr_iff {items : List Json} :
    (arr items).IsStrings ↔ ∀ item ∈ items, item.isString = true := by
  have range := Set.ext_iff.mp (Set.range_list_map str) items
  simp only [Set.mem_range, Set.mem_ofPred_eq] at range
  simp only [IsStrings, strings, arr.injEq, eq_comm (a := items), range, isString_iff,
    eq_comm (b := str _)]

theorem isScalar_iff {json : Json} : json.isScalar = true ↔ json.Scalar := by
  constructor
  · intro isScalar
    cases json with
    | str text => exact .str text
    | bool flag => exact .bool flag
    | int count => exact .int count
    | float number => exact .float number
    | _ => exact nomatch isScalar
  · rintro (_ | _ | _ | _) <;> rfl

instance (items : List Json) : Decidable (arr items).IsStrings :=
  decidable_of_iff _ isStrings_arr_iff.symm

instance (json : Json) : Decidable json.Scalar := decidable_of_iff _ isScalar_iff

section Members

variable {α : Type} (members : List (String × Json)) (key : String)

/-- What stands under the key is of a kind, if there is anything. -/
def FitsAt (kind : Json → Prop) : Prop := ∀ value, Keyed.get? members key = some value → kind value

/-- Under the key stand the parts, unless there are none and the key is left out. -/
def SpelledAt (encode : List α → Json) (parts : List α) : Prop :=
  Keyed.get? members key = none ∧ parts = [] ∨ Keyed.get? members key = some (encode parts)

variable {members key} {encode : List α → Json} {parts others : List α}

private theorem not_fitsAt {kind : Json → Prop} {value : Json}
    (found : Keyed.get? members key = some value) (wrong : ¬ kind value) :
    ¬ FitsAt members key kind :=
  fun fits => wrong (fits value found)

theorem SpelledAt.fitsAt (spelled : SpelledAt members key encode parts) {kind : Json → Prop}
    (isKind : kind (encode parts)) : FitsAt members key kind := by
  intro value isValue
  rcases spelled with ⟨absent, _⟩ | found
  · exact nomatch absent.symm.trans isValue
  · exact Option.some.inj (found.symm.trans isValue) ▸ isKind

private theorem SpelledAt.get?_of_mem (spelled : SpelledAt members key encode parts) {part : α}
    (member : part ∈ parts) : Keyed.get? members key = some (encode parts) := by
  rcases spelled with ⟨_, none⟩ | found
  · exact nomatch none ▸ member
  · exact found

/-- There is but one way to read what stands under a key. -/
theorem SpelledAt.unique (injective : encode.Injective)
    (spelled : SpelledAt members key encode parts)
    (spelledOther : SpelledAt members key encode others) : parts = others := by
  rcases spelled with ⟨absent, none⟩ | found
  · rcases spelledOther with ⟨_, noOthers⟩ | foundOther
    · rw [none, noOthers]
    · exact nomatch absent.symm.trans foundOther
  · rcases spelledOther with ⟨absent, _⟩ | foundOther
    · exact nomatch absent.symm.trans found
    · exact injective (Option.some.inj (found.symm.trans foundOther))

end Members

end Json

/-- A selector of strings. -/
structure Selector.WellTyped (selector : Selector) : Prop where
  tiles : (Json.arr selector.tiles).IsStrings
  categories : (Json.arr selector.categories).IsStrings

instance Selector.decidableWellTyped (selector : Selector) : Decidable selector.WellTyped :=
  decidable_of_iff (_ ∧ _) ⟨fun fields => ⟨fields.1, fields.2⟩, fun typed => ⟨typed.1, typed.2⟩⟩

/-- A block that lists strings and whose handling entries have scalars as their values. -/
structure Constraints.WellTyped (block : Constraints) : Prop where
  provides : (Json.arr block.provides).IsStrings
  requires : (Json.arr block.requires).IsStrings
  allow : block.allow.WellTyped
  disallow : block.disallow.WellTyped
  handling : ∀ entry ∈ block.handling, entry.value.Scalar

instance Constraints.decidableWellTyped (block : Constraints) : Decidable block.WellTyped :=
  decidable_of_iff (_ ∧ _ ∧ _ ∧ _ ∧ _)
    ⟨fun fields => ⟨fields.1, fields.2.1, fields.2.2.1, fields.2.2.2.1, fields.2.2.2.2⟩,
      fun typed => ⟨typed.1, typed.2, typed.3, typed.4, typed.5⟩⟩

/-- The members spell what the selector lists. -/
structure Selector.SpelledBy (selector : Selector) (members : List (String × Json)) : Prop where
  tiles : Json.SpelledAt members "tiles" .arr selector.tiles
  categories : Json.SpelledAt members "categories" .arr selector.categories

/-- The members spell what the block lists, and its handling entries by key and value. -/
structure Constraints.SpelledBy (block : Constraints) (members : List (String × Json)) : Prop where
  provides : Json.SpelledAt members "provides" .arr block.provides
  requires : Json.SpelledAt members "requires" .arr block.requires
  allow : ∃ inner, Json.SpelledAt members "allow" .obj inner ∧ block.allow.SpelledBy inner
  disallow : ∃ inner, Json.SpelledAt members "disallow" .obj inner ∧ block.disallow.SpelledBy inner
  handling : ∃ entries, Json.SpelledAt members "handling" .obj entries ∧
    block.handling = entries.map fun entry => Handling.ofValue entry.1 entry.2

/-- The members spell but one selector. -/
theorem Selector.SpelledBy.unique {selector other : Selector} {members : List (String × Json)}
    (spelled : selector.SpelledBy members) (spelledOther : other.SpelledBy members) :
    selector = other := by
  obtain ⟨_, _⟩ := selector
  obtain ⟨_, _⟩ := other
  rw [Selector.mk.injEq]
  exact ⟨spelled.tiles.unique Json.arr_injective spelledOther.tiles,
    spelled.categories.unique Json.arr_injective spelledOther.categories⟩

/-- The members spell but one block. -/
theorem Constraints.SpelledBy.unique {block other : Constraints}
    {members : List (String × Json)} (spelled : block.SpelledBy members)
    (spelledOther : other.SpelledBy members) : block = other := by
  obtain ⟨allow, foundAllow, isAllow⟩ := spelled.allow
  obtain ⟨disallow, foundDisallow, isDisallow⟩ := spelled.disallow
  obtain ⟨entries, foundEntries, areEntries⟩ := spelled.handling
  obtain ⟨allow', foundAllow', isAllow'⟩ := spelledOther.allow
  obtain ⟨disallow', foundDisallow', isDisallow'⟩ := spelledOther.disallow
  obtain ⟨entries', foundEntries', areEntries'⟩ := spelledOther.handling
  obtain rfl := foundAllow.unique Json.obj_injective foundAllow'
  obtain rfl := foundDisallow.unique Json.obj_injective foundDisallow'
  obtain rfl := foundEntries.unique Json.obj_injective foundEntries'
  obtain ⟨_, _, _, _, _, _⟩ := block
  obtain ⟨_, _, _, _, _, _⟩ := other
  rw [Constraints.mk.injEq]
  exact ⟨spelled.provides.unique Json.arr_injective spelledOther.provides,
    spelled.requires.unique Json.arr_injective spelledOther.requires,
    isAllow.unique isAllow', isDisallow.unique isDisallow', areEntries.trans areEntries'.symm⟩

/-- The fault is about a value that does not fit, and it names the key of a list or of a handling
value. -/
inductive ConstraintsFault.Cites (members : List (String × Json)) : ConstraintsFault → Prop
  | selector {key : String} (isSelector : key ∈ ["allow", "disallow"])
    (wrong : ¬ Json.FitsAt members key Json.IsMapping) : Cites members .selectorNotMapping
  | handling (wrong : ¬ Json.FitsAt members "handling" Json.IsMapping) :
    Cites members .handlingNotMapping
  | list {key : String} (isList : key ∈ ["provides", "requires"])
    (wrong : ¬ Json.FitsAt members key Json.IsStrings) : Cites members (.notStrings key)
  | selectorList {key part : String} {inner : List (String × Json)}
    (isSelector : key ∈ ["allow", "disallow"]) (isList : part ∈ ["tiles", "categories"])
    (found : Keyed.get? members key = some (.obj inner))
    (wrong : ¬ Json.FitsAt inner part Json.IsStrings) : Cites members (.notStrings part)
  | scalar {entries : List (String × Json)} {entry : String × Json}
    (found : Keyed.get? members "handling" = some (.obj entries)) (inside : entry ∈ entries)
    (wrong : ¬ entry.2.Scalar) : Cites members (.notScalar entry.1 entry.2.typeName)

section Readers

variable (members : List (String × Json)) (key : String)

private theorem readStrings_ends :
    Ends (fun items => Json.SpelledAt members key .arr items ∧ (Json.arr items).IsStrings)
      (fun fault => fault = .notStrings key ∧ ¬ Json.FitsAt members key Json.IsStrings)
      (readStrings members key) := by
  unfold readStrings
  split
  next absent => exact ⟨.inl ⟨absent, rfl⟩, [], rfl⟩
  next items found =>
    split
    next strings => exact ⟨.inr found, Json.isStrings_arr_iff.mpr (List.all_eq_true.mp strings)⟩
    next mixed =>
      refine ⟨rfl, Json.not_fitsAt found ?_⟩
      intro strings
      exact mixed (List.all_eq_true.mpr (Json.isStrings_arr_iff.mp strings))
  next value noList found =>
    refine ⟨rfl, Json.not_fitsAt found ?_⟩
    rintro ⟨texts, rfl⟩
    exact noList _ rfl

private theorem Constraints.readMembers_ends (wrong : ConstraintsFault) :
    Ends (Json.SpelledAt members key .obj)
      (fun fault => fault = wrong ∧ ¬ Json.FitsAt members key Json.IsMapping)
      (readMembers members key wrong) := by
  unfold readMembers
  split
  next absent => exact .inl ⟨absent, rfl⟩
  next inner found => exact .inr found
  next value noObject found =>
    refine ⟨rfl, Json.not_fitsAt found ?_⟩
    rintro ⟨inner, rfl⟩
    exact noObject inner rfl

theorem Selector.ofMembers_ends :
    Ends (fun selector => selector.SpelledBy members ∧ selector.WellTyped)
      (fun fault => ∃ part ∈ ["tiles", "categories"],
        fault = .notStrings part ∧ ¬ Json.FitsAt members part Json.IsStrings)
      (ofMembers members) := by
  apply (readStrings_ends members "tiles").bind
  · intro fault wrong
    exact ⟨"tiles", by simp, wrong⟩
  intro tiles ⟨spelledTiles, areTexts⟩
  apply (readStrings_ends members "categories").bind
  · intro fault wrong
    exact ⟨"categories", by simp, wrong⟩
  intro categories ⟨spelledCategories, areCategories⟩
  exact ⟨⟨spelledTiles, spelledCategories⟩, areTexts, areCategories⟩

private theorem Handling.ofJson_ends (value : Json) :
    Ends (fun entry => value.Scalar ∧ entry = ofValue key value)
      (fun fault => ¬ value.Scalar ∧ fault = .notScalar key value.typeName)
      (ofJson key value) := by
  unfold ofJson
  split
  next isScalar => exact ⟨Json.isScalar_iff.mp isScalar, rfl⟩
  next notScalar => exact ⟨mt Json.isScalar_iff.mpr notScalar, rfl⟩

/-- Entries are read one by one, up to the first whose value is no scalar. -/
private theorem Handling.mapM_ofJson_ends (entries : List (String × Json)) :
    Ends (fun handling => (∀ entry ∈ entries, entry.2.Scalar) ∧
        handling = entries.map fun entry => ofValue entry.1 entry.2)
      (fun fault => ∃ entry ∈ entries, ¬ entry.2.Scalar ∧
        fault = .notScalar entry.1 entry.2.typeName)
      (entries.mapM fun (key, value) => ofJson key value) := by
  induction entries with
  | nil => exact ⟨nofun, rfl⟩
  | cons entry rest ih =>
    obtain ⟨key, value⟩ := entry
    rw [List.mapM_cons]
    apply (ofJson_ends key value).bind
    · intro fault wrong
      exact ⟨(key, value), List.mem_cons_self, wrong⟩
    rintro _ ⟨isScalar, rfl⟩
    apply ih.bind
    · rintro fault ⟨entry, member, wrong⟩
      exact ⟨entry, List.mem_cons_of_mem _ member, wrong⟩
    rintro _ ⟨areScalars, rfl⟩
    exact ⟨List.forall_mem_cons.mpr ⟨isScalar, areScalars⟩, rfl⟩

end Readers

namespace ConstraintsFault

variable {members : List (String × Json)} {key : String}

private theorem cites_of_selector (isSelector : key ∈ ["allow", "disallow"])
    (fault : ConstraintsFault)
    (wrong : fault = .selectorNotMapping ∧ ¬ Json.FitsAt members key Json.IsMapping) :
    fault.Cites members :=
  wrong.1 ▸ .selector isSelector wrong.2

private theorem cites_of_list (isList : key ∈ ["provides", "requires"]) (fault : ConstraintsFault)
    (wrong : fault = .notStrings key ∧ ¬ Json.FitsAt members key Json.IsStrings) :
    fault.Cites members :=
  wrong.1 ▸ .list isList wrong.2

private theorem cites_of_selectorList (isSelector : key ∈ ["allow", "disallow"])
    {inner : List (String × Json)} (spelled : Json.SpelledAt members key .obj inner)
    (fault : ConstraintsFault) (wrong : ∃ part ∈ ["tiles", "categories"],
      fault = .notStrings part ∧ ¬ Json.FitsAt inner part Json.IsStrings) :
    fault.Cites members := by
  obtain ⟨part, isList, rfl, noStrings⟩ := wrong
  rcases spelled with ⟨_, rfl⟩ | found
  · exact absurd nofun noStrings
  · exact .selectorList isSelector isList found noStrings

end ConstraintsFault

namespace Constraints

open ConstraintsFault

variable {members : List (String × Json)}

/-- Reading ends with a block of the right types that the members spell, or with a fault of
theirs. -/
theorem ofMembers_ends (distinct : ∀ entries,
    Json.SpelledAt members "handling" .obj entries → (Keyed.keys entries).Nodup) :
    Ends (fun block => block.SpelledBy members ∧ block.WellTyped) (Cites members)
      (ofMembers members) := by
  apply (readMembers_ends members "allow" _).bind (cites_of_selector (by simp))
  intro allow spelledAllow
  apply (readMembers_ends members "disallow" _).bind (cites_of_selector (by simp))
  intro disallow spelledDisallow
  apply (readMembers_ends members "handling" _).bind
  · rintro _ ⟨rfl, noMapping⟩
    exact .handling noMapping
  intro entries spelledEntries
  apply (readStrings_ends members "provides").bind (cites_of_list (by simp))
  intro provides ⟨spelledProvides, areProvided⟩
  apply (readStrings_ends members "requires").bind (cites_of_list (by simp))
  intro requires ⟨spelledRequires, areRequired⟩
  apply (Selector.ofMembers_ends allow).bind (cites_of_selectorList (by simp) spelledAllow)
  intro allowed ⟨isAllowed, typedAllow⟩
  apply (Selector.ofMembers_ends disallow).bind (cites_of_selectorList (by simp) spelledDisallow)
  intro disallowed ⟨isDisallowed, typedDisallow⟩
  apply (Handling.mapM_ofJson_ends entries).bind
  · rintro _ ⟨entry, member, wrong, rfl⟩
    exact .scalar (spelledEntries.get?_of_mem member) member wrong
  rintro _ ⟨areScalars, rfl⟩
  have keys : (entries.map fun entry => Handling.ofValue entry.1 entry.2).map Handling.key =
      Keyed.keys entries := by
    simp [Keyed.keys]
  rw [ofParts, dif_pos (keys ▸ distinct entries spelledEntries)]
  refine ⟨⟨spelledProvides, spelledRequires, ⟨allow, spelledAllow, isAllowed⟩,
    ⟨disallow, spelledDisallow, isDisallowed⟩, ⟨entries, spelledEntries, rfl⟩⟩, ?_⟩
  refine ⟨areProvided, areRequired, typedAllow, typedDisallow, ?_⟩
  intro entry member
  obtain ⟨pair, isPair, rfl⟩ := List.mem_map.mp member
  exact (Handling.value_ofValue pair.1 pair.2).symm ▸ areScalars pair isPair

end Constraints

end TileBrain
