import TileBrain.Proofs.Json.Sameness
import TileBrain.Proofs.Tile.Reading

/-! # Constraint blocks are written back as they were read

An object is read as a block if and only if it has the keyed layout. What is written for the block
is the object again, less the keys that belong to no block and whatever is empty:
`Constraints.keepsLayout` says both. Handling entries keep their order and their values, whether or
not they have a meaning.
-/

namespace TileBrain

/-- Both lists of a selector may be left out. -/
inductive Selector.Layout : Json → Prop
  | obj {members : List (String × Json)} (tiles : Json.FitsAt members "tiles" Json.IsStrings)
    (categories : Json.FitsAt members "categories" Json.IsStrings) : Layout (.obj members)

/-- Any key may have any scalar. -/
inductive Handling.Layout : Json → Prop
  | obj {entries : List (String × Json)} (values : ∀ entry ∈ entries, entry.2.Scalar) :
    Layout (.obj entries)

/-- Every part of a block may be left out, and any other key may have any value. -/
structure Constraints.Layout (members : List (String × Json)) : Prop where
  provides : Json.FitsAt members "provides" Json.IsStrings
  requires : Json.FitsAt members "requires" Json.IsStrings
  allow : Json.FitsAt members "allow" Selector.Layout
  disallow : Json.FitsAt members "disallow" Selector.Layout
  handling : Json.FitsAt members "handling" Handling.Layout

namespace Constraints

variable {members : List (String × Json)}

theorem SpelledBy.layout {block : Constraints} (spelled : block.SpelledBy members)
    (typed : block.WellTyped) : Layout members := by
  obtain ⟨allow, foundAllow, isAllow⟩ := spelled.allow
  obtain ⟨disallow, foundDisallow, isDisallow⟩ := spelled.disallow
  obtain ⟨entries, foundEntries, areEntries⟩ := spelled.handling
  have scalars : ∀ entry ∈ entries, entry.2.Scalar := by
    intro entry member
    have isEntry : Handling.ofValue entry.1 entry.2 ∈ block.handling :=
      areEntries ▸ List.mem_map_of_mem member
    have isScalar := typed.handling _ isEntry
    rwa [Handling.value_ofValue] at isScalar
  exact {
    provides := spelled.provides.fitsAt typed.provides
    requires := spelled.requires.fitsAt typed.requires
    allow := foundAllow.fitsAt (.obj (isAllow.tiles.fitsAt typed.allow.tiles)
      (isAllow.categories.fitsAt typed.allow.categories))
    disallow := foundDisallow.fitsAt (.obj (isDisallow.tiles.fitsAt typed.disallow.tiles)
      (isDisallow.categories.fitsAt typed.disallow.categories))
    handling := foundEntries.fitsAt (.obj scalars) }

/-- Nothing can be cited about an object that has the layout. -/
theorem Layout.not_cites (layout : Layout members) {fault : ConstraintsFault} :
    ¬ fault.Cites members := by
  have selector {key : String} (isSelector : key ∈ ["allow", "disallow"]) :
      Json.FitsAt members key Selector.Layout := by
    simp only [List.mem_cons, List.not_mem_nil, or_false] at isSelector
    rcases isSelector with rfl | rfl
    · exact layout.allow
    · exact layout.disallow
  intro cites
  cases cites with
  | selector isSelector wrong =>
    apply wrong
    intro value found
    cases selector isSelector value found
    exact ⟨_, rfl⟩
  | handling wrong =>
    apply wrong
    intro value found
    cases layout.handling value found
    exact ⟨_, rfl⟩
  | list isList wrong =>
    simp only [List.mem_cons, List.not_mem_nil, or_false] at isList
    rcases isList with rfl | rfl
    · exact wrong layout.provides
    · exact wrong layout.requires
  | selectorList isSelector isList found wrong =>
    simp only [List.mem_cons, List.not_mem_nil, or_false] at isList
    obtain ⟨tiles, categories⟩ := selector isSelector _ found
    rcases isList with rfl | rfl
    · exact wrong tiles
    · exact wrong categories
  | scalar found inside wrong =>
    obtain ⟨values⟩ := layout.handling _ found
    exact wrong (values _ inside)

end Constraints

namespace Json

/-- Whether a value is a list or an object without contents. -/
def isBare : Json → Bool
  | .arr [] => true
  | .obj [] => true
  | _ => false

/-- The members under certain keys, each in the form in which it is kept, less those that are then
bare. -/
def select (parts : List (String × (Json → Json))) (members : List (String × Json)) :
    List (String × Json) :=
  Keyed.present (parts.map fun part =>
    (part.1, ((Keyed.get? members part.1).map part.2).filter (!·.isBare)))

/-- What is written for a list of parts, if there are any. -/
def field {α : Type} (encode : List α → Json) (parts : List α) : Option Json :=
  if parts.isEmpty then none else some (encode parts)

section Field

variable {α : Type} {encode : List α → Json} {parts : List α} {members : List (String × Json)}
  {key : String}

private theorem isBare_arr (items : List Json) : (arr items).isBare = items.isEmpty := by
  cases items <;> rfl

private theorem isBare_obj (members : List (String × Json)) :
    (obj members).isBare = members.isEmpty := by
  cases members <;> rfl

private theorem field_eq_filter (bare : (encode parts).isBare = parts.isEmpty) :
    field encode parts = (some (encode parts)).filter (!·.isBare) := by
  rw [field, Option.filter_some, bare]
  cases parts <;> rfl

/-- What is written for the parts is what was found under their key, unless that is bare. -/
private theorem SpelledAt.field_eq (spelled : SpelledAt members key encode parts)
    (bare : (encode parts).isBare = parts.isEmpty) :
    field encode parts = ((Keyed.get? members key).map id).filter (!·.isBare) := by
  rcases spelled with ⟨absent, rfl⟩ | found
  · rw [absent]
    rfl
  · rw [found]
    exact field_eq_filter bare

/-- Under the key of a field its parts are found again. -/
theorem SpelledAt.of_field (found : Keyed.get? members key = field encode parts) :
    SpelledAt members key encode parts := by
  cases parts with
  | nil => exact .inl ⟨found, rfl⟩
  | cons part rest => exact .inr found

end Field

end Json

private theorem listMember_eq (key : String) (items : List Json) :
    listMember key items = ((Json.field .arr items).map (key, ·)).toList := by
  unfold listMember Json.field
  split <;> rfl

namespace Selector

variable {selector : Selector} {members inner : List (String × Json)}

/-- What remains of a selector. -/
def condensed : Json → Json
  | .obj members => .obj (Json.select [("tiles", id), ("categories", id)] members)
  | json => json

/-- The keys of a selector, with what is written for each. -/
def fields (selector : Selector) : List (String × Option Json) :=
  [("tiles", Json.field .arr selector.tiles), ("categories", Json.field .arr selector.categories)]

theorem toJson_eq_present (selector : Selector) :
    selector.toJson = .obj (Keyed.present selector.fields) := by
  simp only [toJson, fields, listMember_eq, Keyed.present_cons, Keyed.present_nil, List.append_nil]

private theorem isEmpty_present_fields (selector : Selector) :
    (Keyed.present selector.fields).isEmpty = selector.isEmpty := by
  obtain ⟨tiles, categories⟩ := selector
  cases tiles <;> cases categories <;> rfl

private theorem member_eq (key : String) (selector : Selector) :
    selector.member key =
      ((Json.field .obj (Keyed.present selector.fields)).map (key, ·)).toList := by
  rw [member, Json.field, toJson_eq_present, isEmpty_present_fields]
  split <;> rfl

private theorem SpelledBy.present_fields (spelled : selector.SpelledBy members) :
    Keyed.present selector.fields =
      Json.select [("tiles", id), ("categories", id)] members := by
  rw [fields, spelled.tiles.field_eq (Json.isBare_arr _),
    spelled.categories.field_eq (Json.isBare_arr _)]
  rfl

/-- What is written for a selector is what remains of what was found under its key, unless that is
bare. -/
private theorem SpelledBy.field_eq {key : String} (isSelector : selector.SpelledBy inner)
    (spelled : Json.SpelledAt members key .obj inner) :
    Json.field .obj (Keyed.present selector.fields) =
      ((Keyed.get? members key).map condensed).filter (!·.isBare) := by
  rw [isSelector.present_fields]
  rcases spelled with ⟨absent, rfl⟩ | found
  · rw [absent]
    rfl
  · rw [found]
    exact Json.field_eq_filter (Json.isBare_obj _)

end Selector

/-- A handling entry as it is written. -/
def Handling.entry (handling : Handling) : String × Json := (handling.key, handling.value)

/-- Entries are written with the keys and the values that they were read from. -/
private theorem Handling.map_entry_ofValue (entries : List (String × Json)) :
    (entries.map fun entry => ofValue entry.1 entry.2).map Handling.entry = entries := by
  simp only [List.map_map, Function.comp_def, entry, key_ofValue, value_ofValue, Prod.eta,
    List.map_id']

namespace Constraints

variable {block : Constraints} {members : List (String × Json)}

/-- What remains of an object that has the keyed layout. -/
def condensed (members : List (String × Json)) : Json :=
  .obj (Json.select [("provides", id), ("requires", id), ("allow", Selector.condensed),
    ("disallow", Selector.condensed), ("handling", id)] members)

/-- The keys of a block, with what is written for each. -/
def fields (block : Constraints) : List (String × Option Json) :=
  [("provides", Json.field .arr block.provides), ("requires", Json.field .arr block.requires),
    ("allow", Json.field .obj (Keyed.present block.allow.fields)),
    ("disallow", Json.field .obj (Keyed.present block.disallow.fields)),
    ("handling", Json.field .obj (block.handling.map Handling.entry))]

theorem toJson_eq_present (block : Constraints) :
    block.toJson = .obj (Keyed.present block.fields) := by
  have handling : (if block.handling.isEmpty then [] else
      [("handling", Json.obj (block.handling.map Handling.entry))]) =
        ((Json.field .obj (block.handling.map Handling.entry)).map ("handling", ·)).toList := by
    rw [Json.field, List.isEmpty_map]
    split <;> rfl
  change Json.obj (_ ++ (if block.handling.isEmpty then [] else
    [("handling", Json.obj (block.handling.map Handling.entry))])) = _
  simp only [handling, fields, listMember_eq, Selector.member_eq, Keyed.present_cons,
    Keyed.present_nil, List.append_nil, List.append_assoc]

/-- The handling entries of a block stand in the object that spells it, in the same order. -/
theorem SpelledBy.entries (spelled : block.SpelledBy members) :
    Json.SpelledAt members "handling" .obj (block.handling.map Handling.entry) := by
  obtain ⟨entries, foundEntries, areEntries⟩ := spelled.handling
  rw [areEntries, Handling.map_entry_ofValue]
  exact foundEntries

/-- A block is written as what remains of the object that spells it. -/
theorem SpelledBy.toJson_eq (spelled : block.SpelledBy members) :
    block.toJson = condensed members := by
  obtain ⟨allow, foundAllow, isAllow⟩ := spelled.allow
  obtain ⟨disallow, foundDisallow, isDisallow⟩ := spelled.disallow
  rw [toJson_eq_present, fields, spelled.provides.field_eq (Json.isBare_arr _),
    spelled.requires.field_eq (Json.isBare_arr _), isAllow.field_eq foundAllow,
    isDisallow.field_eq foundDisallow, spelled.entries.field_eq (Json.isBare_obj _)]
  rfl

/-- An object is read as a block if it has the layout, and reading ends with a fault of the object
if it does not. The block has the handling entries of the object, key by key and value by value, and
it is written as what remains of the object. -/
structure KeepsLayout (members : List (String × Json)) : Prop where
  accepts_iff : (∃ block, ofJson (.obj members) = .ok block) ↔ Layout members
  refuses : ¬ Layout members → ∃ fault, ofJson (.obj members) = .error fault ∧ fault.Cites members
  entries : ∀ block, ofJson (.obj members) = .ok block →
    Json.SpelledAt members "handling" .obj (block.handling.map Handling.entry)
  writes : ∀ block, ofJson (.obj members) = .ok block → block.toJson = condensed members

/-- Whatever stands in an object, it is read in accordance with the layout and written back. -/
theorem keepsLayout (distinct : (Json.obj members).Distinct) : KeepsLayout members := by
  -- Keys that repeat in handling are the one further fault of a block; a mapping has none.
  have keys (entries : List (String × Json))
      (spelled : Json.SpelledAt members "handling" .obj entries) : (Keyed.keys entries).Nodup := by
    rcases spelled with ⟨_, rfl⟩ | found
    · exact .nil
    · exact (distinct.get? found).1
  have ends := ofMembers_ends keys
  change Ends _ _ (ofJson (.obj members)) at ends
  cases outcome : ofJson (.obj members) with
  | ok block =>
    rw [outcome] at ends
    obtain ⟨spelled, typed⟩ := ends
    have only (other : Constraints) (read : ofJson (.obj members) = .ok other) : other = block :=
      Except.ok.inj (read.symm.trans outcome)
    exact {
      accepts_iff := ⟨fun _ => spelled.layout typed, fun _ => ⟨block, outcome⟩⟩
      refuses := absurd (spelled.layout typed)
      entries := fun other read => only other read ▸ spelled.entries
      writes := fun other read => only other read ▸ spelled.toJson_eq }
  | error fault =>
    rw [outcome] at ends
    have unread (block : Constraints) : ofJson (.obj members) ≠ .ok block :=
      fun read => nomatch outcome.symm.trans read
    exact {
      accepts_iff := ⟨fun ⟨_, read⟩ => absurd read (unread _), fun layout =>
        absurd ends layout.not_cites⟩
      refuses := fun _ => ⟨fault, outcome, ends⟩
      entries := fun block read => absurd read (unread block)
      writes := fun block read => absurd read (unread block) }

/-- An object with parts that have the wrong types, keys without a meaning, and parts that are
bare. -/
def mixedLayout : List (String × Json) :=
  [("handling", .obj [("speed", .float (.finite false 3 (-1))), ("terminal", .int 1),
      ("max-count", .bool true)]),
    ("disallow", .obj [("tiles", .arr [])]), ("note", .null), ("provides", .arr []),
    ("allow", .obj [("tiles", .arr []), ("categories", .strings ["sensor"])])]

/-- Of a mixed object the lists with items and all handling values remain. Without a scalar in
handling it is refused. -/
theorem keepsLayout_mixedLayout :
    (Json.obj mixedLayout).Distinct ∧
      (∃ block, ofJson (.obj mixedLayout) = .ok block ∧ block.toJson = .obj
        [("allow", .obj [("categories", .strings ["sensor"])]),
          ("handling", .obj [("speed", .float (.finite false 3 (-1))), ("terminal", .int 1),
            ("max-count", .bool true)])]) ∧
      (Json.obj [("handling", .obj [("terminal", .null)])]).Distinct ∧
      ∃ fault, ofJson (.obj [("handling", .obj [("terminal", .null)])]) = .error fault ∧
        fault.Cites [("handling", .obj [("terminal", .null)])] := by
  have distinct : (Json.obj mixedLayout).Distinct := by
    simp [mixedLayout, Json.Distinct, Json.DistinctMembers, Json.strings, Json.DistinctItems,
      Keyed.keys]
  have distinctNull : (Json.obj [("handling", .obj [("terminal", .null)])]).Distinct := by
    simp [Json.Distinct, Json.DistinctMembers, Keyed.keys]
  have outside : ¬ Layout [("handling", .obj [("terminal", .null)])] := by
    intro layout
    obtain ⟨values⟩ := layout.handling _ rfl
    cases values _ (.head _)
  have inside : Layout mixedLayout := by
    constructor
    · rintro _ ⟨⟩
      exact ⟨[], rfl⟩
    · rintro _ ⟨⟩
    · rintro _ ⟨⟩
      constructor
      · rintro _ ⟨⟩
        exact ⟨[], rfl⟩
      · rintro _ ⟨⟩
        exact ⟨["sensor"], rfl⟩
    · rintro _ ⟨⟩
      constructor
      · rintro _ ⟨⟩
        exact ⟨[], rfl⟩
      · rintro _ ⟨⟩
    · rintro _ ⟨⟩
      constructor
      rintro _ (_ | ⟨_, _ | ⟨_, _ | ⟨_, ⟨⟩⟩⟩⟩)
      · exact .float _
      · exact .int 1
      · exact .bool true
  obtain ⟨block, read⟩ := (keepsLayout distinct).accepts_iff.mpr inside
  exact ⟨distinct, ⟨block, read, (keepsLayout distinct).writes block read⟩, distinctNull,
    (keepsLayout distinctNull).refuses outside⟩

end Constraints

end TileBrain
