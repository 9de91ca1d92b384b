import TileBrain.Proofs.Tile.Verbatim

/-! # Constraint blocks come back from their layout

What is laid out for a block of the right types is read again. A layout holds the key and the value
of a handling entry and nothing more, so an entry without a known meaning whose key and value have
one comes back with that meaning; everything else comes back as it was. `Constraints.comesBack` says
so, and that blocks without such entries are exactly those that come back unchanged.
-/

namespace TileBrain

namespace Handling

/-- The key has a meaning for values of this type, which the entry does not have. -/
inductive Disguised : Handling → Prop
  | terminal (flag : Bool) : Disguised (.unknown "terminal" (.bool flag))
  | maxCount (count : Int) : Disguised (.unknown "max-count" (.int count))

/-- The entry with the meaning that its key and its value call for. -/
def revealed : Handling → Handling
  | .unknown "terminal" (.bool flag) => .terminal flag
  | .unknown "max-count" (.int count) => .maxCount count
  | entry => entry

private theorem revealed_of_not_disguised {entry : Handling} (plain : ¬ entry.Disguised) :
    entry.revealed = entry := by
  unfold revealed
  split
  next flag => exact absurd (.terminal flag) plain
  next count => exact absurd (.maxCount count) plain
  next => rfl

theorem revealed_eq_iff {entry : Handling} :
    entry.revealed = entry ↔ ¬ entry.Disguised := by
  refine ⟨?_, revealed_of_not_disguised⟩
  rintro same (flag | count)
  · cases same
  · cases same

/-- Nothing but key and value decides which meaning an entry is read with. -/
private theorem ofValue_key_value (entry : Handling) :
    ofValue entry.key entry.value = entry.revealed := by
  cases entry with
  | terminal flag => rfl
  | maxCount count => rfl
  | unknown key value =>
    by_cases disguised : (unknown key value).Disguised
    · cases disguised <;> rfl
    · -- A known key with another type of value, or the type alone, gives no meaning.
      rw [revealed_of_not_disguised disguised]
      change ofValue key value = _
      unfold ofValue
      split
      next flag =>
        refine if_neg ?_
        rintro rfl
        exact disguised (.terminal flag)
      next count =>
        refine if_neg ?_
        rintro rfl
        exact disguised (.maxCount count)
      next => rfl

@[simp] theorem key_revealed (entry : Handling) : entry.revealed.key = entry.key := by
  rw [← ofValue_key_value, key_ofValue]

@[simp] theorem value_revealed (entry : Handling) : entry.revealed.value = entry.value := by
  rw [← ofValue_key_value, value_ofValue]

/-- An entry ends its chain once its meaning is known. -/
theorem isTerminal_revealed_iff (entry : Handling) :
    entry.revealed.isTerminal = true ↔
      entry.isTerminal = true ∨ entry = .unknown "terminal" (.bool true) := by
  by_cases disguised : entry.Disguised
  · cases disguised <;> simp [revealed, isTerminal]
  · rw [revealed_of_not_disguised disguised]
    refine ⟨.inl, ?_⟩
    rintro (ends | rfl)
    · exact ends
    · exact absurd (.terminal true) disguised

end Handling

/-- The fields of a selector spell it. -/
theorem Selector.spelledBy_fields (selector : Selector) :
    selector.SpelledBy (Keyed.present selector.fields) where
  tiles := .of_field (Keyed.get?_present (by simp [fields, Keyed.keys]) (.head _))
  categories := .of_field (Keyed.get?_present (by simp [fields, Keyed.keys]) (.tail _ (.head _)))

namespace Constraints

variable {block : Constraints} {members : List (String × Json)}

/-- The block with the meanings that its handling entries call for. -/
def revealed (block : Constraints) : Constraints where
  provides := block.provides
  requires := block.requires
  allow := block.allow
  disallow := block.disallow
  handling := block.handling.map Handling.revealed
  keys_distinct := by
    have keys : (block.handling.map Handling.revealed).map Handling.key =
        block.handling.map Handling.key := by
      simp
    exact keys ▸ block.keys_distinct

private theorem WellTyped.revealed (typed : block.WellTyped) : block.revealed.WellTyped where
  provides := typed.provides
  requires := typed.requires
  allow := typed.allow
  disallow := typed.disallow
  handling := by
    intro entry member
    obtain ⟨original, isOriginal, rfl⟩ := List.mem_map.mp member
    exact original.value_revealed.symm ▸ typed.handling original isOriginal

theorem nodup_keys_fields (block : Constraints) : (Keyed.keys block.fields).Nodup := by
  simp [fields, Keyed.keys]

/-- The fields of a block spell it, up to the meanings of handling entries. -/
theorem spelledBy_fields (block : Constraints) :
    block.revealed.SpelledBy (Keyed.present block.fields) := by
  have found {key : String} {value : Option Json} (member : (key, value) ∈ block.fields) :
      Keyed.get? (Keyed.present block.fields) key = value :=
    Keyed.get?_present block.nodup_keys_fields member
  have entries : block.revealed.handling =
      (block.handling.map Handling.entry).map fun entry => Handling.ofValue entry.1 entry.2 := by
    simp [revealed, Handling.entry, Handling.ofValue_key_value]
  exact {
    provides := .of_field (found (.head _))
    requires := .of_field (found (.tail _ (.head _)))
    allow := ⟨_, .of_field (found (.tail _ (.tail _ (.head _)))), block.allow.spelledBy_fields⟩
    disallow := ⟨_, .of_field (found (.tail _ (.tail _ (.tail _ (.head _))))),
      block.disallow.spelledBy_fields⟩
    handling := ⟨_, .of_field (found (.tail _ (.tail _ (.tail _ (.tail _ (.head _)))))), entries⟩ }

/-- Members that spell a block of the right types are read as that block. -/
theorem SpelledBy.read (spelled : block.SpelledBy members) (typed : block.WellTyped) :
    ofJson (.obj members) = .ok block := by
  have keys (entries : List (String × Json))
      (found : Json.SpelledAt members "handling" .obj entries) : (Keyed.keys entries).Nodup := by
    rw [found.unique Json.obj_injective spelled.entries, Keyed.keys, List.map_map]
    exact block.keys_distinct
  have ends := ofMembers_ends keys
  change ofMembers members = .ok block
  cases outcome : ofMembers members with
  | ok image =>
    rw [outcome] at ends
    rw [ends.1.unique spelled]
  | error fault =>
    rw [outcome] at ends
    exact absurd ends (spelled.layout typed).not_cites

/-- What is laid out for a block is read as the block with the meanings that its handling entries
call for. -/
theorem ofJson_toJson (typed : block.WellTyped) : ofJson block.toJson = .ok block.revealed := by
  rw [toJson_eq_present]
  exact block.spelledBy_fields.read typed.revealed

theorem revealed_eq_iff :
    block.revealed = block ↔ ∀ entry ∈ block.handling, ¬ entry.Disguised := by
  have handling : block.revealed = block ↔
      block.handling.map Handling.revealed = block.handling.map id := by
    rw [List.map_id]
    obtain ⟨_, _, _, _, _, _⟩ := block
    simp [revealed]
  rw [handling, List.map_inj_left]
  exact forall₂_congr fun entry _ => Handling.revealed_eq_iff

private theorem handlingFor?_revealed (block : Constraints) (key : String) :
    block.revealed.handlingFor? key = (block.handlingFor? key).map Handling.revealed := by
  have sameKey : (fun entry : Handling => decide (entry.key = key)) ∘ Handling.revealed =
      fun entry => decide (entry.key = key) := by
    funext entry
    rw [Function.comp_apply, Handling.key_revealed]
  change (block.handling.map Handling.revealed).find? (·.key = key) = _
  rw [List.find?_map, sameKey]
  rfl

theorem isTerminal_revealed_iff (block : Constraints) :
    block.revealed.isTerminal = true ↔ block.isTerminal = true ∨
      block.handlingFor? "terminal" = some (.unknown "terminal" (.bool true)) := by
  have lookup := block.handlingFor?_revealed Handling.terminalKey
  rw [isTerminal, isTerminal, lookup]
  change _ ↔ _ ∨ block.handlingFor? Handling.terminalKey = _
  cases block.handlingFor? Handling.terminalKey with
  | none => simp
  | some entry =>
    simp only [Option.map_some, Option.any_some, Option.some.injEq]
    exact entry.isTerminal_revealed_iff

/-- The layout of the block is read as the block with its handling entries revealed. -/
structure ComesBack (block : Constraints) : Prop where
  read : ofJson block.toJson = .ok block.revealed
  same_iff : ofJson block.toJson = .ok block ↔ ∀ entry ∈ block.handling, ¬ entry.Disguised
  handlingFor? : ∀ key,
    block.revealed.handlingFor? key = (block.handlingFor? key).map Handling.revealed
  isTerminal_iff : block.revealed.isTerminal = true ↔ block.isTerminal = true ∨
    block.handlingFor? "terminal" = some (.unknown "terminal" (.bool true))

theorem comesBack (typed : block.WellTyped) : ComesBack block where
  read := ofJson_toJson typed
  same_iff := by rw [ofJson_toJson typed, Except.ok.injEq, revealed_eq_iff]
  handlingFor? := block.handlingFor?_revealed
  isTerminal_iff := block.isTerminal_revealed_iff

/-- A block whose entries have no known meaning, whatever their keys. -/
def oddHandling : Constraints where
  provides := [.str "target"]
  requires := []
  allow := ⟨[], [.str "filter"]⟩
  disallow := .empty
  handling := [.unknown "terminal" (.int 1), .unknown "speed" (.float (.finite false 3 (-1))),
    .unknown "max-count" (.bool true)]
  keys_distinct := by decide

/-- Values of the wrong type come back as they are. -/
theorem comesBack_oddHandling :
    oddHandling.WellTyped ∧ ofJson oddHandling.toJson = .ok oddHandling := by
  have typed : oddHandling.WellTyped := by decide
  refine ⟨typed, (comesBack typed).same_iff.mpr ?_⟩
  simp only [← Handling.revealed_eq_iff]
  decide

/-- A block that has the key and the value of an end, but not its meaning. -/
def disguisedEnd : Constraints where
  provides := []
  requires := []
  allow := .empty
  disallow := .empty
  handling := [.unknown "terminal" (.bool true)]
  keys_distinct := by decide

/-- A disguised entry does not come back as it was, and what comes back ends its chain. -/
theorem not_same_disguisedEnd :
    disguisedEnd.WellTyped ∧ ∃ image, ofJson disguisedEnd.toJson = .ok image ∧
      image ≠ disguisedEnd ∧ image.isTerminal ≠ disguisedEnd.isTerminal ∧
      image.handlingFor? "terminal" ≠ disguisedEnd.handlingFor? "terminal" :=
  ⟨by decide, _, rfl, by decide, by decide, by decide⟩

end Constraints

end TileBrain
