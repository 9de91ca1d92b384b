import Mathlib.Data.List.Induction
import Mathlib.Data.List.Nodup
import TileBrain.Keyed

/-! # Entering and leaving out

Entries under new keys are only appended, and of what is entered under one key the last counts.
`present` leaves out the fields that have no value, which is how records are stored: a field is
found again under its key, as a value or as missing. Where no key repeats, what is found under a key
is the entry under that key.
-/

namespace TileBrain.Keyed

variable {κ β : Type}

/-- The fields that have a value. -/
def present (fields : List (κ × Option β)) : List (κ × β) :=
  fields.filterMap fun field => field.2.map (field.1, ·)

@[simp] theorem present_nil : present ([] : List (κ × Option β)) = [] := rfl

theorem present_cons (field : κ × Option β) (rest : List (κ × Option β)) :
    present (field :: rest) = (field.2.map (field.1, ·)).toList ++ present rest := by
  obtain ⟨key, value⟩ := field
  cases value <;> rfl

/-- No key is new, and none changes its place. -/
theorem keys_present_sublist (fields : List (κ × Option β)) :
    (keys (present fields)).Sublist (keys fields) := by
  induction fields with
  | nil => exact .slnil
  | cons field rest ih =>
    obtain ⟨key, value⟩ := field
    cases value with
    | none => exact ih.cons key
    | some value => exact ih.cons_cons key

/-- A value that is present is the value of a field. -/
theorem mem_present {fields : List (κ × Option β)} {entry : κ × β} :
    entry ∈ present fields ↔ (entry.1, some entry.2) ∈ fields := by
  obtain ⟨key, value⟩ := entry
  simp only [present, List.mem_filterMap, Option.map_eq_some_iff, Prod.mk.injEq]
  constructor
  · rintro ⟨⟨_, _⟩, member, _, rfl, rfl, rfl⟩
    exact member
  · intro member
    exact ⟨_, member, value, rfl, rfl, rfl⟩

theorem keys_filter_sublist (keeps : κ × β → Bool) (entries : List (κ × β)) :
    (keys (entries.filter keeps)).Sublist (keys entries) :=
  List.filter_sublist.map Prod.fst

variable [DecidableEq κ]

theorem get?_of_not_mem {key : κ} {entries : List (κ × β)} (absent : key ∉ keys entries) :
    get? entries key = none := by
  induction entries with
  | nil => rfl
  | cons entry rest ih =>
    obtain ⟨differs, others⟩ := not_or.mp (mt List.mem_cons.mpr absent)
    rw [get?_cons, if_neg (Ne.symm differs), ih others]

theorem get?_eq_none_iff {key : κ} {entries : List (κ × β)} :
    get? entries key = none ↔ key ∉ keys entries := by
  refine ⟨?_, get?_of_not_mem⟩
  intro missing member
  obtain ⟨entry, found, rfl⟩ := List.mem_map.mp member
  rw [get?, Option.map_eq_none_iff, List.find?_eq_none] at missing
  exact missing entry found (decide_eq_true rfl)

/-- What is found under a key is entered under it. -/
theorem mem_of_get? {entries : List (κ × β)} {key : κ} {value : β}
    (found : get? entries key = some value) : (key, value) ∈ entries := by
  obtain ⟨entry, isFound, rfl⟩ := Option.map_eq_some_iff.mp found
  have isKey : entry.1 = key := by simpa using List.find?_some isFound
  rw [← isKey]
  exact List.mem_of_find?_eq_some isFound

/-- Where no key repeats and only one is allowed, what is found is all there is. -/
theorem eq_singleton_of_get? {entries : List (κ × β)} {key : κ} {value : β}
    (distinct : (keys entries).Nodup) (only : keys entries ⊆ [key])
    (found : get? entries key = some value) : entries = [(key, value)] := by
  have isKey (entry : κ × β) (member : entry ∈ entries) : entry.1 = key :=
    List.mem_singleton.mp (only (List.mem_map_of_mem member))
  cases entries with
  | nil => exact nomatch found
  | cons entry rest =>
    have alone : rest = [] := by
      apply List.eq_nil_iff_forall_not_mem.mpr
      intro other later
      have same : other.1 = entry.1 :=
        (isKey other (List.mem_cons_of_mem _ later)).trans (isKey entry List.mem_cons_self).symm
      exact (List.nodup_cons.mp distinct).1 (same ▸ List.mem_map_of_mem later)
    subst alone
    rw [List.mem_singleton.mp (mem_of_get? found)]

theorem get?_eq_some_iff {entries : List (κ × β)} (distinct : (keys entries).Nodup) {key : κ}
    {value : β} : get? entries key = some value ↔ (key, value) ∈ entries := by
  induction entries with
  | nil => exact ⟨nofun, nofun⟩
  | cons entry rest ih =>
    obtain ⟨fresh, others⟩ := List.nodup_cons.mp distinct
    rw [get?_cons, List.mem_cons]
    by_cases same : entry.1 = key
    · have absent : (key, value) ∉ rest := by
        intro member
        exact fresh (List.mem_map.mpr ⟨_, member, same.symm⟩)
      simp only [same, if_true, Option.some.injEq, absent, or_false, Prod.ext_iff, true_and]
      exact eq_comm
    · have differs : (key, value) ≠ entry := by
        rintro rfl
        exact same rfl
      simp only [same, if_false, differs, false_or, ih others]

/-- Where no key repeats, what is entered under a key is what is found there. -/
theorem filter_key {entries : List (κ × β)} (distinct : (keys entries).Nodup) (key : κ) :
    (entries.filter (·.1 = key)).map Prod.snd = (get? entries key).toList := by
  induction entries with
  | nil => rfl
  | cons entry rest ih =>
    obtain ⟨fresh, others⟩ := List.nodup_cons.mp distinct
    have later := ih others
    rw [get?_cons]
    by_cases same : entry.1 = key
    · rw [get?_of_not_mem (same ▸ fresh)] at later
      simp [same, later]
    · simp [same, later]

/-- An entry that is left out is no longer found. -/
theorem get?_filter {entries : List (κ × β)} (distinct : (keys entries).Nodup)
    (keeps : κ × β → Bool) (key : κ) :
    get? (entries.filter keeps) key =
      (get? entries key).filter fun value => keeps (key, value) := by
  apply Option.ext
  intro value
  rw [get?_eq_some_iff ((keys_filter_sublist keeps entries).nodup distinct), List.mem_filter,
    Option.filter_eq_some_iff, get?_eq_some_iff distinct]

/-- Entries that are left out for their keys change nothing under the other keys. -/
theorem get?_filter_key (keeps : κ → Bool) (entries : List (κ × β)) (key : κ) :
    get? (entries.filter fun entry => keeps entry.1) key =
      if keeps key then get? entries key else none := by
  induction entries with
  | nil => simp
  | cons entry rest ih =>
    by_cases same : entry.1 = key
    · subst same
      cases kept : keeps entry.1 <;> simp_all [get?_cons]
    · cases kept : keeps entry.1 <;> simp_all [get?_cons]

/-- Changes the value under a key, wherever it stands. -/
def update (key : κ) (f : β → β) (entries : List (κ × β)) : List (κ × β) :=
  entries.map fun entry => (entry.1, if entry.1 = key then f entry.2 else entry.2)

theorem keys_update (key : κ) (f : β → β) (entries : List (κ × β)) :
    keys (update key f entries) = keys entries := by
  rw [keys, update, List.map_map]
  rfl

theorem get?_update (key : κ) (f : β → β) (entries : List (κ × β)) :
    get? (update key f entries) key = (get? entries key).map f := by
  induction entries with
  | nil => rfl
  | cons entry rest ih =>
    change get? ((entry.1, if entry.1 = key then f entry.2 else entry.2) :: update key f rest)
      key = _
    rw [get?_cons, get?_cons, ih]
    split
    next => rfl
    next => rfl

/-- Under the key of a field stands its value, and nothing if it has none. -/
theorem get?_present {fields : List (κ × Option β)} (distinct : (keys fields).Nodup) {key : κ}
    {value : Option β} (member : (key, value) ∈ fields) : get? (present fields) key = value := by
  induction fields with
  | nil => exact nomatch member
  | cons field rest ih =>
    obtain ⟨fresh, others⟩ := List.nodup_cons.mp distinct
    have absent : field.1 ∉ keys (present rest) := fun found =>
      fresh ((keys_present_sublist rest).subset found)
    rw [present_cons]
    rcases List.mem_cons.mp member with rfl | later
    · cases value with
      | none => exact get?_of_not_mem absent
      | some value => exact (get?_cons _ _ _).trans (if_pos rfl)
    · have differs : field.1 ≠ key := by
        rintro rfl
        exact fresh (List.mem_map.mpr ⟨_, later, rfl⟩)
      cases field.2 with
      | none => exact ih others later
      | some first => exact (get?_cons _ _ _).trans ((if_neg differs).trans (ih others later))

/-- A new key goes to the end. -/
theorem put_of_not_mem {key : κ} {entries : List (κ × β)} (fresh : key ∉ keys entries) (value : β) :
    put key value entries = entries ++ [(key, value)] := by
  induction entries with
  | nil => rfl
  | cons entry rest ih =>
    obtain ⟨differs, others⟩ := not_or.mp (mt List.mem_cons.mpr fresh)
    rw [put, if_neg (Ne.symm differs), ih others, List.cons_append]

/-- Entries whose keys are all new go to the end in their order. -/
theorem putAll_of_nodup {entries more : List (κ × β)} (distinct : (keys (entries ++ more)).Nodup) :
    putAll entries more = entries ++ more := by
  induction more generalizing entries with
  | nil => exact (List.append_nil entries).symm
  | cons entry rest ih =>
    have split : keys (entries ++ entry :: rest) = keys entries ++ entry.1 :: keys rest := by
      simp [keys]
    have fresh : entry.1 ∉ keys entries := by
      intro member
      rw [split] at distinct
      exact (List.nodup_append.mp distinct).2.2 _ member _ List.mem_cons_self rfl
    have joined : entries ++ [entry] ++ rest = entries ++ entry :: rest := by simp
    change putAll (put entry.1 entry.2 entries) rest = _
    rw [put_of_not_mem fresh, ih (joined ▸ distinct), joined]

/-- The last of several entries is entered last. -/
theorem putAll_concat (entries more : List (κ × β)) (entry : κ × β) :
    putAll entries (more ++ [entry]) = put entry.1 entry.2 (putAll entries more) := by
  rw [putAll, List.foldl_append]
  rfl

/-- Of what is entered under a key, the last counts. -/
theorem get?_putAll (entries more : List (κ × β)) (key : κ) :
    get? (putAll entries more) key =
      ((more.filter (·.1 = key)).map Prod.snd).getLast?.or (get? entries key) := by
  induction more using List.reverseRecOn with
  | nil => rfl
  | append_singleton more entry ih =>
    rw [putAll_concat, get?_put, ih, List.filter_append]
    by_cases same : entry.1 = key <;> simp [same]

/-- Keys stand in the order in which they first appear. -/
theorem keys_putAll_nil (more : List (κ × β)) :
    keys (putAll [] more) = (keys more).eraseDups := by
  induction more using List.reverseRecOn with
  | nil => rfl
  | append_singleton more entry ih =>
    have joined : keys (more ++ [entry]) = keys more ++ [entry.1] := List.map_append
    rw [putAll_concat, keys_put, joined, List.eraseDups_append, ih]
    by_cases listed : entry.1 ∈ keys more <;>
      simp [List.removeAll, List.eraseDups_cons, listed]

/-- What stands there afterwards is the entry itself or stood there before. -/
theorem mem_put {key : κ} {value : β} {entries : List (κ × β)} {entry : κ × β}
    (member : entry ∈ put key value entries) : entry = (key, value) ∨ entry ∈ entries := by
  induction entries with
  | nil => exact .inl (List.mem_singleton.mp member)
  | cons first rest ih =>
    unfold put at member
    split at member
    next => exact (List.mem_cons.mp member).imp_right (List.mem_cons_of_mem first)
    next =>
      rcases List.mem_cons.mp member with rfl | later
      · exact .inr List.mem_cons_self
      · exact (ih later).imp_right (List.mem_cons_of_mem first)

theorem mem_keys_put {key other : κ} {value : β} {entries : List (κ × β)} :
    other ∈ keys (put key value entries) ↔ other = key ∨ other ∈ keys entries := by
  rw [keys_put]
  split
  next known =>
    refine ⟨.inr, ?_⟩
    rintro (rfl | member)
    · exact known
    · exact member
  next => rw [List.mem_append, List.mem_singleton, or_comm]

theorem nodup_keys_put {entries : List (κ × β)} (distinct : (keys entries).Nodup) (key : κ)
    (value : β) : (keys (put key value entries)).Nodup := by
  rw [keys_put]
  split
  next => exact distinct
  next fresh =>
    rw [List.nodup_append_comm]
    exact List.nodup_cons.mpr ⟨fresh, distinct⟩

/-- Whatever is entered, no key repeats. -/
theorem nodup_keys_putAll {entries : List (κ × β)} (distinct : (keys entries).Nodup)
    (more : List (κ × β)) : (keys (putAll entries more)).Nodup := by
  induction more using List.reverseRecOn with
  | nil => exact distinct
  | append_singleton more entry ih =>
    rw [putAll_concat]
    exact nodup_keys_put ih entry.1 entry.2

end TileBrain.Keyed
