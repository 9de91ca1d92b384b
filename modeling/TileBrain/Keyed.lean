/-! # Keyed lists

Entries under keys, in the order in which the keys first appeared. A later entry under a known key
takes the place of the earlier one. `get?_put` and `keys_put` say what one entry changes.

Keys may be of any type with decidable equality. Further laws, such as what is found after many
entries, stand with the proofs.
-/

namespace TileBrain.Keyed

variable {κ β : Type} [DecidableEq κ]

/-- The keys in order. -/
def keys (entries : List (κ × β)) : List κ := entries.map Prod.fst

/-- The entry under a key. -/
def get? (entries : List (κ × β)) (key : κ) : Option β :=
  (entries.find? fun entry => entry.1 = key).map Prod.snd

/-- Enters a value: at the place of its key if that is known, at the end otherwise. -/
def put (key : κ) (value : β) : List (κ × β) → List (κ × β)
  | [] => [(key, value)]
  | entry :: rest =>
    if entry.1 = key then (key, value) :: rest else entry :: put key value rest

/-- Enters all values in turn. -/
def putAll (entries : List (κ × β)) (more : List (κ × β)) : List (κ × β) :=
  more.foldl (fun entries entry => put entry.1 entry.2 entries) entries

@[simp] theorem get?_nil (key : κ) : get? ([] : List (κ × β)) key = none := rfl

theorem get?_cons (entry : κ × β) (rest : List (κ × β)) (key : κ) :
    get? (entry :: rest) key = if entry.1 = key then some entry.2 else get? rest key := by
  by_cases same : entry.1 = key <;> simp [get?, same]

/-- Only the key entered changes its value. -/
theorem get?_put (key other : κ) (value : β) (entries : List (κ × β)) :
    get? (put key value entries) other =
      if key = other then some value else get? entries other := by
  induction entries with
  | nil => simp [put, get?_cons]
  | cons entry rest ih =>
    by_cases same : entry.1 = key
    · simp only [put, same, if_true, get?_cons]
      split <;> rfl
    · simp only [put, same, if_false, get?_cons, ih]
      by_cases found : entry.1 = other
      · have differs : key ≠ other := fun h => same (found.trans h.symm)
        simp only [found, if_true, differs, if_false]
      · simp only [found, if_false]

/-- A known key keeps its place and a new one goes to the end. -/
theorem keys_put (key : κ) (value : β) (entries : List (κ × β)) :
    keys (put key value entries) =
      if key ∈ keys entries then keys entries else keys entries ++ [key] := by
  induction entries with
  | nil => simp [put, keys]
  | cons entry rest ih =>
    by_cases same : entry.1 = key
    · simp [put, keys, same]
    · have other : key ≠ entry.1 := fun h => same h.symm
      simp only [keys] at ih
      simp only [put, same, if_false, keys, List.map_cons, List.mem_cons, other, false_or, ih]
      by_cases known : key ∈ rest.map Prod.fst <;> simp only [known, if_true, if_false,
        List.cons_append]

end TileBrain.Keyed
