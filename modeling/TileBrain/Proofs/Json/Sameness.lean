import Mathlib.Data.List.Nodup
import Mathlib.Data.List.Perm.Subperm
import TileBrain.Json.Comparison
import TileBrain.Proofs.Json.Written
import TileBrain.Proofs.Keyed

/-! # Values that count as the same

Lists count as the same item by item, and objects if the same stands under every key. Where no key
repeats, values that count as the same can change places, and any two that count as the same as a
third count as the same: `same_symm` and `same_trans` say so.

Symmetry needs that, since what stands under a repeated key is looked up by the first. Nor is every
value the same as itself: not-a-number is not, and `Restorable.same_self` is about values without
it.
-/

namespace TileBrain.Json

private theorem sameItems_iff {items others : List Json} :
    sameItems items others = true ↔ List.Forall₂ (fun a b => same a b = true) items others := by
  induction items generalizing others with
  | nil => cases others <;> simp [sameItems]
  | cons item rest ih => cases others <;> simp [sameItems, ih]

theorem same_arr_iff {items others : List Json} :
    same (.arr items) (.arr others) = true ↔
      List.Forall₂ (fun a b => same a b = true) items others := by
  rw [same, sameItems_iff]

private theorem sameMembers_iff {members others : List (String × Json)} :
    sameMembers members others = true ↔ ∀ member ∈ members,
      ∃ value, Keyed.get? others member.1 = some value ∧ same member.2 value = true := by
  induction members with
  | nil => simp [sameMembers]
  | cons member rest ih => simp [sameMembers, ih, Option.any_eq_true]

/-- Two objects are the same if they have no keys but certain ones, and the same stands under each
of these. -/
theorem same_obj {members others : List (String × Json)} (known : List String)
    (distinct : (Keyed.keys members).Nodup) (othersDistinct : (Keyed.keys others).Nodup)
    (subset : Keyed.keys members ⊆ known) (othersSubset : Keyed.keys others ⊆ known)
    (fields : ∀ key ∈ known, Option.Rel (fun a b => same a b = true) (Keyed.get? members key)
      (Keyed.get? others key)) :
    same (.obj members) (.obj others) = true := by
  have keys : (Keyed.keys members).Perm (Keyed.keys others) := by
    apply (List.perm_ext_iff_of_nodup distinct othersDistinct).mpr
    intro key
    by_cases isKnown : key ∈ known
    · have field := fields key isKnown
      rw [← not_iff_not, ← Keyed.get?_eq_none_iff, ← Keyed.get?_eq_none_iff]
      generalize Keyed.get? members key = value at field ⊢
      generalize Keyed.get? others key = other at field ⊢
      cases field <;> simp
    · exact iff_of_false (mt (subset ·) isKnown) (mt (othersSubset ·) isKnown)
  have length : members.length = others.length := by
    simpa only [Keyed.keys, List.length_map] using keys.length_eq
  rw [same, Bool.and_eq_true, decide_eq_true_eq, sameMembers_iff]
  refine ⟨length, ?_⟩
  intro member isMember
  have field := fields member.1 (subset (List.mem_map_of_mem isMember))
  rw [(Keyed.get?_eq_some_iff distinct).mpr isMember] at field
  generalize Keyed.get? others member.1 = value at field ⊢
  cases field with
  | some same => exact ⟨_, rfl, same⟩

/-- Objects that count as the same have the same keys, if those of the first are distinct. -/
theorem keys_perm_of_same {members others : List (String × Json)}
    (distinct : (Keyed.keys members).Nodup) (like : same (.obj members) (.obj others) = true) :
    (Keyed.keys members).Perm (Keyed.keys others) := by
  rw [same, Bool.and_eq_true, decide_eq_true_eq, sameMembers_iff] at like
  obtain ⟨length, found⟩ := like
  have subset : Keyed.keys members ⊆ Keyed.keys others := by
    intro key isKey
    obtain ⟨member, isMember, rfl⟩ := List.mem_map.mp isKey
    obtain ⟨value, isValue, _⟩ := found member isMember
    by_contra absent
    rw [Keyed.get?_of_not_mem absent] at isValue
    cases isValue
  apply (distinct.subperm subset).perm_of_length_le
  simp only [Keyed.keys, List.length_map, length, Nat.le_refl]

section Lookup

variable {members others : List (String × Json)} {key : String}

/-- Nothing stands under a key of the one if nothing does in the other. -/
theorem get?_eq_none_of_same (distinct : (Keyed.keys members).Nodup)
    (like : same (.obj members) (.obj others) = true)
    (absent : Keyed.get? members key = none) : Keyed.get? others key = none := by
  apply Keyed.get?_of_not_mem
  exact mt (keys_perm_of_same distinct like).mem_iff.mpr (Keyed.get?_eq_none_iff.mp absent)

/-- Under a key of the one stands the same as in the other. -/
theorem exists_get?_of_same (like : same (.obj members) (.obj others) = true) {value : Json}
    (found : Keyed.get? members key = some value) :
    ∃ other, Keyed.get? others key = some other ∧ same value other = true := by
  rw [same, Bool.and_eq_true, decide_eq_true_eq, sameMembers_iff] at like
  exact like.2 _ (Keyed.mem_of_get? found)

end Lookup

theorem distinctItems_iff {items : List Json} :
    DistinctItems items ↔ ∀ item ∈ items, item.Distinct := by
  induction items with
  | nil => simp [DistinctItems]
  | cons item rest ih => simp [DistinctItems, ih]

private theorem distinctMembers_iff {members : List (String × Json)} :
    DistinctMembers members ↔ ∀ member ∈ members, member.2.Distinct := by
  induction members with
  | nil => simp [DistinctMembers]
  | cons member rest ih => simp [DistinctMembers, ih]

/-- No key repeats within what is found in an object. -/
theorem Distinct.get? {members : List (String × Json)} (distinct : (Json.obj members).Distinct)
    {key : String} {value : Json} (found : Keyed.get? members key = some value) :
    value.Distinct := by
  obtain ⟨keys, parts⟩ := distinct
  exact distinctMembers_iff.mp parts _ ((Keyed.get?_eq_some_iff keys).mp found)

/-- No key repeats in what can be restored from its text. -/
theorem Restorable.distinct {json : Json} (restorable : Restorable json) : json.Distinct := by
  induction restorable with
  | arr _ ih => exact distinctItems_iff.mpr ih
  | obj distinct _ ih => exact ⟨distinct, distinctMembers_iff.mpr ih⟩
  | _ => trivial

/-- Whatever can be restored from its text counts as the same as itself. -/
theorem Restorable.same_self {json : Json} (restorable : Restorable json) :
    same json json = true := by
  induction restorable with
  | null => rfl
  | bool value => simp [same, sameKey, key?, magnitude?]
  | int => simp [same, sameKey, key?, magnitude?]
  | str text => exact same_str_iff.mpr rfl
  | arr _ ih => exact same_arr_iff.mpr (List.forall₂_same.mpr ih)
  | obj distinct _ ih =>
    apply same_obj _ distinct distinct (List.Subset.refl _) (List.Subset.refl _)
    intro key _
    cases found : Keyed.get? _ key with
    | none => exact .none
    | some value => exact .some (ih _ ((Keyed.get?_eq_some_iff distinct).mp found))

/-- What holds of values without parts, and of every value whose parts it holds of, holds of all
values. -/
theorem induction_on_parts {motive : Json → Prop}
    (atom : ∀ json, json.isAtom = true → motive json)
    (arr : ∀ items, (∀ item ∈ items, motive item) → motive (.arr items))
    (obj : ∀ members, (∀ member ∈ members, motive member.2) → motive (.obj members)) :
    ∀ json, motive json
  | .arr items => arr items fun item _ => induction_on_parts atom arr obj item
  | .obj members => obj members fun member _ => induction_on_parts atom arr obj member.2
  | .null => atom .null rfl
  | .bool value => atom (.bool value) rfl
  | .int value => atom (.int value) rfl
  | .float value => atom (.float value) rfl
  | .str text => atom (.str text) rfl
termination_by json => sizeOf json
decreasing_by
  · have smaller := List.sizeOf_lt_of_mem ‹item ∈ items›
    simp only [Json.arr.sizeOf_spec]
    omega
  · have smaller := List.sizeOf_lt_of_mem ‹member ∈ members›
    obtain ⟨key, value⟩ := member
    simp only [Prod.mk.sizeOf_spec, Json.obj.sizeOf_spec] at smaller ⊢
    omega

/-- A list counts as the same as lists alone. -/
theorem exists_arr_of_same {items : List Json} {json : Json}
    (like : same (.arr items) json = true) :
    ∃ others, json = .arr others := by
  cases json <;> simp_all [same, sameKey, key?, magnitude?]

/-- An object counts as the same as objects alone. -/
theorem exists_obj_of_same {members : List (String × Json)} {json : Json}
    (like : same (.obj members) json = true) : ∃ others, json = .obj others := by
  cases json <;> simp_all [same, sameKey, key?, magnitude?]

private theorem sameKey_iff {a b : Option Key} :
    sameKey a b = true ↔ ∃ key, a = some key ∧ b = some key := by
  cases a <;> cases b <;> simp [sameKey, eq_comm]

/-- A value without parts counts as the same as those that have its key. -/
theorem same_iff_of_isAtom {a b : Json} (atom : a.isAtom = true) :
    same a b = true ↔ ∃ key, a.key? = some key ∧ b.key? = some key := by
  rw [same_of_isAtom atom, sameKey_iff]

/-- A value that has a key has no parts. -/
private theorem isAtom_of_key? {json : Json} {key : Key} (isKey : json.key? = some key) :
    json.isAtom = true := by
  cases json <;> simp_all [key?, magnitude?, isAtom]

theorem same_symm {a b : Json} (distinct : a.Distinct) (like : same a b = true) :
    same b a = true := by
  induction a using induction_on_parts generalizing b with
  | atom a atom =>
    obtain ⟨key, isKey, otherKey⟩ := (same_iff_of_isAtom atom).mp like
    exact (same_iff_of_isAtom (isAtom_of_key? otherKey)).mpr ⟨key, otherKey, isKey⟩
  | arr items ih =>
    obtain ⟨others, rfl⟩ := exists_arr_of_same like
    have parts := distinctItems_iff.mp distinct
    rw [same_arr_iff] at like ⊢
    clear distinct
    induction like with
    | nil => exact .nil
    | cons first _ next =>
      obtain ⟨ihFirst, ihRest⟩ := List.forall_mem_cons.mp ih
      obtain ⟨distinctFirst, distinctRest⟩ := List.forall_mem_cons.mp parts
      exact .cons (ihFirst distinctFirst first) (next ihRest distinctRest)
  | obj members ih =>
    obtain ⟨others, rfl⟩ := exists_obj_of_same like
    obtain ⟨keys, parts⟩ := distinct
    have perm := keys_perm_of_same keys like
    apply same_obj (Keyed.keys others) (perm.nodup_iff.mp keys) keys (List.Subset.refl _)
      perm.subset
    intro key _
    cases found : Keyed.get? members key with
    | none =>
      rw [get?_eq_none_of_same keys like found]
      exact .none
    | some value =>
      obtain ⟨other, isOther, same⟩ := exists_get?_of_same like found
      have member := Keyed.mem_of_get? found
      rw [isOther]
      exact .some (ih _ member (distinctMembers_iff.mp parts _ member) same)

theorem same_trans {a b c : Json} (first : same a b = true) (second : same b c = true) :
    same a c = true := by
  induction a using induction_on_parts generalizing b c with
  | atom a atom =>
    obtain ⟨key, isKey, otherKey⟩ := (same_iff_of_isAtom atom).mp first
    obtain ⟨found, isFound, thirdKey⟩ := (same_iff_of_isAtom (isAtom_of_key? otherKey)).mp second
    obtain rfl := Option.some.inj (otherKey.symm.trans isFound)
    exact (same_iff_of_isAtom atom).mpr ⟨key, isKey, thirdKey⟩
  | arr items ih =>
    obtain ⟨others, rfl⟩ := exists_arr_of_same first
    obtain ⟨thirds, rfl⟩ := exists_arr_of_same second
    rw [same_arr_iff] at first second ⊢
    induction first generalizing thirds with
    | nil => exact second
    | cons same _ next =>
      obtain ⟨ihFirst, ihRest⟩ := List.forall_mem_cons.mp ih
      cases second with
      | cons sameNext others => exact .cons (ihFirst same sameNext) (next ihRest _ others)
  | obj members ih =>
    obtain ⟨others, rfl⟩ := exists_obj_of_same first
    obtain ⟨thirds, rfl⟩ := exists_obj_of_same second
    simp only [same, Bool.and_eq_true, decide_eq_true_eq, sameMembers_iff] at first second ⊢
    refine ⟨first.1.trans second.1, ?_⟩
    intro member isMember
    obtain ⟨other, isOther, same⟩ := first.2 member isMember
    obtain ⟨third, isThird, sameNext⟩ := second.2 _ (Keyed.mem_of_get? isOther)
    exact ⟨third, isThird, ih member isMember same sameNext⟩

end TileBrain.Json
