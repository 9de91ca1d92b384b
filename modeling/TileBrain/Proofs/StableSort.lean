import Mathlib.Data.List.Sort
import TileBrain.StableSort

/-! # Sorting elements of which not all compare

The sort is the insertion sort of the library, which keeps all elements whatever the order is.
What is said here goes beyond the library in one respect: the order need be transitive and total
among certain elements only, such as weights with an exact value. `pairwise_sort` carries the order
over from those elements taken as a type of their own. `pairwise_sort_of_tied` is stability, for
every order, and `filter_sort` follows from both: a list without repetitions has only one sorted
permutation in which ties stand as they stood before.
-/

namespace TileBrain.StableSort

variable {α : Type} (inOrder : α → α → Bool)

private theorem insert_eq_orderedInsert (x : α) (elements : List α) :
    insert inOrder x elements = elements.orderedInsert (inOrder · ·) x := by
  induction elements with
  | nil => rfl
  | cons y rest ih => rw [insert, List.orderedInsert_cons, ih]

theorem sort_eq_insertionSort (elements : List α) :
    sort inOrder elements = elements.insertionSort (inOrder · ·) := by
  induction elements with
  | nil => rfl
  | cons x rest ih =>
    rw [List.insertionSort_cons, ← ih, ← insert_eq_orderedInsert]
    rfl

theorem sort_perm (elements : List α) : (sort inOrder elements).Perm elements := by
  rw [sort_eq_insertionSort]
  exact List.perm_insertionSort _ elements

/-- Elements of which either may come first stand in the order in which they stood before. -/
theorem pairwise_sort_of_tied {R : α → α → Prop} {elements : List α}
    (earlier : elements.Pairwise R) :
    (sort inOrder elements).Pairwise fun a b => inOrder b a → R a b := by
  rw [sort_eq_insertionSort]
  induction elements with
  | nil => exact .nil
  | cons x rest ih =>
    obtain ⟨first, others⟩ := List.pairwise_cons.mp earlier
    have tied := ih others
    have later : ∀ y ∈ rest.insertionSort (inOrder · ·), R x y :=
      fun y member => first y ((List.mem_insertionSort _).mp member)
    rw [List.insertionSort_cons, List.orderedInsert_eq_take_drop]
    generalize rest.insertionSort (inOrder · ·) = sorted at tied later
    rw [← List.takeWhile_append_dropWhile (p := fun y => ¬ inOrder x y)
      (l := sorted)] at tied later
    obtain ⟨before, behind, across⟩ := List.pairwise_append.mp tied
    refine List.pairwise_append.mpr ⟨before, List.pairwise_cons.mpr ⟨?_, behind⟩, ?_⟩
    · exact fun y member _ => later y (List.mem_append_right _ member)
    · intro y isBefore z member
      rcases List.mem_cons.mp member with rfl | isBehind
      · intro mayPrecede
        exact absurd mayPrecede (by simpa using List.all_eq_true.mp List.all_takeWhile y isBefore)
      · exact across y isBefore z isBehind

section Among

variable (among : α → Prop)
  (trans : ∀ a b c, among a → among b → among c → inOrder a b → inOrder b c → inOrder a c)
  (total : ∀ a b, among a → among b → inOrder a b = false → inOrder b a)

include trans total

/-- The order is established if it is one among the elements. -/
theorem pairwise_sort {elements : List α} (areAmong : ∀ x ∈ elements, among x) :
    (sort inOrder elements).Pairwise (inOrder · ·) := by
  let apart : { x // among x } → { x // among x } → Prop := fun a b => inOrder a b
  have isTrans : IsTrans _ apart := ⟨fun a b c => trans a b c a.2 b.2 c.2⟩
  have isTotal : Std.Total apart := by
    constructor
    intro a b
    cases before : inOrder a b with
    | true => exact .inl before
    | false => exact .inr (total a b a.2 b.2 before)
  have sorted := List.pairwise_insertionSort apart (elements.attachWith among areAmong)
  have same : ((elements.attachWith among areAmong).insertionSort apart).map Subtype.val =
      sort inOrder elements := by
    rw [List.map_insertionSort apart (inOrder · ·) Subtype.val _ fun _ _ _ _ => Iff.rfl,
      List.attachWith_map_subtype_val, sort_eq_insertionSort]
  rw [← same, List.pairwise_map]
  exact sorted

/-- Elements that are left out make no difference to the order of the others. -/
theorem filter_sort {elements : List α} (areAmong : ∀ x ∈ elements, among x)
    (distinct : elements.Nodup) (keeps : α → Bool) :
    (sort inOrder elements).filter keeps = sort inOrder (elements.filter keeps) := by
  classical
  have ranked : elements.Pairwise fun a b => elements.idxOf a < elements.idxOf b := by
    rw [List.pairwise_iff_getElem]
    intro i j _ _ before
    rwa [distinct.idxOf_getElem, distinct.idxOf_getElem]
  have keptAmong : ∀ x ∈ elements.filter keeps, among x :=
    fun x member => areAmong x (List.mem_filter.mp member).1
  have whole := (pairwise_sort inOrder among trans total areAmong).and
    (pairwise_sort_of_tied inOrder ranked)
  have part := (pairwise_sort inOrder among trans total keptAmong).and
    (pairwise_sort_of_tied inOrder (ranked.filter keeps))
  refine List.Perm.eq_of_pairwise ?_ (whole.filter keeps) part
    (((sort_perm inOrder elements).filter keeps).trans (sort_perm inOrder _).symm)
  rintro a b _ _ ⟨before, tied⟩ ⟨behind, tiedToo⟩
  exact absurd (tied behind) (Nat.lt_asymm (tiedToo before))

end Among

end TileBrain.StableSort
