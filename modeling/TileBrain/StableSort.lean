/-! # Stable sorting

Sorting by insertion: elements that are equally far in front keep their order. The sort of the core
library is not evaluated by the kernel and another one is not part of it, so the two equations stand
here. What they come to is said with the proofs, where the sort is identified with one that has its
theory already.
-/

namespace TileBrain.StableSort

variable {α : Type} (inOrder : α → α → Bool)

/-- Inserts in front of the first element that it may precede. -/
def insert (x : α) : List α → List α
  | [] => [x]
  | y :: rest => if inOrder x y then x :: y :: rest else y :: insert x rest

/-- Inserts the elements from the last to the first, so that equals keep their order. -/
def sort (elements : List α) : List α := elements.foldr (insert inOrder) []

end TileBrain.StableSort
