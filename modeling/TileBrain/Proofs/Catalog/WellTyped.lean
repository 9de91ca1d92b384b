import TileBrain.Catalog.Basic
import TileBrain.Proofs.StableSort

/-! # Catalogs of well-typed tiles

A tile is declared with a text as its identifier, a number as its weight unless it has none, and a
category without parts. Where all tiles of a catalog keep to that, any two candidates have an order,
and an identifier tells a tile from all others.

Weights need an exact value, since one that is not a number has a place in no order.
`WellTyped.pairwise_candidates` gives the order of the candidates, and `WellTyped.filter_candidates`
says that fewer of them come in the same order.
-/

namespace TileBrain

/-- The fields hold what they are declared to hold. -/
structure Tile.WellTyped (tile : Tile) : Prop where
  id : tile.id.isString = true
  weight : tile.sortWeight.magnitude?.isSome = true
  category : tile.category.isAtom = true

instance (tile : Tile) : Decidable tile.WellTyped :=
  decidable_of_iff (tile.id.isString = true ∧ tile.sortWeight.magnitude?.isSome = true ∧
      tile.category.isAtom = true)
    ⟨fun fields => ⟨fields.1, fields.2.1, fields.2.2⟩,
      fun typed => ⟨typed.id, typed.weight, typed.category⟩⟩

def Catalog.WellTyped (catalog : Catalog) : Prop := ∀ tile ∈ catalog.tiles, tile.WellTyped

instance (catalog : Catalog) : Decidable catalog.WellTyped :=
  inferInstanceAs (Decidable (∀ tile ∈ catalog.tiles, tile.WellTyped))

/-- A text is the same as itself, which a value that is not a number is not. -/
theorem Json.same_self_of_isString {json : Json} (isString : json.isString = true) :
    json.same json = true :=
  (same_iff_of_isString isString).mpr rfl

/-- Weights with an exact value can be compared. -/
theorem Json.isComparable_of_magnitude? {a b : Json} (measuredA : a.magnitude?.isSome = true)
    (measuredB : b.magnitude?.isSome = true) : a.isComparable b = true := by
  obtain ⟨x, isX⟩ := Option.isSome_iff_exists.mp measuredA
  obtain ⟨y, isY⟩ := Option.isSome_iff_exists.mp measuredB
  rw [isComparable, precedes?_of_magnitude? isX isY]
  rfl

namespace Catalog

/-- Candidates are the visible tiles of their kind. -/
theorem mem_candidates {catalog : Catalog} {kind : TileKind} {tile : Tile} :
    tile ∈ catalog.candidates kind ↔
      tile ∈ catalog.tiles ∧ tile.kind = kind ∧ tile.hidden = false := by
  rw [candidates, (StableSort.sort_perm _ _).mem_iff]
  simp [visible, and_assoc]

/-- No tile is declared twice. -/
theorem WellTyped.nodup_tiles {catalog : Catalog} (typed : catalog.WellTyped) :
    catalog.tiles.Nodup := by
  apply List.Pairwise.imp_of_mem _ catalog.ids_distinct
  rintro tile _ member _ fresh rfl
  exact absurd (Json.same_self_of_isString (typed tile member).id) (by simp [fresh])

/-- The visible tiles of a kind come as they are declared. -/
theorem visible_sublist (catalog : Catalog) (kind : TileKind) :
    (catalog.visible kind).Sublist catalog.tiles :=
  List.filter_sublist.trans List.filter_sublist

/-- The visible tiles have weights with an exact value. -/
theorem WellTyped.measured {catalog : Catalog} (typed : catalog.WellTyped) (kind : TileKind) :
    ∀ tile ∈ catalog.visible kind, tile.sortWeight.magnitude?.isSome = true :=
  fun tile member => (typed tile ((catalog.visible_sublist kind).subset member)).weight

/-- Candidates are in the order of their weights and, if either may come first, in that of their
declaration. -/
theorem WellTyped.pairwise_candidates {catalog : Catalog} (typed : catalog.WellTyped)
    {kind : TileKind} :
    (catalog.candidates kind).Pairwise fun a b =>
      inWeightOrder a b = true ∧ (inWeightOrder b a = true → [a, b].Sublist catalog.tiles) := by
  have declared : (catalog.visible kind).Pairwise fun a b => [a, b].Sublist catalog.tiles :=
    List.pairwise_iff_forall_sublist.mpr fun part => part.trans (catalog.visible_sublist kind)
  have ordered := StableSort.pairwise_sort inWeightOrder (·.sortWeight.magnitude?.isSome = true)
    (fun _ _ _ => Json.isAtMost_trans) (fun _ _ => Json.isAtMost_total) (typed.measured kind)
  exact ordered.and (StableSort.pairwise_sort_of_tied inWeightOrder declared)

/-- The candidates of every kind have an order. -/
theorem WellTyped.isRankable {catalog : Catalog} (typed : catalog.WellTyped) (kind : TileKind) :
    catalog.isRankable kind = true := by
  have comparable : (catalog.visible kind).Pairwise fun a b =>
      a.sortWeight.isComparable b.sortWeight = true := by
    apply List.Pairwise.imp_of_mem _ ((catalog.ids_distinct.filter _).filter _)
    intro a b memberA memberB _
    exact Json.isComparable_of_magnitude? (typed.measured kind a memberA)
      (typed.measured kind b memberB)
  exact decide_eq_true comparable

/-- Candidates come in the same order among fewer tiles. -/
theorem WellTyped.filter_candidates {catalog fewer : Catalog} (typed : catalog.WellTyped)
    {kind : TileKind} {keeps : Tile → Bool}
    (kept : (catalog.visible kind).filter keeps = fewer.visible kind) :
    (catalog.candidates kind).filter keeps = fewer.candidates kind := by
  rw [candidates, candidates, ← kept]
  exact StableSort.filter_sort inWeightOrder (·.sortWeight.magnitude?.isSome = true)
    (fun _ _ _ => Json.isAtMost_trans) (fun _ _ => Json.isAtMost_total) (typed.measured kind)
    (typed.nodup_tiles.sublist (catalog.visible_sublist kind)) keeps

/-- Tiles whose identifiers count as the same are one tile. -/
theorem WellTyped.eq_of_same_id {catalog : Catalog} (typed : catalog.WellTyped) {a b : Tile}
    (memberA : a ∈ catalog.tiles) (memberB : b ∈ catalog.tiles) (same : a.id.same b.id = true) :
    a = b :=
  eq_of_same memberA memberB same (Json.same_self_of_isString (typed b memberB).id)

end Catalog

end TileBrain
