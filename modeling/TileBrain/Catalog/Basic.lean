import TileBrain.Json.Display
import TileBrain.StableSort
import TileBrain.Tile.Basic

/-! # Catalogs

A catalog holds tiles in the order of their declaration, no two of which have identifiers that count
as the same, whatever their kinds. The type carries that. `firstFault?_eq_none_iff` says when a list
of tiles makes a catalog, and `get?_eq_some_iff` what is found in it.
-/

namespace TileBrain

structure Catalog where
  /-- The tiles as declared. -/
  tiles : List Tile
  ids_atomic : ∀ tile ∈ tiles, tile.id.isAtom = true
  ids_distinct : tiles.Pairwise fun earlier tile => earlier.id.same tile.id = false
  deriving DecidableEq

/-- An identifier was declared again. -/
structure DuplicateId where
  id : Json
  earlier : TileKind
  later : TileKind
  deriving DecidableEq

def DuplicateId.message (duplicate : DuplicateId) : String :=
  "duplicate tile id " ++ duplicate.id.shown ++ " (" ++ duplicate.earlier.label ++ " and " ++
    duplicate.later.label ++ ")"

/-- Why a tile cannot be entered after those before it. -/
inductive EntryFault where
  | duplicate (fault : DuplicateId)
  | misfit (cause : Misfit)
  deriving DecidableEq

def EntryFault.message : EntryFault → String
  | .duplicate fault => fault.message
  | .misfit cause => cause.message

/-- An identifier has no tile of its kind. -/
structure Unresolved where
  kind : TileKind
  id : Json
  deriving DecidableEq

def Unresolved.message (unresolved : Unresolved) : String :=
  "unknown " ++ unresolved.kind.label ++ " tile id " ++ unresolved.id.shown

namespace Catalog

/-- The first fault in tiles that are entered one after another: an identifier with parts, or one
that was seen before. -/
def firstFault? (seen : List Tile) : List Tile → Option EntryFault
  | [] => none
  | tile :: rest =>
    if tile.id.isAtom then
      match seen.find? fun earlier => earlier.id.same tile.id with
      | some earlier => some (.duplicate ⟨tile.id, earlier.kind, tile.kind⟩)
      | none => firstFault? (seen ++ [tile]) rest
    else some (.misfit .id)

theorem firstFault?_eq_none_iff (seen tiles : List Tile) :
    firstFault? seen tiles = none ↔
      (∀ tile ∈ tiles, tile.id.isAtom = true) ∧
      (tiles.Pairwise fun earlier tile => earlier.id.same tile.id = false) ∧
      ∀ earlier ∈ seen, ∀ tile ∈ tiles, earlier.id.same tile.id = false := by
  induction tiles generalizing seen with
  | nil => simp [firstFault?]
  | cons tile rest ih =>
    unfold firstFault?
    split
    next atom =>
      split
      next earlier found =>
        have member := List.mem_of_find?_eq_some found
        have same : earlier.id.same tile.id = true := by simpa using List.find?_some found
        simp only [reduceCtorEq, false_iff]
        rintro ⟨_, _, fresh⟩
        exact absurd same (by simp [fresh earlier member tile List.mem_cons_self])
      next unseen =>
        have fresh : ∀ earlier ∈ seen, earlier.id.same tile.id = false := by
          simpa using List.find?_eq_none.mp unseen
        rw [ih]
        simp only [List.mem_append, List.mem_singleton, List.forall_mem_cons, List.pairwise_cons,
          or_imp, forall_and, forall_eq]
        constructor
        · rintro ⟨atoms, distinct, others, first⟩
          exact ⟨⟨atom, atoms⟩, ⟨first, distinct⟩, fresh, others⟩
        · rintro ⟨⟨_, atoms⟩, ⟨first, distinct⟩, _, others⟩
          exact ⟨atoms, distinct, others, first⟩
    next parts =>
      simp only [reduceCtorEq, false_iff]
      exact fun fine => parts (fine.1 tile List.mem_cons_self)

/-- The catalog of these tiles, unless one cannot be entered. -/
def ofTiles (tiles : List Tile) : Except EntryFault Catalog :=
  match faulty : firstFault? [] tiles with
  | some fault => .error fault
  | none =>
    have fine := (firstFault?_eq_none_iff [] tiles).mp faulty
    .ok ⟨tiles, fine.1, fine.2.1⟩

/-- The tiles of one kind, in the order of declaration. -/
def partition (catalog : Catalog) (kind : TileKind) : List Tile :=
  catalog.tiles.filter (·.kind = kind)

/-- All tiles, kind after kind. -/
def toList (catalog : Catalog) : List Tile := TileKind.all.flatMap catalog.partition

def size (catalog : Catalog) : Nat := catalog.toList.length

/-- Whether some tile has the identifier. Only a text is taken for one. -/
def contains (catalog : Catalog) (id : Json) : Bool :=
  id.isString && catalog.tiles.any (·.id.same id)

/-- The tile of a kind that has the identifier. -/
def get? (catalog : Catalog) (kind : TileKind) (id : Json) : Option Tile :=
  (catalog.partition kind).find? (·.id.same id)

def lookup (catalog : Catalog) (kind : TileKind) (id : Json) : Except Unresolved Tile :=
  match catalog.get? kind id with
  | some tile => .ok tile
  | none => .error ⟨kind, id⟩

/-- Whether an identifier can be looked up at all. -/
def checkId (id : Json) : Except Misfit Unit := if id.isAtom then .ok () else .error .id

/-- The number of tiles of each kind, in running text. -/
def summary (catalog : Catalog) : String :=
  "TileCatalog(" ++ String.intercalate ", " (TileKind.all.map fun kind =>
    kind.label ++ "s=" ++ toString (catalog.partition kind).length) ++ ")"

/-- An attempt to give a field of a catalog another value. -/
structure ReadOnly where
  field : String
  deriving DecidableEq

def ReadOnly.message (_ : ReadOnly) : String := "TileCatalog is read-only"

/-- A catalog stays as it was made: no field takes another value. -/
def withField (_ : Catalog) (field : String) (_ : Json) : Except ReadOnly Catalog :=
  .error ⟨field⟩

@[simp] theorem mem_partition {catalog : Catalog} {kind : TileKind} {tile : Tile} :
    tile ∈ catalog.partition kind ↔ tile ∈ catalog.tiles ∧ tile.kind = kind := by
  simp [partition]

@[simp] theorem mem_toList {catalog : Catalog} {tile : Tile} :
    tile ∈ catalog.toList ↔ tile ∈ catalog.tiles := by
  have listed : ∀ kind : TileKind, kind ∈ TileKind.all := by
    intro kind
    cases kind <;> decide
  simp [toList, listed]

/-- Two tiles of a catalog whose identifiers count as the same as a third are one tile. -/
theorem eq_of_same {catalog : Catalog} {a b : Tile} {id : Json} (memberA : a ∈ catalog.tiles)
    (memberB : b ∈ catalog.tiles) (sameA : a.id.same id = true) (sameB : b.id.same id = true) :
    a = b := by
  have atomic := catalog.ids_atomic
  have distinct := catalog.ids_distinct
  generalize catalog.tiles = tiles at *
  induction tiles with
  | nil => cases memberA
  | cons tile rest ih =>
    obtain ⟨fresh, others⟩ := List.pairwise_cons.mp distinct
    obtain ⟨atom, atoms⟩ := List.forall_mem_cons.mp atomic
    rcases List.mem_cons.mp memberA with rfl | restA <;>
      rcases List.mem_cons.mp memberB with rfl | restB
    · rfl
    · exact absurd (Json.same_of_same atom (atoms b restB) sameA sameB) (by simp [fresh b restB])
    · exact absurd (Json.same_of_same atom (atoms a restA) sameB sameA) (by simp [fresh a restA])
    · exact ih restA restB atoms others

/-- Looking up finds the tile with that kind and identifier. -/
theorem get?_eq_some_iff {catalog : Catalog} {kind : TileKind} {id : Json} {tile : Tile} :
    catalog.get? kind id = some tile ↔
      tile ∈ catalog.tiles ∧ tile.kind = kind ∧ tile.id.same id = true := by
  constructor
  · intro found
    have member := mem_partition.mp (List.mem_of_find?_eq_some found)
    exact ⟨member.1, member.2, by simpa using List.find?_some found⟩
  · rintro ⟨member, sameKind, sameId⟩
    cases found : catalog.get? kind id with
    | none =>
      have other := List.find?_eq_none.mp found tile (mem_partition.mpr ⟨member, sameKind⟩)
      exact absurd sameId other
    | some other =>
      have otherMember := mem_partition.mp (List.mem_of_find?_eq_some found)
      have same : other.id.same id = true := by simpa using List.find?_some found
      rw [eq_of_same otherMember.1 member same sameId]

/-- A tile that is looked up by a string has that string as its identifier. -/
theorem id_of_get?_str {catalog : Catalog} {kind : TileKind} {text : String} {tile : Tile}
    (found : catalog.get? kind (.str text) = some tile) : tile.id = .str text :=
  Json.eq_str_of_same (get?_eq_some_iff.mp found).2.2

/-- Whether the lighter tile comes first, or either may. -/
def inWeightOrder (a b : Tile) : Bool := a.sortWeight.isAtMost b.sortWeight

/-- The visible tiles of a kind as declared. -/
def visible (catalog : Catalog) (kind : TileKind) : List Tile :=
  (catalog.partition kind).filter fun tile => !tile.hidden

/-- The visible tiles of a kind, lighter ones first and equally heavy ones as declared. -/
def candidates (catalog : Catalog) (kind : TileKind) : List Tile :=
  StableSort.sort inWeightOrder (catalog.visible kind)

/-- Whether any two visible tiles of a kind have weights with an order. -/
def isRankable (catalog : Catalog) (kind : TileKind) : Bool :=
  (catalog.visible kind).Pairwise fun a b => a.sortWeight.isComparable b.sortWeight = true

/-- The candidates, provided that their weights have an order. -/
def rank (catalog : Catalog) (kind : TileKind) : Except Misfit (List Tile) :=
  if catalog.isRankable kind then .ok (catalog.candidates kind) else .error .weights

end Catalog

end TileBrain
