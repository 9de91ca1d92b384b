import Mathlib.Data.List.Count
import TileBrain.Catalog.Basic

/-! # Catalogs as declared

Tiles are entered one after another, up to the first whose identifier has parts or counts as the
same as that of a tile before it. `Catalog.keepsDeclared` says which tiles make a catalog and at
which of them a declaration fails otherwise, and that a catalog holds the tiles that were declared
and no others.

A tile is refused at a place of the list, `Catalog.RefusedAt`, where all tiles before it could be
entered. Where identifiers are texts this is the first place at which one is repeated, and the fault
names it with both kinds.
-/

namespace TileBrain

namespace Catalog

/-- All identifiers can be looked up, and no two count as the same. -/
structure Enterable (tiles : List Tile) : Prop where
  atomic : ∀ tile ∈ tiles, tile.id.isAtom = true
  distinct : tiles.Pairwise fun earlier tile => earlier.id.same tile.id = false

/-- The tiles in front of a place can be entered, and the one there cannot: its identifier is that
of a tile in front of it, or has parts. -/
inductive RefusedAt (tiles : List Tile) (place : Nat) : EntryFault → Prop where
  | repeated {earlier tile : Tile} (entered : Enterable (tiles.take place))
      (isTile : tiles[place]? = some tile) (atom : tile.id.isAtom = true)
      (isEarlier : earlier ∈ tiles.take place) (same : earlier.id.same tile.id = true) :
      RefusedAt tiles place (.duplicate ⟨tile.id, earlier.kind, tile.kind⟩)
  | parts {tile : Tile} (entered : Enterable (tiles.take place))
      (isTile : tiles[place]? = some tile) (parts : tile.id.isAtom = false) :
      RefusedAt tiles place (.misfit .id)

/-- The tile at a place is the first one to have the identifier of an earlier tile. -/
structure RepeatsAt (tiles : List Tile) (place : Nat) (earlier tile : Tile) : Prop where
  isTile : tiles[place]? = some tile
  isEarlier : earlier ∈ tiles.take place
  same : earlier.id = tile.id
  first : ((tiles.take place).map Tile.id).Nodup

/-- The catalog holds certain tiles, and nothing else. -/
structure Holds (catalog : Catalog) (tiles : List Tile) : Prop where
  lookup (kind : TileKind) (text : String) (tile : Tile) :
    catalog.lookup kind (.str text) = .ok tile ↔
      tile ∈ tiles ∧ tile.kind = kind ∧ tile.id = .str text
  unresolved (kind : TileKind) (text : String) (fault : Unresolved) :
    catalog.lookup kind (.str text) = .error fault ↔
      (∀ tile ∈ tiles, tile.kind = kind → tile.id ≠ .str text) ∧ fault = ⟨kind, .str text⟩
  get? (kind : TileKind) (text : String) :
    catalog.get? kind (.str text) = (catalog.lookup kind (.str text)).toOption
  /-- Of all values, only a text is taken for an identifier. -/
  contains (id : Json) :
    catalog.contains id = true ↔ id.isString = true ∧ ∃ tile ∈ tiles, tile.id = id
  /-- Kind after kind, and the tiles of a kind as they were declared. -/
  toList : catalog.toList =
    tiles.filter (·.kind = .sensor) ++ tiles.filter (·.kind = .filter) ++
      tiles.filter (·.kind = .actuator) ++ tiles.filter (·.kind = .modifier)
  perm : catalog.toList.Perm tiles
  size : catalog.size = tiles.length

/-- What becomes of a declaration. -/
structure KeepsDeclared (tiles : List Tile) : Prop where
  built_iff : (∃ catalog, ofTiles tiles = .ok catalog) ↔ Enterable tiles
  refused_iff (fault : EntryFault) :
    ofTiles tiles = .error fault ↔ ∃ place, RefusedAt tiles place fault
  /-- Among texts, only equal ones count as the same. -/
  built_texts_iff (texts : ∀ tile ∈ tiles, tile.id.isString = true) :
    (∃ catalog, ofTiles tiles = .ok catalog) ↔ (tiles.map Tile.id).Nodup
  refused_texts_iff (texts : ∀ tile ∈ tiles, tile.id.isString = true) (fault : EntryFault) :
    ofTiles tiles = .error fault ↔ ∃ place earlier tile, RepeatsAt tiles place earlier tile ∧
      fault = .duplicate ⟨tile.id, earlier.kind, tile.kind⟩ ∧
      fault.message = "duplicate tile id " ++ tile.id.shown ++ " (" ++ earlier.kind.label ++
        " and " ++ tile.kind.label ++ ")"
  holds (catalog : Catalog) (built : ofTiles tiles = .ok catalog) : catalog.Holds tiles

/-- Why a tile cannot be entered behind others. -/
def entryFault? (seen : List Tile) (tile : Tile) : Option EntryFault :=
  if tile.id.isAtom then
    (seen.find? (·.id.same tile.id)).map fun earlier =>
      .duplicate ⟨tile.id, earlier.kind, tile.kind⟩
  else some (.misfit .id)

private theorem firstFault?_cons (seen : List Tile) (tile : Tile) (rest : List Tile) :
    firstFault? seen (tile :: rest) =
      (entryFault? seen tile).or (firstFault? (seen ++ [tile]) rest) := by
  rw [firstFault?, entryFault?]
  split
  · cases seen.find? (·.id.same tile.id) <;> rfl
  · rfl

/-- The first fault is that of the tile behind those that can be entered. -/
theorem firstFault?_eq_some_iff {seen tiles : List Tile} {fault : EntryFault} :
    firstFault? seen tiles = some fault ↔
      ∃ place tile, tiles[place]? = some tile ∧ firstFault? seen (tiles.take place) = none ∧
        entryFault? (seen ++ tiles.take place) tile = some fault := by
  induction tiles generalizing seen with
  | nil => simp [firstFault?]
  | cons tile rest ih =>
    rw [firstFault?_cons, Option.or_eq_some_iff, ih]
    constructor
    · rintro (here | ⟨entered, place, other, isOther, fine, faulty⟩)
      · refine ⟨0, tile, rfl, rfl, ?_⟩
        rwa [List.take_zero, List.append_nil]
      · refine ⟨place + 1, other, isOther, ?_, ?_⟩
        · rw [List.take_succ_cons, firstFault?_cons, entered, fine]
          rfl
        · rwa [List.take_succ_cons, List.append_cons]
    · rintro ⟨place, other, isOther, fine, faulty⟩
      cases place with
      | zero =>
        obtain rfl := Option.some.inj isOther
        rw [List.take_zero, List.append_nil] at faulty
        exact .inl faulty
      | succ place =>
        rw [List.take_succ_cons, firstFault?_cons, Option.or_eq_none_iff] at fine
        rw [List.take_succ_cons, List.append_cons] at faulty
        exact .inr ⟨fine.1, place, other, isOther, fine.2, faulty⟩

private theorem firstFault?_eq_none_iff_enterable {tiles : List Tile} :
    firstFault? [] tiles = none ↔ Enterable tiles := by
  rw [firstFault?_eq_none_iff]
  constructor
  · rintro ⟨atomic, distinct, _⟩
    exact ⟨atomic, distinct⟩
  · rintro ⟨atomic, distinct⟩
    exact ⟨atomic, distinct, nofun⟩

/-- Among tiles that can be entered, at most one has a certain identifier. -/
theorem Enterable.eq_of_same {tiles : List Tile} (entered : Enterable tiles) {a b : Tile}
    {id : Json} (memberA : a ∈ tiles) (memberB : b ∈ tiles) (sameA : a.id.same id = true)
    (sameB : b.id.same id = true) : a = b := by
  let catalog : Catalog := ⟨tiles, entered.atomic, entered.distinct⟩
  have isDeclared : a ∈ catalog.tiles := memberA
  exact Catalog.eq_of_same isDeclared memberB sameA sameB

/-- Behind tiles that are told apart by their identifiers, a repeated one names one of them. -/
private theorem entryFault?_eq_some_iff {seen : List Tile} (entered : Enterable seen) {tile : Tile}
    {fault : EntryFault} :
    entryFault? seen tile = some fault ↔
      (tile.id.isAtom = true ∧ ∃ earlier ∈ seen, earlier.id.same tile.id = true ∧
        fault = .duplicate ⟨tile.id, earlier.kind, tile.kind⟩) ∨
      (tile.id.isAtom = false ∧ fault = .misfit .id) := by
  unfold entryFault?
  by_cases atom : tile.id.isAtom = true
  · simp only [atom, if_true, Option.map_eq_some_iff, true_and, Bool.true_eq_false, false_and,
      or_false]
    constructor
    · rintro ⟨earlier, found, rfl⟩
      have same : earlier.id.same tile.id = true := by simpa using List.find?_some found
      exact ⟨earlier, List.mem_of_find?_eq_some found, same, rfl⟩
    · rintro ⟨earlier, isEarlier, same, rfl⟩
      have isFound : (seen.find? (·.id.same tile.id)).isSome = true :=
        List.find?_isSome.mpr ⟨earlier, isEarlier, same⟩
      obtain ⟨other, found⟩ := Option.isSome_iff_exists.mp isFound
      have sameOther : other.id.same tile.id = true := by simpa using List.find?_some found
      have one : other = earlier := entered.eq_of_same (List.mem_of_find?_eq_some found) isEarlier
        sameOther same
      exact ⟨other, found, by rw [one]⟩
  · have parts : tile.id.isAtom = false := Bool.eq_false_iff.mpr atom
    simp only [parts, Bool.false_eq_true, if_false, false_and, false_or, true_and,
      Option.some.injEq]
    exact eq_comm

private theorem ofTiles_eq_error_iff {tiles : List Tile} {fault : EntryFault} :
    ofTiles tiles = .error fault ↔ firstFault? [] tiles = some fault := by
  unfold ofTiles
  split
  next other faulty => rw [faulty, Except.error.injEq, Option.some.injEq]
  next fine => simp [fine]

/-- A catalog has the tiles that it was made of. -/
theorem tiles_of_ofTiles {tiles : List Tile} {catalog : Catalog}
    (built : ofTiles tiles = .ok catalog) : catalog.tiles = tiles := by
  unfold ofTiles at built
  split at built
  · exact nomatch built
  · rw [← Except.ok.inj built]

/-- Tiles that can be entered make a catalog. -/
theorem ofTiles_tiles (catalog : Catalog) : ofTiles catalog.tiles = .ok catalog := by
  have fine : firstFault? [] catalog.tiles = none :=
    firstFault?_eq_none_iff_enterable.mpr ⟨catalog.ids_atomic, catalog.ids_distinct⟩
  unfold ofTiles
  split
  next faulty => exact nomatch fine.symm.trans faulty
  next => rfl

private theorem exists_ofTiles_iff {tiles : List Tile} :
    (∃ catalog, ofTiles tiles = .ok catalog) ↔ Enterable tiles := by
  constructor
  · rintro ⟨catalog, built⟩
    obtain rfl := tiles_of_ofTiles built
    exact ⟨catalog.ids_atomic, catalog.ids_distinct⟩
  · rintro ⟨atomic, distinct⟩
    exact ⟨⟨tiles, atomic, distinct⟩, ofTiles_tiles ⟨tiles, atomic, distinct⟩⟩

/-- A declaration fails at the first tile that cannot be entered. -/
theorem ofTiles_eq_error_iff_refusedAt {tiles : List Tile} {fault : EntryFault} :
    ofTiles tiles = .error fault ↔ ∃ place, RefusedAt tiles place fault := by
  simp only [ofTiles_eq_error_iff, firstFault?_eq_some_iff, List.nil_append,
    firstFault?_eq_none_iff_enterable]
  constructor
  · rintro ⟨place, tile, isTile, entered, faulty⟩
    obtain ⟨atom, earlier, isEarlier, same, rfl⟩ | ⟨parts, rfl⟩ :=
      (entryFault?_eq_some_iff entered).mp faulty
    · exact ⟨place, .repeated entered isTile atom isEarlier same⟩
    · exact ⟨place, .parts entered isTile parts⟩
  · rintro ⟨place, refused⟩
    cases refused with
    | repeated entered isTile atom isEarlier same =>
      exact ⟨place, _, isTile, entered,
        (entryFault?_eq_some_iff entered).mpr (.inl ⟨atom, _, isEarlier, same, rfl⟩)⟩
    | parts entered isTile parts =>
      exact ⟨place, _, isTile, entered, (entryFault?_eq_some_iff entered).mpr (.inr ⟨parts, rfl⟩)⟩

/-- Tiles with texts as identifiers can be entered if no two have the same one. -/
theorem enterable_iff_nodup {tiles : List Tile}
    (texts : ∀ tile ∈ tiles, tile.id.isString = true) :
    Enterable tiles ↔ (tiles.map Tile.id).Nodup := by
  have distinct_iff : (tiles.Pairwise fun earlier tile => earlier.id.same tile.id = false) ↔
      tiles.Pairwise fun earlier tile => earlier.id ≠ tile.id := by
    apply List.Pairwise.iff_of_mem
    intro earlier tile isEarlier _
    rw [ne_eq, ← Json.same_iff_of_isString (texts earlier isEarlier), Bool.not_eq_true]
  rw [List.Nodup, List.pairwise_map, ← distinct_iff]
  constructor
  · intro enterable
    exact enterable.distinct
  · intro distinct
    exact ⟨fun tile member => Json.isAtom_of_isString (texts tile member), distinct⟩

/-- Texts have no parts, so that one is refused only where it is repeated. -/
theorem refusedAt_iff_repeatsAt {tiles : List Tile}
    (texts : ∀ tile ∈ tiles, tile.id.isString = true) {place : Nat} {fault : EntryFault} :
    RefusedAt tiles place fault ↔ ∃ earlier tile, RepeatsAt tiles place earlier tile ∧
      fault = .duplicate ⟨tile.id, earlier.kind, tile.kind⟩ := by
  have taken : ∀ tile ∈ tiles.take place, tile.id.isString = true :=
    fun tile member => texts tile (List.mem_of_mem_take member)
  constructor
  · intro refused
    cases refused with
    | @repeated earlier tile entered isTile atom isEarlier same =>
      have sameText := (Json.same_iff_of_isString (taken _ isEarlier)).mp same
      have first := (enterable_iff_nodup taken).mp entered
      exact ⟨earlier, tile, ⟨isTile, isEarlier, sameText, first⟩, rfl⟩
    | @parts tile _ isTile parts =>
      have atom := Json.isAtom_of_isString (texts tile (List.mem_of_getElem? isTile))
      exact nomatch parts.symm.trans atom
  · rintro ⟨earlier, tile, repeats, rfl⟩
    have entered := (enterable_iff_nodup taken).mpr repeats.first
    have atom := Json.isAtom_of_isString (texts tile (List.mem_of_getElem? repeats.isTile))
    have same := (Json.same_iff_of_isString (taken _ repeats.isEarlier)).mpr repeats.same
    exact .repeated entered repeats.isTile atom repeats.isEarlier same

/-- Each tile is listed once, with those of its kind. -/
theorem toList_perm (catalog : Catalog) : catalog.toList.Perm catalog.tiles := by
  rw [List.perm_iff_count]
  intro tile
  have inPartition (kind : TileKind) : (catalog.partition kind).count tile =
      if tile.kind = kind then catalog.tiles.count tile else 0 := by
    split
    next isKind => exact List.count_filter (by simp [isKind])
    next other => exact List.count_eq_zero.mpr fun member => other (mem_partition.mp member).2
  simp only [toList, TileKind.all, List.flatMap_cons, List.flatMap_nil, List.count_append,
    List.count_nil, inPartition]
  cases tile.kind <;> simp

variable {catalog : Catalog} {kind : TileKind} {text : String}

theorem lookup_eq_ok_iff {id : Json} {tile : Tile} :
    catalog.lookup kind id = .ok tile ↔ catalog.get? kind id = some tile := by
  unfold lookup
  split
  next found => rw [found, Except.ok.injEq, Option.some.injEq]
  next missing => simp [missing]

theorem lookup_eq_error_iff {id : Json} {fault : Unresolved} :
    catalog.lookup kind id = .error fault ↔ catalog.get? kind id = none ∧ fault = ⟨kind, id⟩ := by
  unfold lookup
  split
  next found => simp [found]
  next missing => simp [missing, eq_comm]

theorem get?_str_eq_some_iff {tile : Tile} :
    catalog.get? kind (.str text) = some tile ↔
      tile ∈ catalog.tiles ∧ tile.kind = kind ∧ tile.id = .str text := by
  rw [get?_eq_some_iff]
  refine and_congr_right fun _ => and_congr_right fun _ => ⟨Json.eq_str_of_same, ?_⟩
  intro isText
  rw [isText, Json.same_str_iff]

theorem contains_iff {id : Json} :
    catalog.contains id = true ↔ id.isString = true ∧ ∃ tile ∈ catalog.tiles, tile.id = id := by
  rw [contains, Bool.and_eq_true, List.any_eq_true]
  apply and_congr_right
  intro isString
  refine exists_congr fun tile => and_congr_right fun _ => ?_
  obtain ⟨text, rfl⟩ := Json.isString_iff.mp isString
  constructor
  · exact Json.eq_str_of_same
  · intro isText
    rw [isText, Json.same_str_iff]

private theorem holds_tiles (catalog : Catalog) : catalog.Holds catalog.tiles where
  lookup kind text tile := lookup_eq_ok_iff.trans get?_str_eq_some_iff
  unresolved kind text fault := by
    rw [lookup_eq_error_iff, Option.eq_none_iff_forall_ne_some]
    simp only [ne_eq, get?_str_eq_some_iff, not_and]
  get? kind text := by
    cases found : catalog.lookup kind (.str text) with
    | ok tile => exact lookup_eq_ok_iff.mp found
    | error fault => exact (lookup_eq_error_iff.mp found).1
  contains _ := contains_iff
  toList := by
    simp only [Catalog.toList, TileKind.all, List.flatMap_cons, List.flatMap_nil, List.append_nil,
      List.append_assoc, partition]
  perm := catalog.toList_perm
  size := catalog.toList_perm.length_eq

/-- A declaration with distinct identifiers is kept as it is, and any other fails where the first is
repeated. -/
theorem keepsDeclared (tiles : List Tile) : KeepsDeclared tiles where
  built_iff := exists_ofTiles_iff
  refused_iff _ := ofTiles_eq_error_iff_refusedAt
  built_texts_iff texts := exists_ofTiles_iff.trans (enterable_iff_nodup texts)
  refused_texts_iff texts fault := by
    rw [ofTiles_eq_error_iff_refusedAt]
    refine exists_congr fun place => (refusedAt_iff_repeatsAt texts).trans ?_
    refine exists_congr fun earlier => exists_congr fun tile => and_congr_right fun _ => ?_
    exact ⟨fun isFault => ⟨isFault, by rw [isFault]; rfl⟩, And.left⟩
  holds catalog built := tiles_of_ofTiles built ▸ catalog.holds_tiles

end Catalog

end TileBrain
