import TileBrain.Catalog.Builtin
import TileBrain.Proofs.Accumulation
import TileBrain.Proofs.Audit.Legality

/-! # Exceeded caps

A tile may cap the number of tiles of its category in a chain. The audit passes over a chain once
and keeps the tiles in mind that it has reported. `Rule.reportsCaps` says what comes of that: of
each category in which a tile wants fewer than there are, the first such tile is reported and no
other. The loop is `Rule.overCountsFrom_eq`: the tiles reported so far stand for all whose caps were
found exceeded so far, since belonging to one category is transitive where categories can be
counted.
-/

namespace TileBrain

/-- A handling entry of the tile caps its category. -/
def Tile.SetsCap (tile : Tile) (cap : Int) : Prop :=
  ∃ block, tile.constraints = some block ∧ .maxCount cap ∈ block.handling

/-- A tile at a position of a chain, and the cap that it sets. -/
@[ext]
structure Excess where
  position : Nat
  tile : Tile
  cap : Int

namespace Excess

/-- The tile stands there, and among the tiles are more of its category than it wants. -/
structure IsIn (excess : Excess) (tiles : List Tile) : Prop where
  present : tiles[excess.position]? = some excess.tile
  setsCap : excess.tile.SetsCap excess.cap
  exceeded : excess.cap < Rule.countAlike tiles excess.tile

/-- The issue about it, with the number of all tiles of the category. -/
def issue (excess : Excess) (chain : Chain) (tiles : List Tile) (page index : Int) :
    Issue Json where
  page
  rule := index
  category := "max-count"
  message := toString (Rule.countAlike tiles excess.tile) ++ " " ++ chain.label ++
    "(s) of category " ++ excess.tile.category.shown ++ ", cap is " ++ toString excess.cap
  severity := "low"
  id := some excess.tile.id

end Excess

/-- Of each category in which caps are exceeded, the first tile is listed whose own cap is. -/
structure ListsExcesses (tiles : List Tile) (listed : List Excess) : Prop where
  ordered : listed.Pairwise (·.position < ·.position)
  mem_iff (excess : Excess) :
    excess ∈ listed ↔ excess.IsIn tiles ∧
      ∀ earlier : Excess, earlier.IsIn tiles → earlier.position < excess.position →
        earlier.tile.sharesCategory excess.tile = false
  once (excess : Excess) (isIn : excess.IsIn tiles) :
    ∃! first, first ∈ listed ∧ first.tile.sharesCategory excess.tile = true
  /-- An entry under the key of caps sets none if its value is not a whole number. -/
  mistyped (tile : Tile) (block : Constraints) (own : tile.constraints = some block)
      (entry : Handling) (member : entry ∈ block.handling)
      (key : entry.key = Handling.maxCountKey) (other : ∀ cap, entry ≠ .maxCount cap) :
    ∀ excess : Excess, excess.IsIn tiles → excess.tile ≠ tile

/-- What the audit of a rule reports about caps. A chain without its anchor is passed over. -/
structure Rule.ReportsCaps (rule : Rule) (catalog : Catalog) (page index : Int) : Prop where
  ends (rankable : ∀ chain : Chain, catalog.isRankable chain.kind = true)
      (countable : ∀ chain, rule.isCountable chain = true) :
    ∃ issues, (rule.audit catalog page index).outcome = .ok issues
  reported (issues : List (Issue Json))
      (ended : (rule.audit catalog page index).outcome = .ok issues) :
    ∃ listed : Chain → List Excess,
      (∀ chain, (rule.anchor? chain).isSome = true →
        ListsExcesses (rule.chain chain) (listed chain)) ∧
      (∀ chain, rule.anchor? chain = none → listed chain = []) ∧
      issues.filter (·.category = "max-count") =
        [Chain.filters, .modifiers].flatMap fun chain =>
          (listed chain).map (·.issue chain (rule.chain chain) page index)

namespace Handling

private theorem cap?_eq_some_iff {entry : Handling} {cap : Int} :
    entry.cap? = some cap ↔ entry = .maxCount cap := by
  cases entry <;> simp [cap?]

end Handling

namespace Tile

variable {tile other third : Tile} {tiles : List Tile} {cap : Int}

private theorem cap?_eq_some_iff : tile.cap? = some cap ↔ tile.SetsCap cap := by
  simp only [cap?, Option.bind_eq_some_iff, Constraints.handlingFor?_eq_some_iff,
    Handling.cap?_eq_some_iff, SetsCap]
  constructor
  · rintro ⟨_, ⟨block, own, member, _⟩, rfl⟩
    exact ⟨block, own, member⟩
  · rintro ⟨block, own, member⟩
    exact ⟨_, ⟨block, own, member, rfl⟩, rfl⟩

/-- A tile sets one cap at most. -/
theorem SetsCap.unique {another : Int} (setsCap : tile.SetsCap cap)
    (setsAnother : tile.SetsCap another) : cap = another := by
  rw [← cap?_eq_some_iff] at setsCap setsAnother
  exact Option.some.inj (setsCap.symm.trans setsAnother)

/-- The cap of a tile, if there are more tiles of its category than it wants. -/
def exceededCap? (tile : Tile) (tiles : List Tile) : Option Int :=
  tile.cap?.filter fun cap => cap < Rule.countAlike tiles tile

private theorem exceededCap?_eq_some_iff :
    tile.exceededCap? tiles = some cap ↔
      tile.SetsCap cap ∧ cap < Rule.countAlike tiles tile := by
  rw [exceededCap?, Option.filter_eq_some_iff, cap?_eq_some_iff, decide_eq_true_iff]

/-- Tiles are of one category if they are the same, or if their categories have a key in common. -/
theorem sharesCategory_iff (atom : tile.category.isAtom = true) :
    tile.sharesCategory other = true ↔
      tile = other ∨ ∃ key, tile.category.key? = some key ∧ other.category.key? = some key := by
  rw [sharesCategory, Bool.or_eq_true, decide_eq_true_iff, Json.same_of_isAtom atom]
  cases tile.category.key? <;> cases other.category.key? <;> simp [Json.sameKey, eq_comm]

private theorem sharesCategory_self (tile : Tile) : tile.sharesCategory tile = true := by
  simp [sharesCategory]

private theorem sharesCategory_symm (atom : tile.category.isAtom = true)
    (otherAtom : other.category.isAtom = true) (alike : tile.sharesCategory other = true) :
    other.sharesCategory tile = true := by
  rw [sharesCategory_iff atom] at alike
  rw [sharesCategory_iff otherAtom]
  rcases alike with rfl | ⟨key, first, second⟩
  · exact .inl rfl
  · exact .inr ⟨key, second, first⟩

private theorem sharesCategory_trans (atom : tile.category.isAtom = true)
    (otherAtom : other.category.isAtom = true) (first : tile.sharesCategory other = true)
    (second : other.sharesCategory third = true) : tile.sharesCategory third = true := by
  rw [sharesCategory_iff atom] at first ⊢
  rw [sharesCategory_iff otherAtom] at second
  rcases first with rfl | ⟨key, isKey, shared⟩
  · exact second
  · rcases second with rfl | ⟨another, otherKey, sharedBoth⟩
    · exact .inr ⟨key, isKey, shared⟩
    · obtain rfl := Option.some.inj (shared.symm.trans otherKey)
      exact .inr ⟨key, isKey, sharedBoth⟩

end Tile

section Excesses

variable {tiles : List Tile} {excess : Excess} {position : Nat}

/-- Whether one of the earlier tiles of the category of a tile finds its cap exceeded. -/
def isForestalled (tiles earlier : List Tile) (tile : Tile) : Bool :=
  earlier.any fun other => (other.exceededCap? tiles).isSome && other.sharesCategory tile

/-- The excess at a position, unless there is one of its category before. -/
def excessAt? (tiles : List Tile) (position : Nat) : Option Excess :=
  tiles[position]?.bind fun tile =>
    if isForestalled tiles (tiles.take position) tile then none
    else (tile.exceededCap? tiles).map (Excess.mk position tile)

/-- The first excess of each category. -/
def excesses (tiles : List Tile) : List Excess :=
  (List.range tiles.length).filterMap (excessAt? tiles)

private theorem isForestalled_take_iff {tile : Tile} :
    isForestalled tiles (tiles.take position) tile = true ↔
      ∃ earlier : Excess, earlier.IsIn tiles ∧ earlier.position < position ∧
        earlier.tile.sharesCategory tile = true := by
  simp only [isForestalled, List.any_eq_true, Bool.and_eq_true, Option.isSome_iff_exists,
    Tile.exceededCap?_eq_some_iff, List.mem_iff_getElem?, List.getElem?_take,
    Option.ite_none_right_eq_some]
  constructor
  · rintro ⟨other, ⟨place, before, present⟩, ⟨cap, setsCap, exceeded⟩, alike⟩
    exact ⟨⟨place, other, cap⟩, ⟨present, setsCap, exceeded⟩, before, alike⟩
  · rintro ⟨earlier, isIn, before, alike⟩
    exact ⟨earlier.tile, ⟨earlier.position, before, isIn.present⟩,
      ⟨earlier.cap, isIn.setsCap, isIn.exceeded⟩, alike⟩

private theorem excessAt?_eq_some_iff :
    excessAt? tiles position = some excess ↔
      excess.position = position ∧ excess.IsIn tiles ∧
        ∀ earlier : Excess, earlier.IsIn tiles → earlier.position < excess.position →
          earlier.tile.sharesCategory excess.tile = false := by
  have first (tile : Tile) : isForestalled tiles (tiles.take position) tile = false ↔
      ∀ earlier : Excess, earlier.IsIn tiles → earlier.position < position →
        earlier.tile.sharesCategory tile = false := by
    rw [← Bool.not_eq_true, isForestalled_take_iff]
    simp only [not_exists, not_and, Bool.not_eq_true]
  simp only [excessAt?, Option.bind_eq_some_iff, Option.ite_none_left_eq_some,
    Bool.not_eq_true, first, Option.map_eq_some_iff, Tile.exceededCap?_eq_some_iff]
  constructor
  · rintro ⟨tile, present, unforestalled, cap, ⟨setsCap, exceeded⟩, rfl⟩
    exact ⟨rfl, ⟨present, setsCap, exceeded⟩, unforestalled⟩
  · rintro ⟨rfl, ⟨present, setsCap, exceeded⟩, unforestalled⟩
    exact ⟨excess.tile, present, unforestalled, excess.cap, ⟨setsCap, exceeded⟩, rfl⟩

private theorem mem_excesses :
    excess ∈ excesses tiles ↔ excess.IsIn tiles ∧
      ∀ earlier : Excess, earlier.IsIn tiles → earlier.position < excess.position →
        earlier.tile.sharesCategory excess.tile = false := by
  simp only [excesses, List.mem_filterMap, List.mem_range, excessAt?_eq_some_iff]
  constructor
  · rintro ⟨_, _, _, isFirst⟩
    exact isFirst
  · intro isFirst
    have within := (List.getElem?_eq_some_iff.mp isFirst.1.present).1
    exact ⟨excess.position, within, rfl, isFirst⟩

private theorem pairwise_excesses : (excesses tiles).Pairwise (·.position < ·.position) := by
  apply List.pairwise_lt_range.filterMap
  intro position later before first isFirst second isSecond
  rw [(excessAt?_eq_some_iff.mp isFirst).1, (excessAt?_eq_some_iff.mp isSecond).1]
  exact before

namespace Excess

private theorem IsIn.mem (isIn : excess.IsIn tiles) : excess.tile ∈ tiles :=
  List.mem_of_getElem? isIn.present

/-- There is one excess at most at a position. -/
theorem IsIn.unique {other : Excess} (isIn : excess.IsIn tiles) (otherIsIn : other.IsIn tiles)
    (same : excess.position = other.position) : excess = other := by
  have present := isIn.present
  rw [same, otherIsIn.present] at present
  have sameTile := Option.some.inj present.symm
  have setsCap := isIn.setsCap
  rw [sameTile] at setsCap
  exact Excess.ext same sameTile (setsCap.unique otherIsIn.setsCap)

end Excess

/-- An excess is listed, or one of its category before it. -/
theorem exists_mem_excesses (countable : ∀ tile ∈ tiles, tile.category.isAtom = true)
    (isIn : excess.IsIn tiles) :
    ∃ first ∈ excesses tiles, first.tile.sharesCategory excess.tile = true := by
  induction before : excess.position using Nat.strongRecOn generalizing excess with
  | _ position ih =>
    by_cases isFirst : ∀ earlier : Excess, earlier.IsIn tiles →
        earlier.position < excess.position → earlier.tile.sharesCategory excess.tile = false
    · exact ⟨excess, mem_excesses.mpr ⟨isIn, isFirst⟩, excess.tile.sharesCategory_self⟩
    · simp only [not_forall, Bool.not_eq_false] at isFirst
      obtain ⟨earlier, earlierIsIn, isEarlier, alike⟩ := isFirst
      obtain ⟨first, member, alikeFirst⟩ :=
        ih earlier.position (before ▸ isEarlier) earlierIsIn rfl
      have atom := countable _ (mem_excesses.mp member).1.mem
      exact ⟨first, member,
        Tile.sharesCategory_trans atom (countable _ earlierIsIn.mem) alikeFirst alike⟩

private theorem existsUnique_mem_excesses (countable : ∀ tile ∈ tiles, tile.category.isAtom = true)
    (isIn : excess.IsIn tiles) :
    ∃! first, first ∈ excesses tiles ∧ first.tile.sharesCategory excess.tile = true := by
  obtain ⟨first, member, alike⟩ := exists_mem_excesses countable isIn
  refine ⟨first, ⟨member, alike⟩, ?_⟩
  rintro other ⟨otherMember, otherAlike⟩
  obtain ⟨firstIsIn, isFirst⟩ := mem_excesses.mp member
  obtain ⟨otherIsIn, otherIsFirst⟩ := mem_excesses.mp otherMember
  have atom := countable _ firstIsIn.mem
  have otherAtom := countable _ otherIsIn.mem
  have excessAtom := countable _ isIn.mem
  have together : first.tile.sharesCategory other.tile = true :=
    Tile.sharesCategory_trans atom excessAtom alike
      (Tile.sharesCategory_symm otherAtom excessAtom otherAlike)
  rcases Nat.lt_trichotomy other.position first.position with before | same | after
  · have apart := isFirst other otherIsIn before
    rw [Tile.sharesCategory_symm atom otherAtom together] at apart
    contradiction
  · exact otherIsIn.unique firstIsIn same
  · have apart := otherIsFirst first firstIsIn after
    rw [together] at apart
    contradiction

/-- A block has one entry under a key, and only a cap sets a cap. -/
private theorem Excess.IsIn.ne_of_mistyped (isIn : excess.IsIn tiles) {tile : Tile}
    {block : Constraints} (own : tile.constraints = some block) {entry : Handling}
    (member : entry ∈ block.handling) (key : entry.key = Handling.maxCountKey)
    (other : ∀ cap, entry ≠ .maxCount cap) :
    excess.tile ≠ tile := by
  rintro rfl
  obtain ⟨same, isOwn, capped⟩ := isIn.setsCap
  obtain rfl := Option.some.inj (own.symm.trans isOwn)
  have found := Constraints.handlingFor?_eq_some_iff.mpr ⟨member, key⟩
  have foundCap := Constraints.handlingFor?_eq_some_iff.mpr ⟨capped, rfl⟩
  exact other excess.cap (Option.some.inj (found.symm.trans foundCap))

private theorem listsExcesses (countable : ∀ tile ∈ tiles, tile.category.isAtom = true) :
    ListsExcesses tiles (excesses tiles) where
  ordered := pairwise_excesses
  mem_iff _ := mem_excesses
  once _ := existsUnique_mem_excesses countable
  mistyped _ _ own _ member key other _ isIn := isIn.ne_of_mistyped own member key other

end Excesses

/-- The finding about it. -/
def Excess.finding (excess : Excess) (chain : Chain) (tiles : List Tile) : Finding :=
  .overCount chain excess.tile (Rule.countAlike tiles excess.tile) excess.cap

private theorem Excess.toIssue_finding (excess : Excess) (chain : Chain) (tiles : List Tile)
    (page index : Int) :
    (excess.finding chain tiles).toIssue page index = excess.issue chain tiles page index := rfl

namespace Rule

variable {chain : Chain} {tiles reported rest : List Tile}

/-- One round of the loop. -/
private theorem overCountsFrom_cons (tile : Tile) :
    overCountsFrom chain tiles reported (tile :: rest) =
      if reported.any (·.sharesCategory tile) then overCountsFrom chain tiles reported rest
      else match tile.exceededCap? tiles with
        | some cap =>
          .overCount chain tile (countAlike tiles tile) cap ::
            overCountsFrom chain tiles (tile :: reported) rest
        | none => overCountsFrom chain tiles reported rest := by
  rw [overCountsFrom, Tile.exceededCap?]
  cases tile.cap? with
  | none => simp
  | some cap =>
    cases reported.any (·.sharesCategory tile) <;>
      by_cases exceeded : cap < countAlike tiles tile <;> simp [Option.filter, exceeded]

private theorem isForestalled_concat (earlier : List Tile) (tile other : Tile) :
    isForestalled tiles (earlier ++ [tile]) other =
      (isForestalled tiles earlier other ||
        ((tile.exceededCap? tiles).isSome && tile.sharesCategory other)) := by
  simp [isForestalled]

/-- A tile that comes too late adds nothing: one of its category was there before. -/
private theorem isForestalled_of_sharesCategory
    (countable : ∀ tile ∈ tiles, tile.category.isAtom = true) {earlier : List Tile}
    (subset : earlier ⊆ tiles) {tile other : Tile} (member : tile ∈ tiles)
    (forestalled : isForestalled tiles earlier tile = true)
    (alike : tile.sharesCategory other = true) : isForestalled tiles earlier other = true := by
  simp only [isForestalled, List.any_eq_true, Bool.and_eq_true] at forestalled ⊢
  obtain ⟨first, isEarlier, exceeded, alikeFirst⟩ := forestalled
  exact ⟨first, isEarlier, exceeded, Tile.sharesCategory_trans (countable first (subset isEarlier))
    (countable tile member) alikeFirst alike⟩

/-- The tiles reported so far stand for all earlier tiles whose caps are exceeded. -/
def StandsFor (tiles reported earlier : List Tile) : Prop :=
  ∀ tile, reported.any (·.sharesCategory tile) = isForestalled tiles earlier tile

namespace StandsFor

variable {earlier : List Tile} {tile : Tile} (stands : StandsFor tiles reported earlier)
include stands

/-- They still do behind a tile of a category that was reported. -/
private theorem of_isForestalled (countable : ∀ tile ∈ tiles, tile.category.isAtom = true)
    (subset : earlier ++ [tile] ⊆ tiles) (forestalled : isForestalled tiles earlier tile = true) :
    StandsFor tiles reported (earlier ++ [tile]) := by
  obtain ⟨before, member⟩ := List.append_subset.mp subset
  intro other
  rw [stands, isForestalled_concat, Bool.eq_iff_iff, Bool.or_eq_true, Bool.and_eq_true]
  refine ⟨.inl, ?_⟩
  rintro (already | ⟨_, alike⟩)
  · exact already
  · exact isForestalled_of_sharesCategory countable before (member List.mem_cons_self)
      forestalled alike

/-- They still do behind a tile whose cap is not exceeded. -/
private theorem of_not_exceeded (within : tile.exceededCap? tiles = none) :
    StandsFor tiles reported (earlier ++ [tile]) := by
  intro other
  rw [stands, isForestalled_concat, within, Option.isSome_none, Bool.false_and, Bool.or_false]

/-- They do again once a tile is reported whose cap is. -/
private theorem report {cap : Int} (exceeded : tile.exceededCap? tiles = some cap) :
    StandsFor tiles (tile :: reported) (earlier ++ [tile]) := by
  intro other
  rw [List.any_cons, stands, isForestalled_concat, exceeded, Option.isSome_some, Bool.true_and,
    Bool.or_comm]

end StandsFor

/-- The loop finds the first excess of each category from where it is. -/
theorem overCountsFrom_eq (countable : ∀ tile ∈ tiles, tile.category.isAtom = true)
    {earlier : List Tile} (whole : earlier ++ rest = tiles)
    (stands : StandsFor tiles reported earlier) :
    overCountsFrom chain tiles reported rest =
      ((List.range' earlier.length rest.length).filterMap (excessAt? tiles)).map
        (·.finding chain tiles) := by
  induction rest generalizing earlier reported with
  | nil => rfl
  | cons tile rest ih =>
    have next : (earlier ++ [tile]) ++ rest = tiles := by simp [← whole]
    have here : excessAt? tiles earlier.length =
        if isForestalled tiles earlier tile then none
        else (tile.exceededCap? tiles).map (Excess.mk earlier.length tile) := by
      simp [excessAt?, ← whole]
    have others {reported : List Tile} (standsNext : StandsFor tiles reported (earlier ++ [tile])) :
        overCountsFrom chain tiles reported rest =
          ((List.range' (earlier.length + 1) rest.length).filterMap (excessAt? tiles)).map
            (·.finding chain tiles) := by
      rw [ih next standsNext, List.length_append, List.length_singleton]
    rw [overCountsFrom_cons, stands, List.length_cons, List.range'_succ, List.filterMap_cons, here]
    cases forestalled : isForestalled tiles earlier tile with
    | true =>
      have subset : earlier ++ [tile] ⊆ tiles := next ▸ List.subset_append_left _ _
      exact others (stands.of_isForestalled countable subset forestalled)
    | false =>
      cases capped : tile.exceededCap? tiles with
      | none => exact others (stands.of_not_exceeded capped)
      | some cap =>
        simp only [Bool.false_eq_true, if_false, Option.map_some, List.map_cons,
          others (stands.report capped)]
        rfl

variable {rule : Rule} {catalog : Catalog} {page index : Int}

private theorem overCountFindings_eq (countable : rule.isCountable chain = true) :
    rule.overCountFindings chain =
      (excesses (rule.chain chain)).map (·.finding chain (rule.chain chain)) := by
  have atoms := List.all_eq_true.mp countable
  rw [overCountFindings, overCountsFrom_eq atoms (List.nil_append _) fun _ => rfl, excesses,
    List.range_eq_range']
  rfl

/-- The excesses that are reported of a chain. -/
def reportedExcesses (rule : Rule) (chain : Chain) : List Excess :=
  if (rule.anchor? chain).isNone then [] else excesses (rule.chain chain)

/-- What is found about caps in a chain that can be counted, or that is passed over. -/
theorem filter_maxCount_chainFindings
    (countable : (rule.anchor? chain).isSome = true → rule.isCountable chain = true) :
    (rule.chainFindings catalog chain).filter (·.category = .maxCount) =
      (rule.reportedExcesses chain).map (·.finding chain (rule.chain chain)) := by
  have places : (rule.placementFindings catalog chain).filter (·.category = .maxCount) = [] := by
    rw [List.filter_eq_nil_iff]
    intro finding member
    rcases category_placementFindings member with same | same <;> rw [same] <;> decide
  have caps : (rule.overCountFindings chain).filter (·.category = .maxCount) =
      rule.overCountFindings chain := by
    rw [List.filter_eq_self]
    exact fun finding member => decide_eq_true (category_overCountsFrom _ _ _ finding member)
  unfold chainFindings reportedExcesses
  cases anchored : rule.anchor? chain with
  | none => rfl
  | some anchor =>
    rw [anchored] at countable
    simp only [Option.isNone_some, Bool.false_eq_true, if_false]
    rw [List.filter_append, places, caps, List.nil_append, overCountFindings_eq (countable rfl)]

/-- The issues about caps are about the excesses of the filters, and then of the modifiers. -/
theorem filter_maxCount_issues
    (countable : ∀ chain, (rule.anchor? chain).isSome = true → rule.isCountable chain = true) :
    (rule.issues catalog page index).filter (·.category = Finding.Category.maxCount.label) =
      [Chain.filters, .modifiers].flatMap fun chain =>
        (rule.reportedExcesses chain).map (·.issue chain (rule.chain chain) page index) := by
  have found : (rule.findings catalog).filter (·.category = .maxCount) =
      [Chain.filters, .modifiers].flatMap fun chain =>
        (rule.reportedExcesses chain).map (·.finding chain (rule.chain chain)) := by
    rw [findings, List.filter_append, List.filter_append, List.filter_append,
      filter_eq_nil_of_category (fun _ => category_orphanFindings) fun _ same => by simp [same],
      filter_eq_nil_of_category (fun _ => category_hiddenFindings) fun _ same => by simp [same],
      filter_maxCount_chainFindings (countable .filters),
      filter_maxCount_chainFindings (countable .modifiers)]
    simp
  rw [filter_category_issues, found]
  simp only [List.map_flatMap, List.map_map, Function.comp_def, Excess.toIssue_finding]

/-- Of each category with more tiles in a chain than one of them wants, the audit reports the first
tile that wants fewer, and no other. -/
theorem reportsCaps (rule : Rule) (catalog : Catalog) (page index : Int) :
    rule.ReportsCaps catalog page index where
  ends rankable countable := ⟨_, outcome_audit rankable countable page index⟩
  reported issues ended := by
    have countable (chain : Chain) (anchored : (rule.anchor? chain).isSome = true) :=
      isCountable_of_outcome_audit ended anchored
    refine ⟨rule.reportedExcesses, ?_, ?_, ?_⟩
    · intro chain anchored
      rw [reportedExcesses, if_neg (by simp [Option.isSome_iff_ne_none.mp anchored])]
      exact listsExcesses (List.all_eq_true.mp (countable chain anchored))
    · intro chain missing
      rw [reportedExcesses, if_pos (Option.isNone_iff_eq_none.mpr missing)]
    · rw [eq_issues_of_outcome_audit ended]
      exact filter_maxCount_issues countable

end Rule

namespace Builtin

/-- A rule with three distances, of which one wants at most three and two want at most one, and with
two timespans that say nothing of use about how many they want. -/
def crowded : Rule :=
  let near := distanceFilter FilterId.nearby "nearby" FilterId.faraway
  let close := filter "filter.close" "close" "distance"
    (block [] [] [] [] [] (some (.maxCount 1)))
  let soon := filter "filter.soon" "soon" "timespan"
    (block [] [] [] [] [] (some (.ofValue Handling.maxCountKey (.bool true))))
  { Rule.empty with
    sensor := catalog.get? .sensor (.str SensorId.see)
    filters := [near, soon, close, soon, close] }

/-- The first tile is reported that wants fewer distances, and nothing about timespans. -/
theorem reportsCaps_crowded :
    crowded.ReportsCaps catalog 0 0 ∧
      ∃ issues, (crowded.audit catalog 0 0).outcome = .ok issues ∧
        issues.filter (·.category = "max-count") =
          [⟨0, 0, "max-count", "3 filter(s) of category 'distance', cap is 1", "low",
            some (.str "filter.close")⟩] := by
  have reports := crowded.reportsCaps catalog 0 0
  have typed : catalog.WellTyped := by decide +kernel
  have countable : ∀ chain, crowded.isCountable chain = true :=
    Chain.forall_iff.mpr (by decide +kernel)
  obtain ⟨issues, ended⟩ := reports.ends (fun chain => typed.isRankable chain.kind) countable
  refine ⟨reports, issues, ended, ?_⟩
  rw [Rule.eq_issues_of_outcome_audit ended]
  decide +kernel

end Builtin

end TileBrain
