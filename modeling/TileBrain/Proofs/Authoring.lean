import Mathlib.Data.List.Nodup
import TileBrain.Authoring
import TileBrain.Proofs.Suggestion

/-! # Rules authored by name

Where no two visible tiles of a kind have one name, names spell at most one rule that the audit
accepts. `Catalog.authorsExactly` says that authoring by name returns that rule, and reports a name
that is not on offer if there is none.

`Rule.Drawn` says of a chain that every tile of it was on offer at its place, and
`Rule.realizes_iff_drawn` that the rules asked for are the drawn ones with these names. The converse
of each step is needed as well, since a name that is refused must be one that no such rule has.
-/

namespace TileBrain

/-- Names are texts, and tell the visible tiles of a kind apart. -/
structure Catalog.Named (catalog : Catalog) : Prop where
  texts : ∀ tile ∈ catalog.tiles, tile.name.isString = true
  distinct : ∀ kind, ((catalog.visible kind).map Tile.name).Nodup

namespace Rule

/-- The names of the tile that a chain refines and of the tiles of the chain, in order. -/
def HasNames (rule : Rule) (chain : Chain) : List String → Prop
  | [] => rule.anchor? chain = none ∧ rule.chain chain = []
  | name :: rest =>
    (rule.anchor? chain).map Tile.name = some (.str name) ∧
      (rule.chain chain).map Tile.name = rest.map .str

/-- The rule over a catalog that names ask for: the audit reports nothing but exceeded caps. -/
structure Realizes (rule : Rule) (catalog : Catalog) (whenNames doNames : List String)
    (page index : Int) : Prop where
  taken : rule.TakenFrom catalog
  condition : rule.condition = .default
  whenNames : rule.HasNames .filters whenNames
  doNames : rule.HasNames .modifiers doNames
  accepted : rule.IsAccepted catalog page index

end Rule

/-- Authoring returns the rule that names ask for, of which there is at most one. Without one, it
fails for a name that is not on offer. -/
structure Catalog.AuthorsExactly (catalog : Catalog) (whenNames doNames : List String)
    (page index : Int) : Prop where
  returned (rule : Rule) :
    (Rule.author catalog (whenNames.map .str) (doNames.map .str)).outcome = .ok rule ↔
      rule.Realizes catalog whenNames doNames page index
  unique (rule other : Rule) (realizes : rule.Realizes catalog whenNames doNames page index)
    (otherRealizes : other.Realizes catalog whenNames doNames page index) : rule = other
  refused (impossible : ¬ ∃ rule : Rule, rule.Realizes catalog whenNames doNames page index) :
    ∃ fault, (Rule.author catalog (whenNames.map .str) (doNames.map .str)).outcome =
      .error (.notOffered fault)

section Picking

variable {tiles : List Tile} {name : String}

/-- Where names differ, the tile is picked that has the name. -/
theorem pick_eq_ok_iff (distinct : (tiles.map Tile.name).Nodup) {tile : Tile} :
    pick tiles (.str name) = .ok tile ↔ tile ∈ tiles ∧ tile.name = .str name := by
  have of_find? {found : Tile} (first : tiles.find? (·.name.same (.str name)) = some found) :
      found ∈ tiles ∧ found.name = .str name :=
    ⟨List.mem_of_find?_eq_some first, Json.eq_str_of_same (by simpa using List.find?_some first)⟩
  unfold pick
  constructor
  · intro picked
    split at picked
    next found first =>
      obtain rfl := Except.ok.inj picked
      exact of_find? first
    next => split at picked <;> contradiction
  · rintro ⟨member, isName⟩
    split
    next found first =>
      obtain ⟨foundMember, foundName⟩ := of_find? first
      have same := List.inj_on_of_nodup_map distinct foundMember member
        (foundName.trans isName.symm)
      rw [same]
    next none =>
      have other := List.find?_eq_none.mp none tile member
      rw [isName, Json.same_str] at other
      exact absurd (decide_eq_true rfl) other

/-- Where names are texts, a name is refused only for not being on offer. -/
private theorem notOffered_of_pick (texts : ∀ tile ∈ tiles, tile.name.isString = true)
    {error : ChoiceError} (failed : pick tiles (.str name) = .error error) :
    ∃ fault, error = .notOffered fault := by
  have readable : ∃ names, tiles.mapM (·.name.str?) = some names := by
    clear failed
    induction tiles with
    | nil => exact ⟨[], rfl⟩
    | cons tile rest ih =>
      obtain ⟨first, others⟩ := List.forall_mem_cons.mp texts
      obtain ⟨text, isText⟩ := Option.isSome_iff_exists.mp first
      obtain ⟨names, areNames⟩ := ih others
      exact ⟨text :: names, by rw [List.mapM_cons, isText, areNames]; rfl⟩
  obtain ⟨names, areNames⟩ := readable
  unfold pick at failed
  split at failed
  next => contradiction
  next =>
    rw [areNames] at failed
    exact ⟨_, (Except.error.inj failed).symm⟩

/-- What goes on with a picked tile goes on with the one that has the name. -/
private theorem pick_bind_eq_ok_iff {α : Type} (distinct : (tiles.map Tile.name).Nodup)
    {next : Tile → Except ChoiceError α} {result : α} :
    (pick tiles (.str name)).bind next = .ok result ↔
      ∃ tile ∈ tiles, tile.name = .str name ∧ next tile = .ok result := by
  constructor
  · intro ended
    cases picked : pick tiles (.str name) with
    | error =>
      rw [picked] at ended
      contradiction
    | ok tile =>
      rw [picked] at ended
      obtain ⟨member, isName⟩ := (pick_eq_ok_iff distinct).mp picked
      exact ⟨tile, member, isName, ended⟩
  · rintro ⟨tile, member, isName, ended⟩
    rw [(pick_eq_ok_iff distinct).mpr ⟨member, isName⟩]
    exact ended

/-- If it goes wrong, a name was not on offer, now or later. -/
private theorem notOffered_of_pick_bind {α : Type}
    (texts : ∀ tile ∈ tiles, tile.name.isString = true) {next : Tile → Except ChoiceError α}
    {error : ChoiceError}
    (later : ∀ tile, next tile = .error error → ∃ fault, error = .notOffered fault)
    (failed : (pick tiles (.str name)).bind next = .error error) :
    ∃ fault, error = .notOffered fault := by
  cases picked : pick tiles (.str name) with
  | ok tile =>
    rw [picked] at failed
    exact later tile failed
  | error cause =>
    rw [picked] at failed
    obtain rfl := Except.error.inj failed
    exact notOffered_of_pick texts picked

end Picking

namespace Catalog.Named

variable {catalog : Catalog} (named : catalog.Named)

include named

theorem nodup_candidates (kind : TileKind) : ((catalog.candidates kind).map Tile.name).Nodup :=
  ((StableSort.sort_perm _ _).map _).nodup_iff.mpr (named.distinct kind)

private theorem nodup_offered (rule : Rule) (chain : Chain) (position : Nat) :
    ((catalog.offered rule chain position).map Tile.name).Nodup :=
  (named.nodup_candidates chain.kind).sublist (offered_sublist_candidates.map _)

private theorem texts_candidates (kind : TileKind) :
    ∀ tile ∈ catalog.candidates kind, tile.name.isString = true :=
  fun tile member => named.texts tile (mem_candidates.mp member).1

private theorem texts_offered (rule : Rule) (chain : Chain) (position : Nat) :
    ∀ tile ∈ catalog.offered rule chain position, tile.name.isString = true :=
  fun tile member =>
    named.texts_candidates chain.kind tile (offered_sublist_candidates.subset member)

end Catalog.Named

namespace Rule

variable {catalog : Catalog} {rule next : Rule} {chain : Chain}

/-- From a position on, the tiles of a chain are offered at their positions. -/
def OfferedFrom (rule : Rule) (catalog : Catalog) (chain : Chain) (start : Nat) : Prop :=
  ∀ position ≥ start, ∀ tile, (rule.chain chain)[position]? = some tile →
    tile ∈ catalog.offered rule chain position

/-- Behind the end there is no tile to be offered. -/
private theorem offeredFrom_length : rule.OfferedFrom catalog chain (rule.chain chain).length := by
  intro position behind tile isTile
  rw [List.getElem?_eq_none behind] at isTile
  contradiction

/-- To append tiles by name is to pick one of those on offer, and to go on behind it. -/
private theorem outcome_appendNamed_cons (typed : catalog.WellTyped) (name : Json)
    (rest : List Json) :
    (appendNamed catalog chain rule (name :: rest)).outcome =
      (pick (catalog.offered rule chain (rule.chain chain).length) name).bind fun tile =>
        (appendNamed catalog chain (rule.append chain tile) rest).outcome := by
  have suggested : ((catalog.suggestAt rule chain (rule.chain chain).length).mapError
      ChoiceError.misfit).outcome = .ok (catalog.offered rule chain (rule.chain chain).length) := by
    rw [Catalog.suggestAt_of_isRankable (typed.isRankable _)]
    rfl
  rw [appendNamed, Reported.outcome_bind_of_ok suggested, Reported.outcome_bind]
  rfl

/-- Where a chain goes on, its tiles are offered from there on if the first is on offer at the end
of what stood there before. -/
private theorem offeredFrom_length_iff {tile : Tile} {tiles : List Tile}
    (before : next.before chain = rule.before chain)
    (grown : next.chain chain = rule.chain chain ++ tile :: tiles) :
    next.OfferedFrom catalog chain (rule.chain chain).length ↔
      tile ∈ catalog.offered rule chain (rule.chain chain).length ∧
        next.OfferedFrom catalog chain ((rule.chain chain).length + 1) := by
  have present : (next.chain chain)[(rule.chain chain).length]? = some tile := by
    rw [grown, List.getElem?_append_right (Nat.le_refl _), Nat.sub_self]
    rfl
  have same : catalog.offered next chain (rule.chain chain).length =
      catalog.offered rule chain (rule.chain chain).length :=
    Catalog.offered_congr before (by rw [grown, List.take_left, List.take_length])
  constructor
  · intro offered
    refine ⟨same ▸ offered _ (Nat.le_refl _) tile present, fun position behind => ?_⟩
    exact offered position (Nat.le_of_succ_le behind)
  · rintro ⟨first, others⟩ position behind other isOther
    rcases Nat.eq_or_lt_of_le behind with rfl | later
    · obtain rfl := Option.some.inj (present.symm.trans isOther)
      rwa [same]
    · exact others position later other isOther

/-- Tiles with these names are appended if each is offered at its position. -/
theorem outcome_appendNamed_eq_ok_iff (typed : catalog.WellTyped) (named : catalog.Named)
    {names : List String} :
    (appendNamed catalog chain rule (names.map .str)).outcome = .ok next ↔
      ∃ tiles, tiles.map Tile.name = names.map .str ∧
        next = rule.withChain (rule.chain chain ++ tiles) chain ∧
        next.OfferedFrom catalog chain (rule.chain chain).length := by
  -- With every name the rule grows by a tile, so that the rest is appended behind it.
  induction names generalizing rule with
  | nil =>
    rw [List.map_nil, appendNamed, Reported.outcome_pure_eq_ok_iff]
    constructor
    · rintro rfl
      exact ⟨[], rfl, by rw [List.append_nil, withChain_chain], offeredFrom_length⟩
    · rintro ⟨tiles, names, rfl, _⟩
      rw [List.map_eq_nil_iff.mp names, List.append_nil, withChain_chain]
  | cons name rest ih =>
    have length (tile : Tile) :
        ((rule.append chain tile).chain chain).length = (rule.chain chain).length + 1 := by
      rw [chain_append, List.length_append, List.length_singleton]
    have grown (tile : Tile) (tiles : List Tile) :
        (rule.append chain tile).withChain ((rule.append chain tile).chain chain ++ tiles) chain =
          rule.withChain (rule.chain chain ++ tile :: tiles) chain := by
      rw [chain_append, Rule.append, withChain_withChain, List.append_assoc, List.singleton_append]
    rw [List.map_cons, outcome_appendNamed_cons typed,
      pick_bind_eq_ok_iff (named.nodup_offered _ _ _)]
    simp only [ih, length, grown]
    constructor
    · rintro ⟨tile, first, isName, tiles, names, rfl, later⟩
      refine ⟨tile :: tiles, by rw [List.map_cons, isName, names], rfl, ?_⟩
      exact (offeredFrom_length_iff (before_withChain ..) (chain_withChain ..)).mpr ⟨first, later⟩
    · rintro ⟨tiles, names, rfl, offered⟩
      cases tiles with
      | nil => contradiction
      | cons tile tiles =>
        obtain ⟨isName, names⟩ := List.cons.inj names
        obtain ⟨first, later⟩ :=
          (offeredFrom_length_iff (before_withChain ..) (chain_withChain ..)).mp offered
        exact ⟨tile, first, isName, tiles, names, rfl, later⟩

private theorem notOffered_of_appendNamed (typed : catalog.WellTyped) (named : catalog.Named)
    {names : List String} {error : ChoiceError}
    (failed : (appendNamed catalog chain rule (names.map .str)).outcome = .error error) :
    ∃ fault, error = .notOffered fault := by
  induction names generalizing rule with
  | nil => exact nomatch failed
  | cons name rest ih =>
    rw [List.map_cons, outcome_appendNamed_cons typed] at failed
    exact notOffered_of_pick_bind (named.texts_offered _ _ _) (fun _ => ih) failed

/-- To choose tiles by name is to pick what the chain refines, and to append the others. -/
private theorem outcome_choose_cons (typed : catalog.WellTyped) (name : Json) (rest : List Json) :
    (choose catalog chain rule (name :: rest)).outcome =
      (pick (catalog.candidates chain.anchorKind) name).bind fun anchor =>
        (appendNamed catalog chain (rule.withAnchor (some anchor) chain) rest).outcome := by
  have suggested : (Reported.ofExcept ((catalog.suggestAnchors chain).mapError
      ChoiceError.misfit)).outcome = .ok (catalog.candidates chain.anchorKind) := by
    rw [Catalog.suggestAnchors, Catalog.rank, if_pos (typed.isRankable _)]
    rfl
  rw [choose, Reported.outcome_bind_of_ok suggested, Reported.outcome_bind]
  rfl

/-- A chain refines a candidate, if anything, and its tiles are offered at their positions. -/
structure Drawn (rule : Rule) (catalog : Catalog) (chain : Chain) : Prop where
  anchor : ∀ tile ∈ (rule.anchor? chain).toList, tile ∈ catalog.candidates chain.anchorKind
  offered : rule.OfferedFrom catalog chain 0

/-- A rule is put together again from what was cleared. -/
private theorem restore_cleared (rule : Rule) (chain : Chain) :
    ((rule.cleared chain).withAnchor (rule.anchor? chain) chain).withChain (rule.chain chain)
      chain = rule := by
  cases chain <;> rfl

/-- Where there was nothing, a chain with these names is chosen if it can be drawn. -/
theorem outcome_choose_eq_ok_iff (typed : catalog.WellTyped) (named : catalog.Named)
    (vacant : rule.cleared chain = rule) {names : List String} :
    (choose catalog chain rule (names.map .str)).outcome = .ok next ↔
      next.cleared chain = rule ∧ next.HasNames chain names ∧ next.Drawn catalog chain := by
  have noAnchor : rule.anchor? chain = none := by
    rw [← vacant]
    cases chain <;> rfl
  have noTiles : rule.chain chain = [] := by
    rw [← vacant]
    cases chain <;> rfl
  cases names with
  | nil =>
    rw [List.map_nil, choose, Reported.outcome_pure_eq_ok_iff]
    constructor
    · rintro rfl
      refine ⟨vacant, ⟨noAnchor, noTiles⟩, ?_, ?_⟩
      · simp [noAnchor]
      · simp [OfferedFrom, noTiles]
    · rintro ⟨rfl, ⟨missing, empty⟩, _⟩
      exact cleared_eq_self missing empty
  | cons name rest =>
    rw [List.map_cons, outcome_choose_cons typed, pick_bind_eq_ok_iff (named.nodup_candidates _)]
    simp only [outcome_appendNamed_eq_ok_iff typed named, chain_withAnchor, noTiles,
      List.nil_append, List.length_nil]
    constructor
    · rintro ⟨anchor, candidate, isName, tiles, names, rfl, offered⟩
      have isAnchor : ((rule.withAnchor (some anchor) chain).withChain tiles chain).anchor? chain =
          some anchor := by
        rw [anchor?_withChain, anchor?_withAnchor]
      refine ⟨?_, ⟨?_, ?_⟩, ?_, offered⟩
      · rw [← vacant]
        cases chain <;> rfl
      · rw [isAnchor, Option.map_some, isName]
      · rw [chain_withChain, names]
      · rw [isAnchor]
        exact fun tile member => List.mem_singleton.mp member ▸ candidate
    · rintro ⟨rfl, ⟨isName, names⟩, candidate, offered⟩
      obtain ⟨anchor, isAnchor, hasName⟩ := Option.map_eq_some_iff.mp isName
      refine ⟨anchor, candidate anchor ?_, hasName, next.chain chain, names, ?_, offered⟩
      · rw [isAnchor]
        exact List.mem_singleton.mpr rfl
      · rw [← isAnchor, restore_cleared]

private theorem notOffered_of_choose (typed : catalog.WellTyped) (named : catalog.Named)
    {names : List String} {error : ChoiceError}
    (failed : (choose catalog chain rule (names.map .str)).outcome = .error error) :
    ∃ fault, error = .notOffered fault := by
  cases names with
  | nil => exact nomatch failed
  | cons name rest =>
    rw [List.map_cons, outcome_choose_cons typed] at failed
    exact notOffered_of_pick_bind (named.texts_candidates _)
      (fun _ => notOffered_of_appendNamed typed named) failed

/-- A chain with names has its anchor. -/
theorem HasNames.anchored {names : List String} (hasNames : rule.HasNames chain names)
    (missing : rule.anchor? chain = none) : rule.chain chain = [] := by
  cases names with
  | nil => exact hasNames.2
  | cons name rest =>
    have isName := hasNames.1
    rw [missing] at isName
    contradiction

private theorem Drawn.takenFrom (drawn : ∀ chain, rule.Drawn catalog chain) :
    rule.TakenFrom catalog where
  anchor chain tile member := by
    obtain ⟨declared, kind, _⟩ := Catalog.mem_candidates.mp ((drawn chain).anchor tile member)
    exact Catalog.mem_partition.mpr ⟨declared, kind⟩
  chain chain tile member := by
    obtain ⟨position, isTile⟩ := List.mem_iff_getElem?.mp member
    exact Catalog.mem_partition_of_offered
      ((drawn chain).offered position (Nat.zero_le position) tile isTile)

/-- A rule is legal if both its chains can be drawn and have their anchors. -/
theorem Drawn.legal (drawn : ∀ chain, rule.Drawn catalog chain) (anchored : rule.Anchored) :
    rule.Legal catalog where
  anchored := anchored
  visible := by
    intro tile member
    obtain ⟨chain, isAnchor | inChain⟩ := mem_placed_iff.mp member
    · exact (Catalog.mem_candidates.mp ((drawn chain).anchor tile isAnchor)).2.2
    · obtain ⟨position, isTile⟩ := List.mem_iff_getElem?.mp inChain
      have offered := (drawn chain).offered position (Nat.zero_le position) tile isTile
      exact (Catalog.mem_candidates.mp (Catalog.mem_offered.mp offered).2.1).2.2
  offered chain position tile isTile :=
    (drawn chain).offered position (Nat.zero_le position) tile isTile

private theorem Legal.drawn (legal : rule.Legal catalog) (taken : rule.TakenFrom catalog)
    (chain : Chain) :
    rule.Drawn catalog chain where
  anchor := legal.candidate taken chain
  offered position _ := legal.offered chain position

/-- Names ask for the rules that can be drawn. -/
theorem realizes_iff_drawn (typed : catalog.WellTyped) {whenNames doNames : List String}
    (page index : Int) :
    rule.Realizes catalog whenNames doNames page index ↔
      rule.condition = .default ∧ (rule.HasNames .filters whenNames ∧ rule.Drawn catalog .filters) ∧
        rule.HasNames .modifiers doNames ∧ rule.Drawn catalog .modifiers := by
  constructor
  · rintro ⟨taken, condition, whenHas, doHas, accepted⟩
    have legal := (isAccepted_iff_legal typed taken page index).mp accepted
    exact ⟨condition, ⟨whenHas, legal.drawn taken .filters⟩, doHas, legal.drawn taken .modifiers⟩
  · rintro ⟨condition, ⟨whenHas, filters⟩, doHas, modifiers⟩
    have drawn : ∀ chain, rule.Drawn catalog chain := Chain.forall_iff.mpr ⟨filters, modifiers⟩
    have anchored : rule.Anchored := Chain.forall_iff.mpr ⟨whenHas.anchored, doHas.anchored⟩
    have taken := Drawn.takenFrom drawn
    exact ⟨taken, condition, whenHas, doHas,
      (isAccepted_iff_legal typed taken page index).mpr (Drawn.legal drawn anchored)⟩

/-- Filters do not depend on what stands behind them in a rule. -/
private theorem hasNames_cleared_iff {names : List String} :
    (rule.cleared .modifiers).HasNames .filters names ↔ rule.HasNames .filters names := by
  cases names <;> exact Iff.rfl

private theorem drawn_cleared_iff :
    (rule.cleared .modifiers).Drawn catalog .filters ↔ rule.Drawn catalog .filters :=
  ⟨fun drawn => ⟨drawn.anchor, drawn.offered⟩, fun drawn => ⟨drawn.anchor, drawn.offered⟩⟩

/-- What is authored by name is what can be drawn. -/
theorem outcome_author_eq_ok_iff (typed : catalog.WellTyped) (named : catalog.Named)
    {whenNames doNames : List String} :
    (author catalog (whenNames.map .str) (doNames.map .str)).outcome = .ok rule ↔
      rule.condition = .default ∧ (rule.HasNames .filters whenNames ∧ rule.Drawn catalog .filters) ∧
        rule.HasNames .modifiers doNames ∧ rule.Drawn catalog .modifiers := by
  have first {half : Rule} :
      (choose catalog .filters .empty (whenNames.map .str)).outcome = .ok half ↔ _ :=
    outcome_choose_eq_ok_iff typed named rfl
  rw [author, Reported.outcome_bind_eq_ok_iff]
  constructor
  · rintro ⟨half, chosen, completed⟩
    obtain ⟨cleared, whenHas, filters⟩ := first.mp chosen
    have vacant : half.cleared .modifiers = half :=
      cleared_eq_self (congrArg (·.anchor? .modifiers) cleared)
        (congrArg (·.chain .modifiers) cleared)
    obtain ⟨rfl, doHas, modifiers⟩ := (outcome_choose_eq_ok_iff typed named vacant).mp completed
    exact ⟨congrArg condition cleared,
      ⟨hasNames_cleared_iff.mp whenHas, drawn_cleared_iff.mp filters⟩, doHas, modifiers⟩
  · rintro ⟨condition, ⟨whenHas, filters⟩, doHas, modifiers⟩
    have cleared : (rule.cleared .modifiers).cleared .filters = .empty := by
      obtain ⟨_, _, _, _, _⟩ := rule
      obtain rfl := condition
      rfl
    refine ⟨rule.cleared .modifiers, first.mpr ⟨cleared, ?_, ?_⟩, ?_⟩
    · exact hasNames_cleared_iff.mpr whenHas
    · exact drawn_cleared_iff.mpr filters
    · exact (outcome_choose_eq_ok_iff typed named rfl).mpr ⟨rfl, doHas, modifiers⟩

private theorem notOffered_of_author (typed : catalog.WellTyped) (named : catalog.Named)
    {whenNames doNames : List String} {error : ChoiceError}
    (failed : (author catalog (whenNames.map .str) (doNames.map .str)).outcome = .error error) :
    ∃ fault, error = .notOffered fault := by
  rcases Reported.outcome_bind_eq_error failed with first | ⟨half, _, second⟩
  · exact notOffered_of_choose typed named first
  · exact notOffered_of_choose typed named second

end Rule

/-- Authoring by name is exact where tiles are well-typed and their names tell them apart. -/
theorem Catalog.authorsExactly {catalog : Catalog} (typed : catalog.WellTyped)
    (named : catalog.Named) (whenNames doNames : List String) (page index : Int) :
    catalog.AuthorsExactly whenNames doNames page index := by
  have returned (rule : Rule) :
      (Rule.author catalog (whenNames.map .str) (doNames.map .str)).outcome = .ok rule ↔
        rule.Realizes catalog whenNames doNames page index := by
    rw [Rule.outcome_author_eq_ok_iff typed named, Rule.realizes_iff_drawn typed page index]
  refine ⟨returned, fun rule other realizes otherRealizes => ?_, fun impossible => ?_⟩
  · have same := ((returned rule).mpr realizes).symm.trans ((returned other).mpr otherRealizes)
    exact Except.ok.inj same
  · cases ended : (Rule.author catalog (whenNames.map .str) (doNames.map .str)).outcome with
    | ok rule => exact absurd ⟨rule, (returned rule).mp ended⟩ impossible
    | error error =>
      obtain ⟨fault, rfl⟩ := Rule.notOffered_of_author typed named ended
      exact ⟨fault, rfl⟩

namespace Builtin

private theorem named_catalog : catalog.Named where
  texts := by decide +kernel
  distinct kind := by cases kind <;> decide +kernel

/-- The chase is the rule that its names ask for. No rule sees apples that are trees. -/
theorem authorsExactly_chasing :
    catalog.WellTyped ∧ catalog.Named ∧
      chasing.Realizes catalog ["See", "Apple"] ["Move", "toward", "quickly"] 0 0 ∧
      ¬ ∃ rule : Rule, rule.Realizes catalog ["See", "Apple", "Tree"] [] 0 0 := by
  have typed : catalog.WellTyped := by decide +kernel
  have authored := Catalog.authorsExactly typed named_catalog ["See", "Apple"]
    ["Move", "toward", "quickly"] 0 0
  have refused := Catalog.authorsExactly typed named_catalog ["See", "Apple", "Tree"] [] 0 0
  refine ⟨typed, named_catalog, (authored.returned chasing).mp (by decide +kernel), ?_⟩
  rintro ⟨rule, realizes⟩
  have failed : (Rule.author catalog (["See", "Apple", "Tree"].map .str) []).outcome.isOk =
      false := by decide +kernel
  have ended := (refused.returned rule).mpr realizes
  rw [List.map_nil] at ended
  rw [ended] at failed
  contradiction

end Builtin

end TileBrain
