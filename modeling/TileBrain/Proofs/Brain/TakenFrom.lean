import TileBrain.Brain
import TileBrain.Catalog.Basic

/-! # Brains over a catalog

A rule, a page or a brain is taken from a catalog if each of its slots holds a tile of that catalog,
of the kind that belongs there. Leftover filters and modifiers are no obstacle.

Whatever edits a rule, a page or a brain keeps to the catalog, as long as new tiles come from it and
are of the right kind: there is a lemma for each edit. The property can be decided, so that a given
brain is checked by evaluation.
-/

namespace TileBrain

/-- Every slot holds a tile of the catalog, of the kind that belongs there. -/
structure Rule.TakenFrom (rule : Rule) (catalog : Catalog) : Prop where
  anchor : ∀ chain, ∀ tile ∈ (rule.anchor? chain).toList,
    tile ∈ catalog.partition chain.anchorKind
  chain : ∀ chain, ∀ tile ∈ rule.chain chain, tile ∈ catalog.partition chain.kind

def Page.TakenFrom (page : Page) (catalog : Catalog) : Prop :=
  ∀ rule ∈ page.rules, rule.TakenFrom catalog

def Brain.TakenFrom (brain : Brain) (catalog : Catalog) : Prop :=
  ∀ page ∈ brain.pages.toList, page.TakenFrom catalog

/-- What holds of both chains holds of all. -/
theorem Chain.forall_iff {p : Chain → Prop} : (∀ chain, p chain) ↔ p .filters ∧ p .modifiers := by
  constructor
  · intro holds
    exact ⟨holds .filters, holds .modifiers⟩
  · rintro ⟨filters, modifiers⟩ chain
    cases chain with
    | filters => exact filters
    | modifiers => exact modifiers

/-- The slots one by one. -/
theorem Rule.takenFrom_iff {rule : Rule} {catalog : Catalog} :
    rule.TakenFrom catalog ↔
      ((∀ tile ∈ rule.sensor.toList, tile ∈ catalog.partition .sensor) ∧
        ∀ tile ∈ rule.actuator.toList, tile ∈ catalog.partition .actuator) ∧
      (∀ tile ∈ rule.filters, tile ∈ catalog.partition .filter) ∧
        ∀ tile ∈ rule.modifiers, tile ∈ catalog.partition .modifier :=
  ⟨fun taken => ⟨Chain.forall_iff.mp taken.anchor, Chain.forall_iff.mp taken.chain⟩,
    fun slots => ⟨Chain.forall_iff.mpr slots.1, Chain.forall_iff.mpr slots.2⟩⟩

instance (rule : Rule) (catalog : Catalog) : Decidable (rule.TakenFrom catalog) :=
  decidable_of_iff' _ Rule.takenFrom_iff

instance (page : Page) (catalog : Catalog) : Decidable (page.TakenFrom catalog) :=
  inferInstanceAs (Decidable (∀ rule ∈ page.rules, rule.TakenFrom catalog))

instance (brain : Brain) (catalog : Catalog) : Decidable (brain.TakenFrom catalog) :=
  inferInstanceAs (Decidable (∀ page ∈ brain.pages.toList, page.TakenFrom catalog))

/-- What is placed in a rule is an anchor or in a chain. -/
theorem Rule.mem_placed_iff {rule : Rule} {tile : Tile} :
    tile ∈ rule.placed ↔
      ∃ chain, tile ∈ (rule.anchor? chain).toList ∨ tile ∈ rule.chain chain := by
  simp only [placed, List.mem_append]
  constructor
  · rintro (((sensor | actuator) | filters) | modifiers)
    · exact ⟨.filters, .inl sensor⟩
    · exact ⟨.modifiers, .inl actuator⟩
    · exact ⟨.filters, .inr filters⟩
    · exact ⟨.modifiers, .inr modifiers⟩
  · rintro ⟨chain, member⟩
    cases chain with
    | filters => exact member.elim (fun sensor => .inl (.inl (.inl sensor))) (.inl ∘ .inr)
    | modifiers => exact member.elim (fun actuator => .inl (.inl (.inr actuator))) .inr

/-- The placed tiles of a rule over a catalog are tiles of the catalog. -/
theorem Rule.TakenFrom.mem_tiles {rule : Rule} {catalog : Catalog} (taken : rule.TakenFrom catalog)
    {tile : Tile} (member : tile ∈ rule.placed) : tile ∈ catalog.tiles := by
  obtain ⟨chain, anchor | inChain⟩ := mem_placed_iff.mp member
  · exact (Catalog.mem_partition.mp (taken.anchor chain tile anchor)).1
  · exact (Catalog.mem_partition.mp (taken.chain chain tile inChain)).1

namespace Rule

variable {rule : Rule} {catalog : Catalog} {chain : Chain} {tile : Tile}

/-- The rule stays one over the catalog. -/
theorem TakenFrom.append (taken : rule.TakenFrom catalog)
    (member : tile ∈ catalog.partition chain.kind) :
    (rule.append chain tile).TakenFrom catalog where
  anchor := by
    intro another
    rw [Rule.append, anchor?_withChain]
    exact taken.anchor another
  chain := by
    intro another
    by_cases same : another = chain
    · subst same
      rw [chain_append, List.forall_mem_append]
      exact ⟨taken.chain another, by simpa using member⟩
    · rw [Rule.append, chain_withChain_of_ne _ _ same]
      exact taken.chain another

theorem TakenFrom.withAnchor (taken : rule.TakenFrom catalog) {anchor : Option Tile}
    (member : ∀ tile ∈ anchor.toList, tile ∈ catalog.partition chain.anchorKind) :
    (rule.withAnchor anchor chain).TakenFrom catalog where
  anchor another := by
    by_cases same : another = chain
    · subst same
      rw [anchor?_withAnchor]
      exact member
    · rw [anchor?_withAnchor_of_ne _ _ same]
      exact taken.anchor another
  chain another := by
    rw [chain_withAnchor]
    exact taken.chain another

/-- A repair places no tiles. -/
theorem TakenFrom.repair (taken : rule.TakenFrom catalog) : rule.repair.TakenFrom catalog where
  anchor chain := by
    rw [anchor?_repair]
    exact taken.anchor chain
  chain chain := by
    rw [chain_repair]
    split
    · exact nofun
    · exact taken.chain chain

end Rule

section Brains

variable {catalog : Catalog} {page : Page} {brain : Brain}

theorem Page.TakenFrom.append (taken : page.TakenFrom catalog) {rule : Rule}
    (ruleTaken : rule.TakenFrom catalog) : (page.append rule).TakenFrom catalog :=
  List.forall_mem_append.mpr ⟨taken, List.forall_mem_singleton.mpr ruleTaken⟩

theorem Page.TakenFrom.eraseRule (taken : page.TakenFrom catalog) (index : Int) :
    (page.eraseRule index).TakenFrom catalog := by
  unfold Page.eraseRule
  split
  · exact fun rule member => taken rule (List.mem_of_mem_eraseIdx member)
  · exact taken

theorem Page.TakenFrom.trim (taken : page.TakenFrom catalog) : page.trim.TakenFrom catalog := by
  intro rule member
  have kept := (List.dropWhile_sublist Rule.isEmpty).subset (List.mem_reverse.mp member)
  exact taken rule (List.mem_reverse.mp kept)

theorem Page.TakenFrom.set (taken : page.TakenFrom catalog) (index : Nat) {rule : Rule}
    (ruleTaken : rule.TakenFrom catalog) : Page.TakenFrom ⟨page.rules.set index rule⟩ catalog := by
  intro other member
  rcases List.mem_or_eq_of_mem_set member with old | rfl
  · exact taken other old
  · exact ruleTaken

theorem Brain.TakenFrom.set (taken : brain.TakenFrom catalog) (index : Nat)
    (pageTaken : page.TakenFrom catalog) :
    Brain.TakenFrom ⟨brain.pages.set index page⟩ catalog := by
  intro other member
  rcases List.mem_or_eq_of_mem_set member with old | rfl
  · exact taken other old
  · exact pageTaken

theorem Brain.TakenFrom.repair (taken : brain.TakenFrom catalog) :
    brain.repair.TakenFrom catalog := by
  refine List.forall_mem_map.mpr fun page isPage => List.forall_mem_map.mpr fun rule isRule => ?_
  exact (taken page isPage rule isRule).repair

theorem Brain.TakenFrom.trim (taken : brain.TakenFrom catalog) : brain.trim.TakenFrom catalog :=
  List.forall_mem_map.mpr fun page isPage => (taken page isPage).trim

theorem Brain.takenFrom_empty (catalog : Catalog) : Brain.empty.TakenFrom catalog := by
  intro page member
  rw [List.eq_of_mem_replicate member]
  exact nofun

end Brains

theorem Catalog.mem_partition_of_get? {catalog : Catalog} {kind : TileKind} {id : Json}
    {tile : Tile} (found : catalog.get? kind id = some tile) : tile ∈ catalog.partition kind :=
  List.mem_of_find?_eq_some found

end TileBrain
