import Mathlib.Data.List.Basic
import TileBrain.Record.Resolution

/-! # Identifiers without a tile

A record names tiles in a fixed order, and a catalog lacks some of them. Resolving the record comes
to meeting those that are lacking, one after another, and going on with the tiles of the rest:
`RuleRecord.resolve_eq` is that statement for a rule. What a policy does with a rule, a page or a
brain follows from what it does with the missing identifiers.
-/

namespace TileBrain

/-- No tile of its kind has the identifier. -/
def Catalog.Lacks (catalog : Catalog) (reference : Unresolved) : Prop :=
  ∀ tile ∈ catalog.partition reference.kind, tile.id ≠ reference.id

instance (catalog : Catalog) (reference : Unresolved) : Decidable (catalog.Lacks reference) :=
  inferInstanceAs (Decidable (∀ tile ∈ catalog.partition reference.kind, tile.id ≠ reference.id))

namespace RuleRecord

/-- The identifiers of a rule, each with the kind of its slot: the sensor, the actuator, the filters
and the modifiers. -/
def references (record : RuleRecord String) : List Unresolved :=
  record.sensor.toList.map (⟨.sensor, .str ·⟩) ++
    record.actuator.toList.map (⟨.actuator, .str ·⟩) ++
    record.filters.map (⟨.filter, .str ·⟩) ++ record.modifiers.map (⟨.modifier, .str ·⟩)

/-- The identifiers without a tile. -/
def missing (record : RuleRecord String) (catalog : Catalog) : List Unresolved :=
  record.references.filter catalog.Lacks

end RuleRecord

namespace BrainRecord

/-- The rules of all pages. -/
def rules (record : BrainRecord String) : List (RuleRecord String) :=
  record.pages.toList.flatMap PageRecord.rules

/-- The identifiers without a tile, page by page and rule by rule. -/
def missing (record : BrainRecord String) (catalog : Catalog) : List Unresolved :=
  record.rules.flatMap (·.missing catalog)

end BrainRecord

namespace Catalog

/-- The tiles that a chain has in the catalog. -/
def known (catalog : Catalog) (kind : TileKind) (ids : List String) : List Tile :=
  ids.filterMap fun id => catalog.get? kind (.str id)

/-- Nothing is found for an identifier exactly if no tile has it. -/
theorem get?_str_eq_none_iff {catalog : Catalog} {kind : TileKind} {id : String} :
    catalog.get? kind (.str id) = none ↔ catalog.Lacks ⟨kind, .str id⟩ := by
  rw [get?, List.find?_eq_none]
  refine forall₂_congr fun tile _ => not_congr ?_
  constructor
  · exact Json.eq_str_of_same
  · intro isText
    rw [isText, Json.same_str, decide_eq_true_eq]

end Catalog

/-- The rule with the tiles that are there. -/
def RuleRecord.resolveKnown (record : RuleRecord String) (catalog : Catalog) : Rule where
  condition := record.condition
  sensor := record.sensor.bind fun id => catalog.get? .sensor (.str id)
  filters := catalog.known .filter record.filters
  actuator := record.actuator.bind fun id => catalog.get? .actuator (.str id)
  modifiers := catalog.known .modifier record.modifiers

/-- Only what is found for the identifiers of the record matters. -/
theorem RuleRecord.resolveKnown_congr {record : RuleRecord String} {catalog other : Catalog}
    (found : ∀ kind id, ⟨kind, .str id⟩ ∈ record.references →
      catalog.get? kind (.str id) = other.get? kind (.str id)) :
    record.resolveKnown catalog = record.resolveKnown other := by
  simp only [references, List.mem_append, List.mem_map, Option.mem_toList] at found
  have sensor := Option.bind_congr fun id member =>
    found .sensor id (.inl (.inl (.inl ⟨id, member, rfl⟩)))
  have actuator := Option.bind_congr fun id member =>
    found .actuator id (.inl (.inl (.inr ⟨id, member, rfl⟩)))
  have filters := List.filterMap_congr fun id member =>
    found .filter id (.inl (.inr ⟨id, member, rfl⟩))
  have modifiers := List.filterMap_congr fun id member =>
    found .modifier id (.inr ⟨id, member, rfl⟩)
  simp only [resolveKnown, Catalog.known, sensor, actuator, filters, modifiers]

section Traversal

variable {m : Type → Type} [Monad m] [LawfulMonad m] {α β γ : Type} {step : α → m β}
  {causes : α → List γ} {meet : γ → m PUnit} {value : α → β}

/-- A traversal meets what its steps meet, in order, and goes on with all their values. -/
private theorem Pages.traverse_eq_forM
    (each : ∀ element, step element = (causes element).forM meet >>= fun _ => pure (value element))
    (elements : List α) :
    Pages.traverse step elements =
      (elements.flatMap causes).forM meet >>= fun _ =>
        pure ⟨elements.map value, List.length_map value⟩ := by
  induction elements with
  | nil => simp [traverse]
  | cons element rest ih =>
    simp only [traverse, each, ih, List.flatMap_cons, List.forM_eq_forM, List.forM_append,
      bind_assoc, pure_bind]
    rfl

private theorem Pages.list_mapM_eq_forM
    (each : ∀ element, step element = (causes element).forM meet >>= fun _ => pure (value element))
    (elements : List α) :
    elements.mapM step =
      (elements.flatMap causes).forM meet >>= fun _ => pure (elements.map value) := by
  rw [← val_traverse, traverse_eq_forM each, map_bind]
  simp only [map_pure]

private theorem Pages.mapM_eq_forM
    (each : ∀ element, step element = (causes element).forM meet >>= fun _ => pure (value element))
    (pages : Pages α) :
    pages.mapM step =
      (pages.toList.flatMap causes).forM meet >>= fun _ => pure (pages.map value) := by
  simp only [Pages.mapM, traverse_eq_forM each, bind_assoc, pure_bind]
  rfl

end Traversal

namespace Catalog

variable (catalog : Catalog) (policy : Policy) (kind : TileKind)

theorem resolve_eq (id : String) :
    catalog.resolve policy kind id =
      ([⟨kind, .str id⟩].filter catalog.Lacks).forM policy.meet >>= fun _ =>
        pure (catalog.get? kind (.str id)) := by
  unfold resolve lookup
  cases found : catalog.get? kind (.str id) with
  | some tile =>
    have has : ¬ catalog.Lacks ⟨kind, .str id⟩ := by
      rw [← get?_str_eq_none_iff, found]
      exact Option.some_ne_none tile
    simp [has]
  | none =>
    have lacks : catalog.Lacks ⟨kind, .str id⟩ := get?_str_eq_none_iff.mp found
    simp [lacks]

private theorem resolveSlot_eq (slot : Option String) :
    catalog.resolveSlot policy kind slot =
      ((slot.toList.map (Unresolved.mk kind <| .str ·)).filter catalog.Lacks).forM policy.meet >>=
        fun _ => pure (slot.bind fun id => catalog.get? kind (.str id)) := by
  cases slot with
  | none => rfl
  | some id => exact catalog.resolve_eq policy kind id

private theorem resolveChain_eq (ids : List String) :
    catalog.resolveChain policy kind ids =
      ((ids.map (Unresolved.mk kind <| .str ·)).filter catalog.Lacks).forM policy.meet >>= fun _ =>
        pure (catalog.known kind ids) := by
  have lacking : ids.flatMap (fun id => [Unresolved.mk kind (.str id)].filter catalog.Lacks) =
      (ids.map (Unresolved.mk kind <| .str ·)).filter catalog.Lacks := by
    rw [List.map_eq_flatMap, List.filter_flatMap]
  rw [resolveChain, Pages.list_mapM_eq_forM (catalog.resolve_eq policy kind), lacking]
  simp only [bind_assoc, pure_bind, List.filterMap_map, Function.comp_def, id]
  rfl

end Catalog

/-- Resolving a rule meets its missing identifiers and goes on with the tiles that are there. -/
theorem RuleRecord.resolve_eq (record : RuleRecord String) (catalog : Catalog) (policy : Policy) :
    record.resolve catalog policy =
      (record.missing catalog).forM policy.meet >>= fun _ =>
        policy.finish (record.resolveKnown catalog) := by
  simp only [resolve, Catalog.resolveSlot_eq, Catalog.resolveChain_eq, bind_assoc, pure_bind,
    missing, references, List.filter_append, List.forM_eq_forM, List.forM_append]
  rfl

namespace Reported

variable {ε α : Type}

/-- Reporting one notice after another is reporting them all. -/
private theorem forM_note (notices : List Notice) :
    (notices.forM fun notice => (note [notice] : Reported ε Unit)) = note notices := by
  induction notices with
  | nil => rfl
  | cons notice rest ih =>
    change (note [notice] >>= fun _ => rest.forM fun notice => note [notice]) = _
    rw [ih]
    rfl

private theorem mk_ok_eq_forM (notices : List Notice) (value : α) :
    (⟨notices, .ok value⟩ : Reported ε α) =
      (notices.forM fun notice => (note [notice] : Reported ε Unit)) >>= fun _ =>
        Pure.pure value := by
  rw [forM_note, note, ok_bind, pure_eq, List.append_nil]

end Reported

private theorem Policy.forM_meet_dropTile (missing : List Unresolved) :
    missing.forM Policy.dropTile.meet = .note (missing.map .droppedTile) := by
  rw [← Reported.forM_note]
  simp only [List.forM_eq_forM, List.forM_map]
  rfl

namespace RuleRecord

variable (record : RuleRecord String) (catalog : Catalog)

theorem resolveUnder_raise :
    record.resolveUnder catalog .raise =
      (record.missing catalog).forM .fail >>= fun _ =>
        pure (some (record.resolveKnown catalog)) := by
  rw [resolveUnder, resolve_eq]
  cases record.missing catalog <;> rfl

/-- A rule is dropped for the first identifier that it misses. -/
theorem resolveUnder_dropRule :
    record.resolveUnder catalog .dropRule =
      ⟨((record.missing catalog).head?.map .droppedRule).toList,
        .ok (if record.missing catalog = [] then some (record.resolveKnown catalog)
          else none)⟩ := by
  rw [resolveUnder, resolve_eq]
  cases record.missing catalog <;> rfl

theorem resolveUnder_dropTile :
    record.resolveUnder catalog .dropTile =
      ⟨(record.missing catalog).map .droppedTile ++ (record.resolveKnown catalog).repairNotices,
        .ok (some (record.resolveKnown catalog).repair)⟩ := by
  rw [resolveUnder, resolve_eq, Policy.forM_meet_dropTile]
  simp [Reported.note, Policy.finish]

end RuleRecord

section Brains

variable {catalog : Catalog} {policy : Policy} {γ : Type}
  {causes : RuleRecord String → List γ} {meet : γ → Reported Unresolved PUnit}
  {value : RuleRecord String → Option Rule}

/-- A brain meets what its rules meet, and has the rules that they come to. -/
theorem BrainRecord.resolveUnder_eq_forM
    (each : ∀ rule : RuleRecord String,
      rule.resolveUnder catalog policy = (causes rule).forM meet >>= fun _ => pure (value rule))
    (record : BrainRecord String) :
    record.resolveUnder catalog policy =
      (record.rules.flatMap causes).forM meet >>= fun _ =>
        pure ⟨record.pages.map fun page => ⟨page.rules.filterMap value⟩⟩ := by
  have pages (page : PageRecord String) :
      page.resolveUnder catalog policy = (page.rules.flatMap causes).forM meet >>= fun _ =>
        pure ⟨page.rules.filterMap value⟩ := by
    rw [PageRecord.resolveUnder, Pages.list_mapM_eq_forM each]
    simp only [bind_assoc, pure_bind, List.filterMap_map, Function.comp_def, id]
  rw [resolveUnder, Pages.mapM_eq_forM pages, rules, List.flatMap_assoc, bind_assoc]
  simp only [pure_bind]

variable (record : BrainRecord String) (catalog : Catalog)

theorem BrainRecord.resolveUnder_raise :
    record.resolveUnder catalog .raise =
      (record.missing catalog).forM .fail >>= fun _ =>
        pure ⟨record.pages.map fun page => ⟨page.rules.map (·.resolveKnown catalog)⟩⟩ := by
  rw [resolveUnder_eq_forM (RuleRecord.resolveUnder_raise · catalog)]
  simp only [List.filterMap_eq_map']
  rfl

theorem BrainRecord.resolveUnder_dropRule :
    record.resolveUnder catalog .dropRule =
      ⟨record.rules.filterMap fun rule => (rule.missing catalog).head?.map .droppedRule,
        .ok ⟨record.pages.map fun page =>
          ⟨(page.rules.filter (·.missing catalog = [])).map (·.resolveKnown catalog)⟩⟩⟩ := by
  have each (rule : RuleRecord String) :=
    (rule.resolveUnder_dropRule catalog).trans (Reported.mk_ok_eq_forM ..)
  have kept (rules : List (RuleRecord String)) :
      (rules.filterMap fun rule =>
        if rule.missing catalog = [] then some (rule.resolveKnown catalog) else none) =
      (rules.filter (·.missing catalog = [])).map (·.resolveKnown catalog) := by
    rw [← List.filterMap_eq_map', List.filterMap_filter]
    simp only [decide_eq_true_eq]
  rw [resolveUnder_eq_forM each, ← Reported.mk_ok_eq_forM, List.filterMap_eq_flatMap_toList]
  simp only [kept]

theorem BrainRecord.resolveUnder_dropTile :
    record.resolveUnder catalog .dropTile =
      ⟨record.rules.flatMap fun rule =>
          (rule.missing catalog).map .droppedTile ++ (rule.resolveKnown catalog).repairNotices,
        .ok ⟨record.pages.map fun page =>
          ⟨page.rules.map fun rule => (rule.resolveKnown catalog).repair⟩⟩⟩ := by
  have each (rule : RuleRecord String) :=
    (rule.resolveUnder_dropTile catalog).trans (Reported.mk_ok_eq_forM ..)
  rw [resolveUnder_eq_forM each, ← Reported.mk_ok_eq_forM]
  simp only [List.filterMap_eq_map']

/-- A repair is no reason for a warning. -/
theorem Rule.noticesFrom_repairNotices (rule : Rule) :
    rule.repairNotices.filter (fun notice => Level.warning.rank ≤ notice.level.rank) = [] := by
  apply List.filter_eq_nil_iff.mpr
  intro notice member
  obtain ⟨chain, _, found⟩ := List.mem_filterMap.mp member
  split at found
  · rw [← Option.some.inj found]
    exact of_decide_eq_false rfl
  · exact nomatch found

/-- The policy that drops rules warns about every rule that it drops. -/
theorem BrainRecord.noticesFrom_resolveUnder_dropRule :
    (record.resolveUnder catalog .dropRule).noticesFrom .warning =
      record.rules.filterMap fun rule => (rule.missing catalog).head?.map .droppedRule := by
  rw [resolveUnder_dropRule]
  apply List.filter_eq_self.mpr
  intro notice member
  obtain ⟨rule, _, dropped⟩ := List.mem_filterMap.mp member
  obtain ⟨missing, _, rfl⟩ := Option.map_eq_some_iff.mp dropped
  rfl

/-- The policy that drops tiles warns about every identifier that is missing. -/
theorem BrainRecord.noticesFrom_resolveUnder_dropTile :
    (record.resolveUnder catalog .dropTile).noticesFrom .warning =
      (record.missing catalog).map .droppedTile := by
  have dropped (missing : List Unresolved) :
      (missing.map Notice.droppedTile).filter
        (fun notice => Level.warning.rank ≤ notice.level.rank) = missing.map .droppedTile := by
    apply List.filter_eq_self.mpr
    intro notice member
    obtain ⟨reference, _, rfl⟩ := List.mem_map.mp member
    rfl
  rw [resolveUnder_dropTile, Reported.noticesFrom, List.filter_flatMap]
  simp only [List.filter_append, dropped, Rule.noticesFrom_repairNotices, List.append_nil, missing,
    List.map_flatMap]

end Brains

end TileBrain
