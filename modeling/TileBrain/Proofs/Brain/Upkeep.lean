import Mathlib.Data.List.DropRight
import Mathlib.Data.List.Forall2
import TileBrain.Brain

/-! # Trimming and repair

Trimming cuts a page behind its last rule with a sensor or an actuator, and repair takes from rules
the chains without their anchors. `Brain.upkeepLaws` describes both by what they leave, and says
that neither undoes or needs the other and that what is empty stays so.

Trimming drops from the end of a list for as long as a test holds, which has its theory in the
library. Repair makes no rule empty and fills none, so that the two can change places.
-/

namespace TileBrain

/-- All that a rule has lost are chains without their anchors. -/
structure Rule.RepairedTo (rule repaired : Rule) : Prop where
  anchored : repaired.Anchored
  unchanged : rule.Anchored → repaired = rule
  condition : repaired.condition = rule.condition
  anchor? (chain : Chain) : repaired.anchor? chain = rule.anchor? chain
  chain (chain : Chain) (isAnchored : (rule.anchor? chain).isSome = true) :
    repaired.chain chain = rule.chain chain

/-- The rules are the first ones of a page. The last of them, if there is any, is not empty, and all
that follow are. -/
structure Page.KeepsUpTo (page : Page) (kept : List Rule) : Prop where
  last : ∀ rule ∈ kept.getLast?, rule.isEmpty = false
  rest : ∃ removed, page.rules = kept ++ removed ∧ ∀ rule ∈ removed, rule.isEmpty = true

/-- What trimming and repair do to a brain, alone and together. -/
structure Brain.UpkeepLaws (brain : Brain) : Prop where
  trimmed : List.Forall₂ (fun page trimmed => ∀ kept, page.KeepsUpTo kept ↔ kept = trimmed.rules)
    brain.pages.toList brain.trim.pages.toList
  repaired : List.Forall₂
    (fun page repaired => List.Forall₂ Rule.RepairedTo page.rules repaired.rules)
    brain.pages.toList brain.repair.pages.toList
  trim_trim : brain.trim.trim = brain.trim
  repair_repair : brain.repair.repair = brain.repair
  repair_trim : brain.trim.repair = brain.repair.trim
  pageCount : brain.trim.pages.toList.length = 5 ∧ brain.repair.pages.toList.length = 5
  isEmpty : brain.trim.isEmpty = brain.isEmpty ∧ brain.repair.isEmpty = brain.isEmpty
  isEmpty_pages :
    brain.trim.pages.toList.map Page.isEmpty = brain.pages.toList.map Page.isEmpty ∧
      brain.repair.pages.toList.map Page.isEmpty = brain.pages.toList.map Page.isEmpty
  isEmpty_iff : List.Forall₂ (fun page trimmed => page.isEmpty = true ↔ trimmed.rules = [])
    brain.pages.toList brain.trim.pages.toList

namespace Rule

theorem repair_repair (rule : Rule) : rule.repair.repair = rule.repair :=
  repair_eq_self rule.anchored_repair

private theorem repairedTo_repair (rule : Rule) : rule.RepairedTo rule.repair where
  anchored := rule.anchored_repair
  unchanged := repair_eq_self
  condition := rfl
  anchor? := rule.anchor?_repair
  chain chain isAnchored := by
    rw [chain_repair, Option.isNone_eq_false_iff.mpr isAnchored]
    rfl

end Rule

namespace Page

/-- Rules are dropped from the end for as long as they are empty. -/
theorem rules_trim (page : Page) : page.trim.rules = page.rules.rdropWhile Rule.isEmpty := rfl

theorem keepsUpTo_trim (page : Page) : page.KeepsUpTo page.trim.rules where
  last rule isLast := by
    obtain ⟨nonempty, rfl⟩ := List.mem_getLast?_eq_getLast isLast
    exact Bool.eq_false_iff.mpr (List.rdropWhile_last_not _ _ nonempty)
  rest := ⟨page.rules.rtakeWhile Rule.isEmpty, List.rdropWhile_append_rtakeWhile.symm,
    fun _ => List.mem_rtakeWhile_imp⟩

/-- There is one way to cut a page behind its last rule that is not empty. -/
theorem keepsUpTo_iff {page : Page} {kept : List Rule} :
    page.KeepsUpTo kept ↔ kept = page.trim.rules := by
  constructor
  · rintro ⟨last, removed, cut, empty⟩
    have keptWhole : kept.rdropWhile Rule.isEmpty = kept := by
      rw [List.rdropWhile_eq_self_iff]
      intro nonempty
      exact Bool.eq_false_iff.mp (last _ (List.getLast?_eq_some_getLast nonempty))
    have dropped : (kept ++ removed).rdropWhile Rule.isEmpty = kept.rdropWhile Rule.isEmpty := by
      have emptyFirst : ∀ rule ∈ removed.reverse, rule.isEmpty = true := by simpa using empty
      rw [List.rdropWhile, List.rdropWhile, List.reverse_append,
        List.dropWhile_append_of_pos emptyFirst]
    rw [rules_trim, cut, dropped, keptWhole]
  · rintro rfl
    exact page.keepsUpTo_trim

theorem trim_trim (page : Page) : page.trim.trim = page.trim :=
  congrArg Page.mk (List.rdropWhile_idempotent _ _)

theorem repair_repair (page : Page) : page.repair.repair = page.repair := by
  simp only [repair, List.map_map, Function.comp_def, Rule.repair_repair]

/-- Repair makes no rule empty or not, so that the same ones are dropped before or after it. -/
theorem repair_trim (page : Page) : page.trim.repair = page.repair.trim := by
  simp only [trim, repair, ← List.map_reverse, List.dropWhile_map, Function.comp_def,
    Rule.isEmpty_repair]

theorem isEmpty_iff_trim {page : Page} : page.isEmpty = true ↔ page.trim.rules = [] := by
  rw [rules_trim, List.rdropWhile_eq_nil_iff, isEmpty, List.all_eq_true]

theorem isEmpty_trim (page : Page) : page.trim.isEmpty = page.isEmpty := by
  rw [Bool.eq_iff_iff, isEmpty_iff_trim, isEmpty_iff_trim, trim_trim]

theorem isEmpty_repair (page : Page) : page.repair.isEmpty = page.isEmpty := by
  simp only [isEmpty, repair, List.all_map, Function.comp_def, Rule.isEmpty_repair]

end Page

namespace Brain

/-- A relation between each page and what becomes of it. -/
private theorem forall₂_map_pages {R : Page → Page → Prop} {f : Page → Page}
    (each : ∀ page, R page (f page)) (brain : Brain) :
    List.Forall₂ R brain.pages.toList (brain.pages.map f).toList := by
  rw [Pages.toList_map, List.forall₂_map_right_iff, List.forall₂_same]
  exact fun page _ => each page

theorem isEmpty_trim (brain : Brain) : brain.trim.isEmpty = brain.isEmpty := by
  simp only [isEmpty, trim, Pages.toList_map, List.all_map, Function.comp_def, Page.isEmpty_trim]

theorem isEmpty_repair (brain : Brain) : brain.repair.isEmpty = brain.isEmpty := by
  simp only [isEmpty, repair, Pages.toList_map, List.all_map, Function.comp_def,
    Page.isEmpty_repair]

theorem repair_trim (brain : Brain) : brain.trim.repair = brain.repair.trim := by
  simp only [trim, repair, Pages.map_map, Page.repair_trim]

/-- Each page is cut where its last rule ends that is not empty, each rule loses its leftover chains
alone, and in whatever order and however often this is done, the outcome is the same. -/
theorem upkeepLaws (brain : Brain) : brain.UpkeepLaws where
  trimmed := forall₂_map_pages (fun _ _ => Page.keepsUpTo_iff) brain
  repaired := by
    apply forall₂_map_pages
    intro page
    rw [Page.repair, List.forall₂_map_right_iff, List.forall₂_same]
    exact fun rule _ => rule.repairedTo_repair
  trim_trim := by simp only [trim, Pages.map_map, Page.trim_trim]
  repair_repair := by simp only [repair, Pages.map_map, Page.repair_repair]
  repair_trim := brain.repair_trim
  pageCount := ⟨brain.trim.pages.length_toList, brain.repair.pages.length_toList⟩
  isEmpty := ⟨brain.isEmpty_trim, brain.isEmpty_repair⟩
  isEmpty_pages := by
    simp only [trim, repair, Pages.toList_map, List.map_map, Function.comp_def, Page.isEmpty_trim,
      Page.isEmpty_repair, and_self]
  isEmpty_iff := forall₂_map_pages (fun _ => Page.isEmpty_iff_trim) brain

end Brain

end TileBrain
