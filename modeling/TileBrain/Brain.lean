import TileBrain.Rule.Basic

/-! # Pages and brains

A page is an ordered list of rules, and a brain always has the same number of pages. The container
`Pages` carries that number in its type, and `Pages.mapM` keeps it.

Upkeep is defined here for pages and brains as it is for rules: trimming drops empty rules at the
end of each page, and repair goes through all rules. Edits by index are the business of a session.
-/

namespace TileBrain

/-- The number of pages of a brain. -/
def pageCount : Nat := 5

/-- A list of something for each page. -/
structure Pages (α : Type) where
  toList : List α
  length_toList : toList.length = pageCount
  deriving DecidableEq

/-- There were not as many pages as a brain has. -/
structure PageCountFault where
  found : Nat
  deriving DecidableEq

/-- The complaint about the thing that should have had the pages. -/
def PageCountFault.message (fault : PageCountFault) (owner : String) : String :=
  owner ++ " has exactly " ++ toString pageCount ++ " pages, got " ++ toString fault.found

namespace Pages

variable {α β : Type}

def ofList (pages : List α) : Except PageCountFault (Pages α) :=
  if length : pages.length = pageCount then .ok ⟨pages, length⟩ else .error ⟨pages.length⟩

/-- The same for every page. -/
def replicate (page : α) : Pages α := ⟨List.replicate pageCount page, List.length_replicate⟩

/-- Cuts off what is too much, and fills up what is missing. -/
def fit (filler : α) (pages : List α) : Pages α where
  toList := pages.take pageCount ++ List.replicate (pageCount - pages.length) filler
  length_toList := by simp only [List.length_append, List.length_take, List.length_replicate]; omega

def map (f : α → β) (pages : Pages α) : Pages β :=
  ⟨pages.toList.map f, by rw [List.length_map, pages.length_toList]⟩

@[simp] theorem toList_map (f : α → β) (pages : Pages α) :
    (pages.map f).toList = pages.toList.map f := rfl

theorem map_map {γ : Type} (f : α → β) (g : β → γ) (pages : Pages α) :
    (pages.map f).map g = pages.map fun page => g (f page) := by
  simp only [map, List.map_map, Function.comp_def]

/-- Only what a function makes of the pages there are matters. -/
theorem map_congr {f g : α → β} {pages : Pages α}
    (same : ∀ page ∈ pages.toList, f page = g page) : pages.map f = pages.map g := by
  simp only [map, List.map_congr_left same]

theorem map_eq_self {f : α → α} {pages : Pages α} (same : ∀ page ∈ pages.toList, f page = page) :
    pages.map f = pages := by
  simp only [map, List.map_congr_left same, List.map_id']

/-- The right number of pages is neither cut nor filled. -/
theorem toList_fit (filler : α) {pages : List α} (length : pages.length = pageCount) :
    (fit filler pages).toList = pages := by
  simp [fit, ← length]

/-- Replaces the page at an index; there is nothing to replace past the end. -/
def set (pages : Pages α) (index : Nat) (page : α) : Pages α :=
  ⟨pages.toList.set index page, by rw [List.length_set, pages.length_toList]⟩

/-- Applies an effectful function to the elements in order, keeping their number. -/
def traverse {m : Type → Type} [Monad m] (f : α → m β) :
    (elements : List α) → m { results : List β // results.length = elements.length }
  | [] => pure ⟨[], rfl⟩
  | element :: rest => do
    let result ← f element
    let ⟨results, length⟩ ← traverse f rest
    pure ⟨result :: results, by rw [List.length_cons, List.length_cons, length]⟩

def mapM {m : Type → Type} [Monad m] (f : α → m β) (pages : Pages α) : m (Pages β) := do
  let ⟨results, length⟩ ← traverse f pages.toList
  pure ⟨results, length.trans pages.length_toList⟩

/-- Traversing does what the effectful map on lists does. -/
theorem val_traverse {m : Type → Type} [Monad m] [LawfulMonad m] (f : α → m β)
    (elements : List α) : Subtype.val <$> traverse f elements = elements.mapM f := by
  induction elements with
  | nil => simp [traverse]
  | cons element rest ih => simp [traverse, ← ih]

theorem toList_mapM {m : Type → Type} [Monad m] [LawfulMonad m] (f : α → m β)
    (pages : Pages α) : Pages.toList <$> pages.mapM f = pages.toList.mapM f := by
  simp [Pages.mapM, ← val_traverse]

end Pages

structure Page where
  rules : List Rule
  deriving DecidableEq

namespace Page

def empty : Page := ⟨[]⟩

def isEmpty (page : Page) : Bool := page.rules.all Rule.isEmpty

/-- Drops the empty rules at the end. -/
def trim (page : Page) : Page := ⟨(page.rules.reverse.dropWhile Rule.isEmpty).reverse⟩

def repair (page : Page) : Page := ⟨page.rules.map Rule.repair⟩

def append (page : Page) (rule : Rule) : Page := ⟨page.rules ++ [rule]⟩

/-- Removes the rule at an index. Any index without a rule is passed over, negative ones too. -/
def eraseRule (page : Page) (index : Int) : Page :=
  if 0 ≤ index then ⟨page.rules.eraseIdx index.toNat⟩ else page

end Page

structure Brain where
  pages : Pages Page
  deriving DecidableEq

namespace Brain

def empty : Brain := ⟨.replicate .empty⟩

def ofPages (pages : List Page) : Except PageCountFault Brain := (Pages.ofList pages).map Brain.mk

def isEmpty (brain : Brain) : Bool := brain.pages.toList.all Page.isEmpty

/-- Trims every page. -/
def trim (brain : Brain) : Brain := ⟨brain.pages.map Page.trim⟩

/-- Repairs every rule. -/
def repair (brain : Brain) : Brain := ⟨brain.pages.map Page.repair⟩

end Brain

end TileBrain
