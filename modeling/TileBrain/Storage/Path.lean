import TileBrain.Text.Quoted

/-! # Paths and places

A relative path is a text of components; a place is where such a path may lead. Several paths lead
to one place: a step up takes back the step before it.

Components are not looked at before the tree is asked, so a path may lead through a name that is too
long or through a file; what is wrong with it is found on the way.
-/

namespace TileBrain

/-- A relative path, by its components. -/
structure RelativePath where
  components : List String
  deriving DecidableEq

namespace RelativePath

/-- The component that leads to the directory above. -/
def upward : String := ".."

/-- The texts between slashes. -/
def split : List Char → List (List Char)
  | [] => [[]]
  | c :: rest =>
    if c = '/' then [] :: split rest
    else match split rest with
      | [] => [[c]]
      | first :: others => (c :: first) :: others

/-- Leaves out the components that do not lead anywhere. -/
def ofString (text : String) : RelativePath :=
  ⟨((split text.toList).map String.ofList).filter fun component =>
    component ≠ "" ∧ component ≠ "."⟩

def display (path : RelativePath) : String :=
  if path.components.isEmpty then "." else String.intercalate "/" path.components

end RelativePath

/-- Some steps up from the start, and then the names on the way down. -/
structure Place where
  above : Nat
  names : List String
  deriving DecidableEq

namespace Place

/-- Where paths begin. -/
def start : Place := ⟨0, []⟩

/-- The directory that a place is in. -/
def up (place : Place) : Place :=
  if place.names.isEmpty then ⟨place.above + 1, []⟩ else ⟨place.above, place.names.dropLast⟩

/-- The place of a name in a directory. -/
def child (place : Place) (name : String) : Place := ⟨place.above, place.names ++ [name]⟩

/-- The shortest path to a place. -/
def path (place : Place) : RelativePath :=
  ⟨List.replicate place.above RelativePath.upward ++ place.names⟩

@[simp] theorem up_child (place : Place) (name : String) : (place.child name).up = place := by
  simp [up, child]

end Place

end TileBrain
