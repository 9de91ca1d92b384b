import TileBrain.Suggest

/-! # Authoring by name

A rule is put together by choosing tiles by name, each from what is suggested at its place.

A name that is not on offer ends authoring with a list of what was. Names are compared as values, so
that a tile whose name is no text can be chosen as well, but not listed.
-/

namespace TileBrain

/-- A name was not among the tiles on offer. -/
structure NotOffered where
  name : Json
  offered : List String
  deriving DecidableEq

def NotOffered.message (fault : NotOffered) : String :=
  let names := String.intercalate ", " fault.offered
  fault.name.shown ++ " is not offered here (offered: " ++
    (if names.isEmpty then "nothing" else names) ++ ")"

/-- Why a tile cannot be chosen. -/
inductive ChoiceError where
  | notOffered (fault : NotOffered)
  | misfit (cause : Misfit)
  deriving DecidableEq

def ChoiceError.message : ChoiceError → String
  | .notOffered fault => fault.message
  | .misfit cause => cause.message

/-- The first tile with a name. To say what was offered instead, all names have to be strings. -/
def pick (tiles : List Tile) (name : Json) : Except ChoiceError Tile :=
  match tiles.find? (·.name.same name) with
  | some tile => .ok tile
  | none =>
    match tiles.mapM (·.name.str?) with
    | some names => .error (.notOffered ⟨name, names⟩)
    | none => .error (.misfit .name)

namespace Rule

/-- Appends tiles to a chain, each chosen from what is offered at the end. -/
def appendNamed (catalog : Catalog) (chain : Chain) (rule : Rule) :
    List Json → Reported ChoiceError Rule
  | [] => pure rule
  | name :: rest => do
    let tiles ← (catalog.suggestAt rule chain (rule.chain chain).length).mapError .misfit
    let tile ← .ofExcept (pick tiles name)
    appendNamed catalog chain (rule.append chain tile) rest

/-- Chooses the tile that a chain refines, and the tiles of the chain. -/
def choose (catalog : Catalog) (chain : Chain) (rule : Rule) :
    List Json → Reported ChoiceError Rule
  | [] => pure rule
  | name :: rest => do
    let tiles ← .ofExcept ((catalog.suggestAnchors chain).mapError .misfit)
    let anchor ← .ofExcept (pick tiles name)
    appendNamed catalog chain (rule.withAnchor (some anchor) chain) rest

/-- The rule whose tiles have these names, as far as each is offered at its place, with what is
reported on the way. -/
def author (catalog : Catalog) (whenNames doNames : List Json) : Reported ChoiceError Rule := do
  let rule ← choose catalog .filters .empty whenNames
  choose catalog .modifiers rule doNames

end Rule

end TileBrain
