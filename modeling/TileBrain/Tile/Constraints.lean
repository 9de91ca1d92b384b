import TileBrain.Tile.Handling
import TileBrain.Text.Quoted

/-! # Constraint blocks

How a tile affects which tiles may follow it in a rule. What a block lists are values as written;
those that are read from a definition are strings. A block holds at most one handling entry per key;
the type carries that.

Selectors name tiles and categories, and either list may be empty. Putting a block together from its
parts fails for repeated keys alone; the other faults are those of reading one.
-/

namespace TileBrain

/-- Selects tiles by identifier or by category. -/
structure Selector where
  tiles : List Json
  categories : List Json
  deriving DecidableEq

namespace Selector

/-- Selects nothing. -/
def empty : Selector := ⟨[], []⟩

def isEmpty (selector : Selector) : Bool :=
  selector.tiles.isEmpty && selector.categories.isEmpty

end Selector

structure Constraints where
  /-- The capabilities that the tile contributes. -/
  provides : List Json
  /-- Capabilities of which one must be there already; no entry means no requirement. -/
  requires : List Json
  allow : Selector
  disallow : Selector
  handling : List Handling
  keys_distinct : (handling.map Handling.key).Nodup
  deriving DecidableEq

/-- Why no block can be made. -/
inductive ConstraintsFault where
  | notAMapping
  | selectorNotMapping
  | handlingNotMapping
  | notStrings (field : String)
  | notScalar (key : String) (typeName : String)
  | duplicateKeys (keys : List String)
  deriving DecidableEq

def ConstraintsFault.message : ConstraintsFault → String
  | .notAMapping => "constraints must be a mapping"
  | .selectorNotMapping => "allow/disallow must be mappings"
  | .handlingNotMapping => "handling must be a mapping"
  | .notStrings field => field ++ " must be a list of strings"
  | .notScalar key typeName =>
    "handling value for " ++ Text.quoted key ++ " must be a scalar, got " ++ typeName
  | .duplicateKeys keys => "duplicate handling keys: " ++ Text.quotedList keys

namespace Constraints

/-- The block that neither gives nor asks anything. -/
def empty : Constraints := ⟨[], [], .empty, .empty, [], .nil⟩

/-- The block of these parts, unless two handling entries share a key. -/
def ofParts (provides requires : List Json) (allow disallow : Selector)
    (handling : List Handling) : Except ConstraintsFault Constraints :=
  if distinct : (handling.map Handling.key).Nodup then
    .ok ⟨provides, requires, allow, disallow, handling, distinct⟩
  else .error (.duplicateKeys (handling.map Handling.key))

/-- The handling entry under a key. -/
def handlingFor? (constraints : Constraints) (key : String) : Option Handling :=
  constraints.handling.find? (·.key = key)

/-- Whether nothing may follow. -/
def isTerminal (constraints : Constraints) : Bool :=
  (constraints.handlingFor? Handling.terminalKey).any Handling.isTerminal

end Constraints

end TileBrain
