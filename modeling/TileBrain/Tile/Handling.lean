import TileBrain.Json.Basic

/-! # Handling entries

Policy knobs of a constraint block. Two keys have a meaning when their value has the right type; any
other pair of a key and a scalar is kept as it is, so that it can be written back.

Which entry ends a chain, and which one caps a category, is decided by the form of the entry and not
by its key: an entry without a meaning does neither.
-/

namespace TileBrain

inductive Handling where
  /-- Nothing may follow the tile in its chain, if set. -/
  | terminal (value : Bool)
  /-- A cap on the tiles of one category in a chain; exceeding it is reported, not prevented. -/
  | maxCount (value : Int)
  /-- An entry without a known meaning. -/
  | unknown (key : String) (value : Json)
  deriving DecidableEq

namespace Handling

def terminalKey : String := "terminal"

def maxCountKey : String := "max-count"

def key : Handling → String
  | .terminal _ => terminalKey
  | .maxCount _ => maxCountKey
  | .unknown key _ => key

def value : Handling → Json
  | .terminal value => .bool value
  | .maxCount value => .int value
  | .unknown _ value => value

/-- Whether the entry ends its chain. -/
def isTerminal : Handling → Bool
  | .terminal value => value
  | _ => false

/-- The cap that the entry sets. -/
def cap? : Handling → Option Int
  | .maxCount value => some value
  | _ => none

/-- The entry for a key and a value: a known one only if the value has the type it calls for. -/
def ofValue (key : String) (value : Json) : Handling :=
  match value with
  | .bool flag => if key = terminalKey then .terminal flag else .unknown key value
  | .int count => if key = maxCountKey then .maxCount count else .unknown key value
  | _ => .unknown key value

@[simp] theorem key_ofValue (key : String) (value : Json) : (ofValue key value).key = key := by
  unfold ofValue
  split
  · split
    next known => exact known.symm
    next => rfl
  · split
    next known => exact known.symm
    next => rfl
  · rfl

@[simp] theorem value_ofValue (key : String) (value : Json) :
    (ofValue key value).value = value := by
  unfold ofValue
  split
  · split <;> rfl
  · split <;> rfl
  · rfl

end Handling

end TileBrain
