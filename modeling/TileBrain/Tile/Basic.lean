import TileBrain.Json.Comparison
import TileBrain.Tile.Constraints

/-! # Tiles

The atoms of a rule. A sensor may be refined by filters, and an actuator by modifiers; each of these
four kinds of tile carries what is its own in `Role`. Most fields are values as a definition gives
them: an operation that needs a name to be a string, or weights that can be compared, checks for
that when it is carried out, and `Misfit` says what was in its way.
-/

namespace TileBrain

inductive TileKind where
  | sensor
  | filter
  | actuator
  | modifier
  deriving DecidableEq

namespace TileKind

/-- All kinds in their order. -/
def all : List TileKind := [.sensor, .filter, .actuator, .modifier]

def label : TileKind → String
  | .sensor => "sensor"
  | .filter => "filter"
  | .actuator => "actuator"
  | .modifier => "modifier"

def code : TileKind → Nat
  | .sensor => 1
  | .filter => 2
  | .actuator => 3
  | .modifier => 4

def ofLabel? (text : String) : Option TileKind := all.find? (·.label = text)

end TileKind

/-- Whether a sensor is evaluated before or after its filters. -/
inductive Phase where
  | pre
  | post
  deriving DecidableEq

namespace Phase

def all : List Phase := [.pre, .post]

def label : Phase → String
  | .pre => "pre"
  | .post => "post"

def ofLabel? (text : String) : Option Phase := all.find? (·.label = text)

end Phase

/-- What only tiles of one kind have. -/
inductive Role where
  | sensor (phase : Phase)
  | filter (priority : Json)
  | actuator
  | modifier (priority : Json)
  deriving DecidableEq

namespace Role

def kind : Role → TileKind
  | .sensor _ => .sensor
  | .filter _ => .filter
  | .actuator => .actuator
  | .modifier _ => .modifier

end Role

structure Tile where
  /-- Permanent: never changed, and never used for another tile. -/
  id : Json
  name : Json
  /-- Orders suggestions, lighter tiles first; null stands for the default. -/
  weight : Json
  /-- Never suggested, but still found when a stored brain names it. -/
  hidden : Bool
  /-- What allow and disallow lists may name in place of the identifier; null stands for none. -/
  category : Json
  constraints : Option Constraints
  /-- Priorities are only kept. -/
  role : Role
  deriving DecidableEq

/-- A value, of a tile or given for one, that does not serve for what is asked of it. -/
inductive Misfit where
  /-- Two weights have no order. -/
  | weights
  /-- A name is not a string. -/
  | name
  /-- A category has parts, and cannot be counted. -/
  | category
  /-- An identifier has parts, and cannot be looked up. -/
  | id
  deriving DecidableEq

def Misfit.message : Misfit → String
  | .weights => "the weights of two tiles cannot be compared"
  | .name => "the name of a tile is not a string"
  | .category => "the category of a tile cannot be counted"
  | .id => "an identifier cannot be looked up"

namespace Tile

/-- The weight of a tile that states none. -/
def defaultWeight : Int := 100

/-- The priority of a tile that states none. -/
def defaultPriority : Int := 10

def kind (tile : Tile) : TileKind := tile.role.kind

def sortWeight (tile : Tile) : Json :=
  match tile.weight with
  | .null => .int defaultWeight
  | weight => weight

/-- Whether no further tile may follow in the same chain. -/
def isTerminal (tile : Tile) : Bool := tile.constraints.any Constraints.isTerminal

/-- The capabilities that the tile asks for. -/
def requires (tile : Tile) : List Json :=
  match tile.constraints with
  | some constraints => constraints.requires
  | none => []

/-- Whether two tiles count as of one category; a tile always does with itself. -/
def sharesCategory (tile other : Tile) : Bool :=
  tile = other || tile.category.same other.category

end Tile

end TileBrain
