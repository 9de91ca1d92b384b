import TileBrain.Catalog.Basic
import TileBrain.Catalog.Identifiers

/-! # The built-in tiles

The default tile table and the catalog made from it.

Of two tiles with equal weights the one that stands first here is suggested first, so the order of
the table matters.
-/

namespace TileBrain.Builtin

/-- A block with a bare list for each part and at most one handling entry. -/
def block (provides requires allowCategories disallowTiles disallowCategories : List String)
    (handling : Option Handling) : Constraints where
  provides := provides.map .str
  requires := requires.map .str
  allow := ⟨[], allowCategories.map .str⟩
  disallow := ⟨disallowTiles.map .str, disallowCategories.map .str⟩
  handling := handling.toList
  keys_distinct := by cases handling <;> simp

def subjects : List String := ["subject", "direct-subject"]

def objects : List String := ["object", "direct-object"]

def expressions : List String := ["expression"]

def sensor (id name : String) (weight : Json) (phase : Phase) (constraints : Constraints) : Tile :=
  ⟨.str id, .str name, weight, false, .null, some constraints, .sensor phase⟩

def sensors : List Tile :=
  [⟨.str SensorId.always, .str "Always", .null, true, .null, none, .sensor .pre⟩,
   sensor SensorId.see "See" (.int 1) .pre
    (block ["target"] [] ["subject", "direct-subject", "distance", "expression"] [FilterId.me] []
      none),
   sensor SensorId.bump "Bump" (.int 2) .pre
    (block ["target"] [] ["subject", "direct-subject", "expression"] [FilterId.me] [] none),
   sensor SensorId.dpad "DPad" .null .pre
    (block ["input", "direction"] [] ["dpad-direction", "button-event"] [] [] none),
   sensor SensorId.buttonA "A" .null .pre (block ["input"] [] ["button-event"] [] [] none),
   sensor SensorId.buttonB "B" .null .pre (block ["input"] [] ["button-event"] [] [] none),
   sensor SensorId.timer "Timer" .null .post (block [] [] ["timespan"] [] [] none)]

def filter (id name category : String) (constraints : Constraints) : Tile :=
  ⟨.str id, .str name, .null, false, .str category, some constraints,
    .filter (.int Tile.defaultPriority)⟩

/-- One subject excludes a second. -/
def subjectFilter (id name : String) : Tile :=
  filter id name "subject" (block ["target"] [] [] [] subjects none)

/-- Near and far exclude each other. -/
def distanceFilter (id name other : String) : Tile :=
  filter id name "distance" (block ["target"] [] [] [other] [] (some (.maxCount 3)))

def expressionFilter (id name : String) : Tile :=
  filter id name "expression" (block [] [] [] [] expressions none)

def filters : List Tile :=
  [subjectFilter FilterId.kodu "Kodu",
   subjectFilter FilterId.tree "Tree",
   subjectFilter FilterId.apple "Apple",
   distanceFilter FilterId.nearby "nearby" FilterId.faraway,
   distanceFilter FilterId.faraway "far away" FilterId.nearby,
   filter FilterId.timespanShort "short" "timespan" .empty,
   filter FilterId.timespanLong "long" "timespan" .empty,
   expressionFilter FilterId.expressNone "none",
   expressionFilter FilterId.expressHappy "happy",
   expressionFilter FilterId.expressAngry "angry",
   expressionFilter FilterId.expressHeart "heart",
   expressionFilter FilterId.expressSad "sad"]

def actuator (id name : String) (category : Json) (hidden : Bool)
    (allowCategories : List String) : Tile :=
  ⟨.str id, .str name, .null, hidden, category,
    some (block [] [] allowCategories [] [] none), .actuator⟩

def actuators : List Tile :=
  [actuator ActuatorId.move "Move" (.str "movement") false ["speed", "direction", "direct-object"],
   actuator ActuatorId.switchPage "Switch page" .null false ["page"],
   actuator ActuatorId.express "Express" .null false ["expression"],
   actuator ActuatorId.boom "Boom" .null true ["direct-object"],
   actuator ActuatorId.vanish "Vanish" .null false ["direct-object"],
   actuator ActuatorId.cameraFollow "Keep in view" .null false ["direct-object"]]

def modifier (id name category : String) (priority : Int) (constraints : Constraints) : Tile :=
  ⟨.str id, .str name, .null, false, .str category, some constraints, .modifier (.int priority)⟩

/-- What the acting character and its target have in common. -/
def directObjectModifier (id name : String) : Tile :=
  modifier id name "direct-object" Tile.defaultPriority (block [] ["target"] [] [] objects none)

def objectModifier (id name : String) : Tile :=
  modifier id name "object" Tile.defaultPriority (block [] [] [] [] objects none)

/-- The two speeds exclude each other. -/
def speedModifier (id name other : String) : Tile :=
  modifier id name "speed" Tile.defaultPriority
    (block [] [] [] [other] [] (some (.maxCount 3)))

def directionModifier (id name : String) (priority : Int) : Tile :=
  modifier id name "direction" priority
    (block [] ["target"] [] [ModifierId.me] ["direction"] none)

/-- Nothing may follow the choice of a page. -/
def pageModifier (id name : String) : Tile :=
  modifier id name "page" Tile.defaultPriority (block [] [] [] [] [] (some (.terminal true)))

def expressionModifier (id name : String) : Tile :=
  modifier id name "expression" Tile.defaultPriority (block [] [] [] [] expressions none)

def modifiers : List Tile :=
  [directObjectModifier ModifierId.me "me",
   directObjectModifier ModifierId.it "it",
   objectModifier ModifierId.kodu "Kodu",
   objectModifier ModifierId.tree "Tree",
   objectModifier ModifierId.apple "Apple",
   speedModifier ModifierId.quickly "quickly" ModifierId.slowly,
   speedModifier ModifierId.slowly "slowly" ModifierId.quickly,
   directionModifier ModifierId.toward "toward" 10,
   directionModifier ModifierId.away "away" 10,
   directionModifier ModifierId.avoid "avoid" 20,
   pageModifier ModifierId.page1 "page 1",
   pageModifier ModifierId.page2 "page 2",
   pageModifier ModifierId.page3 "page 3",
   pageModifier ModifierId.page4 "page 4",
   pageModifier ModifierId.page5 "page 5",
   expressionModifier ModifierId.expressNone "none",
   expressionModifier ModifierId.expressHappy "happy",
   expressionModifier ModifierId.expressAngry "angry",
   expressionModifier ModifierId.expressHeart "heart",
   expressionModifier ModifierId.expressSad "sad"]

def tiles : List Tile := sensors ++ filters ++ actuators ++ modifiers

/-- The catalog that is used when no other is named. -/
def catalog : Catalog := ⟨tiles, by decide +kernel, by decide +kernel⟩

end TileBrain.Builtin
