/-! # Permanent identifiers and names

What other programs rely on. Stored brains refer to the built-in tiles by identifier alone, so none
is ever changed or used again for another tile; the lists hold the identifiers under their permanent
labels. Callers know the parts of the library by the exported names, and what they can expect by the
version.
-/

namespace TileBrain

/-- The version that the library reports. -/
def version : String := "0.1.0"

/-- The names under which the library offers its parts, in the order of their characters. -/
def exports : List String :=
  ["ActuatorDefn", "BrainDefn", "CATALOG", "Constraints", "FilterDefn", "MalformedRecordError",
   "ModifierDefn", "PageDefn", "RuleCondition", "RuleDefn", "SensorDefn", "SuggestionEngine",
   "TileCatalog", "TileDefn", "TileKind", "UnresolvedTileError", "UnresolvedTilePolicy",
   "build_catalog", "decode_brain", "encode_brain", "ensure_valid", "load_brain", "save_brain"]

namespace SensorId

def always : String := "S1"
def see : String := "S2"
def bump : String := "S3"
def dpad : String := "S4"
def buttonA : String := "S5"
def buttonB : String := "S6"
def timer : String := "S7"

def labelled : List (String × String) :=
  [("ALWAYS", always), ("SEE", see), ("BUMP", bump), ("DPAD", dpad), ("BUTTON_A", buttonA),
   ("BUTTON_B", buttonB), ("TIMER", timer)]

end SensorId

namespace FilterId

def kodu : String := "F1"
def tree : String := "F2"
def apple : String := "F3"
def nearby : String := "F4"
def faraway : String := "F5"
/-- Reserved: constraints mention it, no tile has it yet. -/
def me : String := "F6"
/-- Reserved, without a tile. -/
def it : String := "F7"
def timespanShort : String := "F8"
def timespanLong : String := "F9"
def expressNone : String := "F10"
def expressHappy : String := "F11"
def expressAngry : String := "F12"
def expressHeart : String := "F13"
def expressSad : String := "F14"

def labelled : List (String × String) :=
  [("KODU", kodu), ("TREE", tree), ("APPLE", apple), ("NEARBY", nearby), ("FARAWAY", faraway),
   ("ME", me), ("IT", it), ("TIMESPAN_SHORT", timespanShort), ("TIMESPAN_LONG", timespanLong),
   ("EXPRESS_NONE", expressNone), ("EXPRESS_HAPPY", expressHappy),
   ("EXPRESS_ANGRY", expressAngry), ("EXPRESS_HEART", expressHeart),
   ("EXPRESS_SAD", expressSad)]

end FilterId

namespace ActuatorId

def move : String := "A1"
def switchPage : String := "A2"
def express : String := "A3"
def boom : String := "A4"
def vanish : String := "A5"
def cameraFollow : String := "A6"

def labelled : List (String × String) :=
  [("MOVE", move), ("SWITCH_PAGE", switchPage), ("EXPRESS", express), ("BOOM", boom),
   ("VANISH", vanish), ("CAMERA_FOLLOW", cameraFollow)]

end ActuatorId

namespace ModifierId

def me : String := "M1"
def it : String := "M2"
def kodu : String := "M3"
def tree : String := "M4"
def apple : String := "M5"
def quickly : String := "M6"
def slowly : String := "M7"
def toward : String := "M8"
def away : String := "M9"
def avoid : String := "M10"
def page1 : String := "M11"
def page2 : String := "M12"
def page3 : String := "M13"
def page4 : String := "M14"
def page5 : String := "M15"
def expressNone : String := "M16"
def expressHappy : String := "M17"
def expressAngry : String := "M18"
def expressHeart : String := "M19"
def expressSad : String := "M20"

def labelled : List (String × String) :=
  [("ME", me), ("IT", it), ("KODU", kodu), ("TREE", tree), ("APPLE", apple),
   ("QUICKLY", quickly), ("SLOWLY", slowly), ("TOWARD", toward), ("AWAY", away),
   ("AVOID", avoid), ("PAGE_1", page1), ("PAGE_2", page2), ("PAGE_3", page3), ("PAGE_4", page4),
   ("PAGE_5", page5), ("EXPRESS_NONE", expressNone), ("EXPRESS_HAPPY", expressHappy),
   ("EXPRESS_ANGRY", expressAngry), ("EXPRESS_HEART", expressHeart),
   ("EXPRESS_SAD", expressSad)]

end ModifierId

end TileBrain
