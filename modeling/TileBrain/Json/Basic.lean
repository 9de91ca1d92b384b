import TileBrain.Keyed
import TileBrain.Number.Binary64

/-! # JSON values

Values of the data format in which brains are stored. Whole numbers are exact at any size and stay
apart from floating-point ones; an object keeps the order of its members. That no key repeats is a
predicate beside the type, `Json.Distinct`.
-/

namespace TileBrain

inductive Json where
  | null
  | bool (value : Bool)
  | int (value : Int)
  | float (value : Binary64)
  | str (value : String)
  | arr (items : List Json)
  | obj (members : List (String × Json))
  deriving Inhabited

namespace Json

/-- The name by which messages call the kind of a value. -/
def typeName : Json → String
  | .null => "NoneType"
  | .bool _ => "bool"
  | .int _ => "int"
  | .float _ => "float"
  | .str _ => "str"
  | .arr _ => "list"
  | .obj _ => "dict"

/-- The value under a key of an object. -/
def get? (json : Json) (key : String) : Option Json :=
  match json with
  | .obj members => Keyed.get? members key
  | _ => none

/-- The text of a string value. -/
def str? : Json → Option String
  | .str text => some text
  | _ => none

/-- The value, unless it is null. -/
def present? : Json → Option Json
  | .null => none
  | json => some json

/-- Whether a value counts as set: null, false, zero and whatever is empty do not. -/
def isTruthy : Json → Bool
  | .null => false
  | .bool value => value
  | .int value => value ≠ 0
  | .float (.finite _ significand _) => significand ≠ 0
  | .float _ => true
  | .str text => text ≠ ""
  | .arr items => !items.isEmpty
  | .obj members => !members.isEmpty

/-- Whether a value has no parts. -/
def isAtom : Json → Bool
  | .arr _ => false
  | .obj _ => false
  | _ => true

/-- Whether a value has no parts and is not null. -/
def isScalar : Json → Bool
  | .null => false
  | json => json.isAtom

/-- Whether a value is a string. -/
def isString (json : Json) : Bool := json.str?.isSome

/-- The items of a list, the characters of a string, or the keys of an object; no other value is
made of elements. -/
def elements? : Json → Option (List Json)
  | .arr items => some items
  | .str text => some (text.toList.map fun c => .str (String.singleton c))
  | .obj members => some ((Keyed.keys members).map .str)
  | _ => none

/-- A list of strings. -/
def strings (texts : List String) : Json := .arr (texts.map .str)

/-- The texts of a list that holds nothing but strings. -/
def strings? : Json → Option (List String)
  | .arr items => items.mapM str?
  | _ => none

mutual
/-- Whether two values are the same, a whole number and a floating-point one being different. -/
def identical : Json → Json → Bool
  | .null, .null => true
  | .bool a, .bool b => a = b
  | .int a, .int b => a = b
  | .float a, .float b => a = b
  | .str a, .str b => a = b
  | .arr items, .arr others => identicalItems items others
  | .obj members, .obj others => identicalMembers members others
  | _, _ => false

def identicalItems : List Json → List Json → Bool
  | [], [] => true
  | item :: rest, other :: others => identical item other && identicalItems rest others
  | _, _ => false

def identicalMembers : List (String × Json) → List (String × Json) → Bool
  | [], [] => true
  | member :: rest, other :: others =>
    member.1 = other.1 && identical member.2 other.2 && identicalMembers rest others
  | _, _ => false
end

mutual
theorem identical_iff (a b : Json) : identical a b = true ↔ a = b := by
  cases a <;> cases b <;> simp [identical, identicalItems_iff, identicalMembers_iff]

theorem identicalItems_iff (items others : List Json) :
    identicalItems items others = true ↔ items = others := by
  cases items with
  | nil => cases others <;> simp [identicalItems]
  | cons item rest =>
    cases others with
    | nil => simp [identicalItems]
    | cons other others =>
      simp [identicalItems, identical_iff item other, identicalItems_iff rest others]

theorem identicalMembers_iff (members others : List (String × Json)) :
    identicalMembers members others = true ↔ members = others := by
  cases members with
  | nil => cases others <;> simp [identicalMembers]
  | cons member rest =>
    cases others with
    | nil => simp [identicalMembers]
    | cons other others =>
      simp [identicalMembers, identical_iff member.2 other.2, identicalMembers_iff rest others,
        Prod.ext_iff]
end

instance : DecidableEq Json := fun a b => decidable_of_iff _ (identical_iff a b)

mutual
/-- No object within the value has two members under one key. -/
def Distinct : Json → Prop
  | .arr items => DistinctItems items
  | .obj members => (Keyed.keys members).Nodup ∧ DistinctMembers members
  | _ => True

def DistinctItems : List Json → Prop
  | [] => True
  | item :: rest => Distinct item ∧ DistinctItems rest

def DistinctMembers : List (String × Json) → Prop
  | [] => True
  | member :: rest => Distinct member.2 ∧ DistinctMembers rest
end

@[simp] theorem str?_str (text : String) : str? (.str text) = some text := rfl

/-- A string is given by its text. -/
theorem isString_iff {json : Json} : json.isString = true ↔ ∃ text, json = .str text := by
  cases json <;> simp [isString, str?]

theorem isAtom_of_isString {json : Json} (isString : json.isString = true) :
    json.isAtom = true := by
  obtain ⟨text, rfl⟩ := isString_iff.mp isString
  rfl

/-- A list of strings holds those strings. -/
@[simp] theorem strings?_strings (texts : List String) : strings? (strings texts) = some texts := by
  induction texts with
  | nil => rfl
  | cons text rest ih =>
    simp only [strings, strings?, List.map_cons, List.mapM_cons] at ih ⊢
    simp [ih]

end Json

end TileBrain
