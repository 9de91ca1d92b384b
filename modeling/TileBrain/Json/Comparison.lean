import TileBrain.Json.Basic

/-! # Comparing JSON values

Values written differently may count as the same: numbers do if they have the same exact value, a
flag being one or nothing, and objects if they have the same members in any order. Only numbers,
strings and lists have an order, and only among themselves. `same_str_iff` and `isAtMost_int` say
what this comes to for strings and whole numbers, `isAtMost_trans` and `isAtMost_total` that numbers
form a row.
-/

namespace TileBrain

/-- The exact value of a number: the side of all finite numbers that it is on, and how many times
the least positive floating-point value it holds. -/
structure Magnitude where
  side : Int
  units : Int
  deriving DecidableEq

namespace Magnitude

/-- The number of times that one holds the least positive floating-point value. -/
def unitsOfOne : Int := Binary64.twoTo (-Binary64.leastExponent).toNat

theorem unitsOfOne_pos : 0 < unitsOfOne := Int.natCast_pos.mpr (Binary64.twoTo_pos _)

def ofInt (value : Int) : Magnitude := ⟨0, value * unitsOfOne⟩

/-- The exact value of a floating-point number; not-a-number has none. -/
def ofFloat? : Binary64 → Option Magnitude
  | .nan => none
  | .infinite negative => some ⟨if negative then -1 else 1, 0⟩
  | .finite negative significand exponent =>
    let units : Int := significand * Binary64.twoTo (exponent - Binary64.leastExponent).toNat
    some ⟨0, if negative then -units else units⟩

def lt (a b : Magnitude) : Bool := a.side < b.side || (a.side = b.side && a.units < b.units)

@[simp] theorem lt_ofInt (a b : Int) : (ofInt a).lt (ofInt b) = true ↔ a < b := by
  simp [lt, ofInt, Int.mul_lt_mul_right unitsOfOne_pos]

/-- What is not before something that is not before a third is not before that either. -/
theorem not_lt_trans {a b c : Magnitude} (first : a.lt b = false) (second : b.lt c = false) :
    a.lt c = false := by
  simp only [lt, Bool.or_eq_false_iff, Bool.and_eq_false_iff, decide_eq_false_iff_not] at *
  omega

theorem lt_asymm {a b : Magnitude} (before : a.lt b = true) : b.lt a = false := by
  simp only [lt, Bool.or_eq_true, Bool.and_eq_true, decide_eq_true_eq, Bool.or_eq_false_iff,
    Bool.and_eq_false_iff, decide_eq_false_iff_not] at *
  omega

end Magnitude

namespace Json

/-- The exact value of a number or a flag. -/
def magnitude? : Json → Option Magnitude
  | .bool value => some (.ofInt (if value then 1 else 0))
  | .int value => some (.ofInt value)
  | .float value => Magnitude.ofFloat? value
  | _ => none

/-- Whether a value is a number or a flag. -/
def isNumber : Json → Bool
  | .bool _ => true
  | .int _ => true
  | .float _ => true
  | _ => false

/-- What a value without parts is identified by. -/
inductive Key where
  | null
  | number (value : Magnitude)
  | text (value : String)
  deriving DecidableEq

/-- The key of a value without parts; not-a-number has none, for nothing is the same as it. -/
def key? : Json → Option Key
  | .null => some .null
  | .str text => some (.text text)
  | json => json.magnitude?.map .number

/-- Whether there are two keys, and they are equal. -/
def sameKey : Option Key → Option Key → Bool
  | some a, some b => a = b
  | _, _ => false

mutual
/-- Whether two values count as the same. -/
def same : Json → Json → Bool
  | .arr items, .arr others => sameItems items others
  | .obj members, .obj others => members.length = others.length && sameMembers members others
  | a, b => sameKey a.key? b.key?

def sameItems : List Json → List Json → Bool
  | [], [] => true
  | item :: rest, other :: others => same item other && sameItems rest others
  | _, _ => false

/-- Whether each member counts as the same as the one under its key among the others. -/
def sameMembers : List (String × Json) → List (String × Json) → Bool
  | [], _ => true
  | member :: rest, others =>
    (Keyed.get? others member.1).any (same member.2 ·) && sameMembers rest others
end

/-- Whether a value counts as the same as one of a list. -/
def isAmong (json : Json) (items : List Json) : Bool := items.any json.same

mutual
/-- Whether a value comes before another, if the two have an order. Lists are compared at the first
item that differs. -/
def precedes? : Json → Json → Option Bool
  | .str a, .str b => some (a < b)
  | .arr items, .arr others => precedesItems? items others
  | a, b =>
    if a.isNumber && b.isNumber then
      some (match a.magnitude?, b.magnitude? with
        | some a, some b => a.lt b
        | _, _ => false)
    else none

def precedesItems? : List Json → List Json → Option Bool
  | _, [] => some false
  | [], _ :: _ => some true
  | item :: rest, other :: others =>
    if same item other then precedesItems? rest others else precedes? item other
end

/-- Whether two values have an order. -/
def isComparable (a b : Json) : Bool := (precedes? a b).isSome

/-- Whether a value need not come after another. -/
def isAtMost (a b : Json) : Bool := precedes? b a ≠ some true

@[simp] theorem same_str (a b : String) : same (.str a) (.str b) = decide (a = b) := by
  simp [same, sameKey, key?]

/-- Only a string has the key of a string. -/
theorem key?_eq_text_iff {text : String} {json : Json} :
    json.key? = some (.text text) ↔ json = .str text := by
  cases json with
  | null => simp [key?]
  | str => simp [key?]
  | bool => simp [key?]
  | int => simp [key?]
  | float => simp [key?]
  | arr => simp [key?]
  | obj => simp [key?]

/-- A value without parts is the same as another if they have a key in common. -/
theorem same_of_isAtom {a : Json} (atom : a.isAtom = true) (b : Json) :
    same a b = sameKey a.key? b.key? := by
  cases a <;> simp_all [isAtom, same]

/-- A string is the same as nothing but itself. -/
theorem same_str_iff {text : String} {json : Json} :
    same (.str text) json = true ↔ json = .str text := by
  rw [same_of_isAtom rfl, ← key?_eq_text_iff]
  cases json.key? <;> simp [key?, sameKey, eq_comm]

/-- A string counts as the same as itself alone. -/
theorem same_iff_of_isString {json other : Json} (isString : json.isString = true) :
    json.same other = true ↔ json = other := by
  obtain ⟨text, rfl⟩ := isString_iff.mp isString
  rw [same_str_iff, eq_comm]

/-- Whatever counts as the same as a string is that string. -/
theorem eq_str_of_same {json : Json} {text : String} (like : same json (.str text) = true) :
    json = .str text := by
  have keys : same json (.str text) = sameKey json.key? (some (.text text)) := by
    cases json <;> simp [same, key?]
  rw [keys] at like
  rw [← key?_eq_text_iff]
  generalize json.key? = key at *
  cases key <;> simp_all [sameKey]

/-- Two values without parts are the same if both are the same as a third. -/
theorem same_of_same {a b c : Json} (atomA : a.isAtom = true) (atomB : b.isAtom = true)
    (first : same a c = true) (second : same b c = true) : same a b = true := by
  rw [same_of_isAtom atomA] at *
  rw [same_of_isAtom atomB] at second
  cases hA : a.key? <;> cases hB : b.key? <;> cases hC : c.key? <;> simp_all [sameKey]

/-- Numbers with an exact value come in the order of these values. -/
theorem precedes?_of_magnitude? {a b : Json} {x y : Magnitude} (first : a.magnitude? = some x)
    (second : b.magnitude? = some y) : precedes? a b = some (x.lt y) := by
  have number {json : Json} {value : Magnitude} (measured : json.magnitude? = some value) :
      json.isNumber = true := by
    cases json <;> simp_all [magnitude?, isNumber]
  have bothNumbers := number first
  have otherNumber := number second
  cases a <;> cases b <;> simp_all [precedes?, isNumber]

theorem isAtMost_of_magnitude? {a b : Json} {x y : Magnitude} (first : a.magnitude? = some x)
    (second : b.magnitude? = some y) : isAtMost a b = !y.lt x := by
  simp [isAtMost, precedes?_of_magnitude? second first]

@[simp] theorem isAtMost_int (a b : Int) : isAtMost (.int a) (.int b) = true ↔ a ≤ b := by
  rw [isAtMost_of_magnitude? rfl rfl, Bool.not_eq_true', Bool.eq_false_iff, ne_eq,
    Magnitude.lt_ofInt]
  omega

theorem isAtMost_trans {a b c : Json} (measuredA : a.magnitude?.isSome)
    (measuredB : b.magnitude?.isSome) (measuredC : c.magnitude?.isSome)
    (first : isAtMost a b = true) (second : isAtMost b c = true) : isAtMost a c = true := by
  obtain ⟨x, isX⟩ := Option.isSome_iff_exists.mp measuredA
  obtain ⟨y, isY⟩ := Option.isSome_iff_exists.mp measuredB
  obtain ⟨z, isZ⟩ := Option.isSome_iff_exists.mp measuredC
  rw [isAtMost_of_magnitude? isX isY, Bool.not_eq_true'] at first
  rw [isAtMost_of_magnitude? isY isZ, Bool.not_eq_true'] at second
  rw [isAtMost_of_magnitude? isX isZ, Bool.not_eq_true']
  exact Magnitude.not_lt_trans second first

theorem isAtMost_total {a b : Json} (measuredA : a.magnitude?.isSome)
    (measuredB : b.magnitude?.isSome) (after : isAtMost a b = false) : isAtMost b a = true := by
  obtain ⟨x, isX⟩ := Option.isSome_iff_exists.mp measuredA
  obtain ⟨y, isY⟩ := Option.isSome_iff_exists.mp measuredB
  rw [isAtMost_of_magnitude? isX isY, Bool.not_eq_false'] at after
  rw [isAtMost_of_magnitude? isY isX, Bool.not_eq_true']
  exact Magnitude.lt_asymm after

end Json

end TileBrain
