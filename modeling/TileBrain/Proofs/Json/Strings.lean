import TileBrain.Json.Reader
import TileBrain.Json.Writer
import Mathlib.Tactic.SplitIfs

/-! # Strings come back from their escapes

What is written for a character is ASCII, and the reader takes it for that character again, also
where it had to be written as two units. `Reader.stringBody_flatMap_escapedChar` is the result for
a whole string.

No control character stands in what is written, which `isGraphic_of_mem_writeString` says. The
reader is followed one character at a time, through the three forms that the writer has: as it
stands, as a letter, and by number.
-/

namespace TileBrain

/-- A character is not half of a pair, and not beyond the last plane. -/
theorem Text.toNat_bounds (c : Char) :
    c.toNat < 0xd800 ∨ 0xdfff < c.toNat ∧ c.toNat < 0x110000 := c.valid

/-- Whether a character is one of ASCII. -/
def Text.isAscii (c : Char) : Bool := c.toNat < 0x80

/-- Whether a character is one of ASCII and no control character. -/
def Text.isGraphic (c : Char) : Bool := 0x20 ≤ c.toNat && c.toNat ≤ 0x7e

theorem Text.isAscii_of_isGraphic {c : Char} (graphic : Text.isGraphic c = true) :
    Text.isAscii c = true := by
  simp only [isGraphic, Bool.and_eq_true, decide_eq_true_eq] at graphic
  exact decide_eq_true (by omega)

private theorem isGraphic_digitChar {digit : Nat} (small : digit < 16) :
    Text.isGraphic (Nat.digitChar digit) = true := by
  revert digit
  decide

private theorem isGraphic_of_mem_hexadecimal {width n : Nat} {c : Char}
    (member : c ∈ Text.hexadecimal width n) : Text.isGraphic c = true := by
  induction width generalizing n with
  | zero => exact nomatch member
  | succ width ih =>
    rcases List.mem_append.mp member with earlier | last
    · exact ih earlier
    · rw [List.mem_singleton.mp last]
      exact isGraphic_digitChar (Nat.mod_lt _ (by decide))

namespace Json

private theorem isGraphic_of_mem_escapedUnit {unit : Nat} {c : Char}
    (member : c ∈ escapedUnit unit) : Text.isGraphic c = true := by
  rcases List.mem_cons.mp member with rfl | member
  · decide
  rcases List.mem_cons.mp member with rfl | member
  · decide
  exact isGraphic_of_mem_hexadecimal member

private theorem isGraphic_of_mem_escapedChar (c : Char) :
    ∀ written ∈ escapedChar c, Text.isGraphic written = true := by
  unfold escapedChar
  split_ifs with mark newline carriage tab backspace feed shown small
  · rcases mark with rfl | rfl <;> exact List.all_eq_true.mp rfl
  iterate 5 exact List.all_eq_true.mp rfl
  · intro written member
    rw [List.mem_singleton.mp member, Text.isGraphic, Bool.and_eq_true, decide_eq_true_eq,
      decide_eq_true_eq]
    exact shown
  · exact fun written => isGraphic_of_mem_escapedUnit
  · intro written member
    exact (List.mem_append.mp member).elim isGraphic_of_mem_escapedUnit isGraphic_of_mem_escapedUnit

theorem isGraphic_of_mem_writeString {text : String} {c : Char} (member : c ∈ writeString text) :
    Text.isGraphic c = true := by
  simp only [writeString, List.mem_cons, List.mem_append, List.not_mem_nil, or_false] at member
  rcases member with rfl | escaped | rfl
  · decide
  · obtain ⟨original, _, written⟩ := List.mem_flatMap.mp escaped
    exact isGraphic_of_mem_escapedChar original c written
  · decide

example : writeString "é😀\"" = "\"\\u00e9\\ud83d\\ude00\\\"\"".toList := by decide +kernel

private theorem escapedChar_ne_nil (c : Char) : escapedChar c ≠ [] := by
  unfold escapedChar
  split_ifs <;> simp [escapedUnit]

/-- No character is lost in its escape. -/
private theorem length_le_flatMap_escapedChar (characters : List Char) :
    characters.length ≤ (characters.flatMap escapedChar).length := by
  induction characters with
  | nil => exact Nat.le_refl 0
  | cons c rest ih =>
    have escaped := List.length_pos_iff.mpr (escapedChar_ne_nil c)
    rw [List.flatMap_cons, List.length_append, List.length_cons]
    omega

theorem writeString_append (text : String) (rest : List Char) :
    writeString text ++ rest = '"' :: (text.toList.flatMap escapedChar ++ '"' :: rest) := by
  simp [writeString]

namespace Reader

private theorem hexDigit?_digitChar {digit : Nat} (small : digit < 16) :
    hexDigit? (Nat.digitChar digit) = some digit := by
  revert digit
  decide

/-- Four digits give the unit back, provided that the text goes on. -/
private theorem unit?_hexadecimal {unit : Nat} (small : unit < 0x10000) {text : List Char}
    (more : text ≠ []) : unit? (Text.hexadecimal 4 unit ++ text) = some (unit, text) := by
  obtain ⟨next, rest, rfl⟩ := List.exists_cons_of_ne_nil more
  have digits (n : Nat) : hexDigit? (Nat.digitChar (n % 16)) = some (n % 16) :=
    hexDigit?_digitChar (Nat.mod_lt n (by decide))
  have joined :
      (((unit / 16 / 16 / 16 % 16 * 16 + unit / 16 / 16 % 16) * 16 + unit / 16 % 16) * 16 +
        unit % 16) = unit := by omega
  simp [Text.hexadecimal, unit?, digits, joined]

private theorem loneUnit_toNat (c : Char) : loneUnit c.toNat = c := by
  have bounds := Text.toNat_bounds c
  have single : (isHighUnit c.toNat || isLowUnit c.toNat) = false := by
    simp only [isHighUnit, isLowUnit, Bool.or_eq_false_iff, Bool.and_eq_false_iff,
      decide_eq_false_iff_not]
    omega
  simp [loneUnit, single]

private theorem numberedEscape_lone {c : Char} (small : c.toNat < 0x10000) {text : List Char}
    (more : text ≠ []) :
    numberedEscape (Text.hexadecimal 4 c.toNat ++ text) = .ok (c, text) := by
  have bounds := Text.toNat_bounds c
  have single : isHighUnit c.toNat = false := by
    simp only [isHighUnit, Bool.and_eq_false_iff, decide_eq_false_iff_not]
    omega
  simp [numberedEscape, unit?_hexadecimal small more, single, loneUnit_toNat]

private theorem lowUnit?_escapedUnit {low : Nat} (isLow : isLowUnit low = true) {text : List Char}
    (more : text ≠ []) : lowUnit? (escapedUnit low ++ text) = .ok (some (low, text)) := by
  have small : low < 0x10000 := by
    simp only [isLowUnit, Bool.and_eq_true, decide_eq_true_eq] at isLow
    omega
  have long : ¬ (Text.hexadecimal 4 low ++ text).length < 5 := by
    have := List.length_pos_iff.mpr more
    rw [List.length_append, Text.length_hexadecimal]
    omega
  simp only [escapedUnit, List.cons_append, lowUnit?, long, if_false, unit?_hexadecimal small more,
    isLow, if_true]

private theorem numberedEscape_pair {high low : Nat} (isHigh : isHighUnit high = true)
    (isLow : isLowUnit low = true) {text : List Char} (more : text ≠ []) :
    numberedEscape (Text.hexadecimal 4 high ++ (escapedUnit low ++ text)) =
      .ok (joinUnits high low, text) := by
  have small : high < 0x10000 := by
    simp only [isHighUnit, Bool.and_eq_true, decide_eq_true_eq] at isHigh
    omega
  have first : unit? (Text.hexadecimal 4 high ++ (escapedUnit low ++ text)) =
      some (high, escapedUnit low ++ text) :=
    unit?_hexadecimal small (by simp [escapedUnit])
  simp only [numberedEscape, first, isHigh, if_true, lowUnit?_escapedUnit isLow more, bind,
    Except.bind]

/-- A character beyond the first plane is put together again from its two units. -/
private theorem joinUnits_toNat {c : Char} (large : ¬ c.toNat < 0x10000) :
    joinUnits (0xd800 + (c.toNat - 0x10000) / 0x400) (0xdc00 + (c.toNat - 0x10000) % 0x400) =
      c := by
  have whole : 0x10000 + (0xd800 + (c.toNat - 0x10000) / 0x400 - 0xd800) * 0x400 +
      (0xdc00 + (c.toNat - 0x10000) % 0x400 - 0xdc00) = c.toNat := by omega
  rw [joinUnits, whole, Char.ofNat_toNat]

private theorem isHighUnit_of_toNat {c : Char} (large : ¬ c.toNat < 0x10000) :
    isHighUnit (0xd800 + (c.toNat - 0x10000) / 0x400) = true := by
  have bounds := Text.toNat_bounds c
  simp only [isHighUnit, Bool.and_eq_true, decide_eq_true_eq]
  omega

private theorem isLowUnit_of_toNat (c : Char) :
    isLowUnit (0xdc00 + (c.toNat - 0x10000) % 0x400) = true := by
  simp only [isLowUnit, Bool.and_eq_true, decide_eq_true_eq]
  omega

private theorem escape_letter (opening : List Char) {letter c : Char} (lettered : letter ≠ 'u')
    (found : letterEscapes.lookup letter = some c) (text : List Char) :
    escape opening (letter :: text) = .ok (c, text) := by
  rw [escape.eq_3 opening letter text lettered, found]

private theorem escape_numbered (opening rest : List Char) :
    escape opening ('u' :: rest) = numberedEscape rest := rfl

/-- One round of the reader takes an escape. -/
private theorem stringBody_escape {opening rest text : List Char} {c : Char} (count : Nat)
    (found : escape opening rest = .ok (c, text)) :
    stringBody opening (count + 1) ('\\' :: rest) =
      (stringBody opening count text).map fun found => (c :: found.1, found.2) := by
  rw [stringBody, if_neg (by decide), if_pos rfl, found]
  change (stringBody opening count text >>= fun found => .ok (c :: found.1, found.2)) = _
  cases stringBody opening count text <;> rfl

private theorem stringBody_letter (opening : List Char) (count : Nat) {letter c : Char}
    (lettered : letter ≠ 'u') (found : letterEscapes.lookup letter = some c) (text : List Char) :
    stringBody opening (count + 1) ('\\' :: letter :: text) =
      (stringBody opening count text).map fun found => (c :: found.1, found.2) := by
  apply stringBody_escape
  exact escape_letter opening lettered found text

/-- One round of the reader takes a character that stands for itself. -/
private theorem stringBody_plain (opening text : List Char) {c : Char} (count : Nat)
    (unmarked : ¬ (c = '"' ∨ c = '\\')) (visible : ¬ c.toNat ≤ 0x1f) :
    stringBody opening (count + 1) (c :: text) =
      (stringBody opening count text).map fun found => (c :: found.1, found.2) := by
  obtain ⟨noQuote, noBackslash⟩ := not_or.mp unmarked
  rw [stringBody, if_neg noQuote, if_neg noBackslash, if_neg visible]
  cases stringBody opening count text <;> rfl

/-- One round of the reader undoes what is written for one character. -/
private theorem stringBody_escapedChar (opening : List Char) (count : Nat) (c : Char)
    {text : List Char} (more : text ≠ []) :
    stringBody opening (count + 1) (escapedChar c ++ text) =
      (stringBody opening count text).map fun found => (c :: found.1, found.2) := by
  unfold escapedChar
  split_ifs with mark newline carriage tab backspace feed shown small
  · rcases mark with rfl | rfl <;> exact stringBody_letter opening count (by decide) rfl text
  · subst newline
    exact stringBody_letter opening count (by decide) rfl text
  · subst carriage
    exact stringBody_letter opening count (by decide) rfl text
  · subst tab
    exact stringBody_letter opening count (by decide) rfl text
  · subst backspace
    exact stringBody_letter opening count (by decide) rfl text
  · subst feed
    exact stringBody_letter opening count (by decide) rfl text
  · exact stringBody_plain opening text count mark (by omega)
  · apply stringBody_escape
    exact (escape_numbered opening _).trans (numberedEscape_lone small more)
  · have pair := numberedEscape_pair (isHighUnit_of_toNat small) (isLowUnit_of_toNat c) more
    rw [joinUnits_toNat small] at pair
    rw [List.append_assoc]
    apply stringBody_escape
    exact (escape_numbered opening _).trans pair

/-- The reader finds all characters of a string and stops behind its closing quote. -/
theorem stringBody_flatMap_escapedChar (opening : List Char) {count : Nat} {characters : List Char}
    (enough : characters.length < count) (rest : List Char) :
    stringBody opening count (characters.flatMap escapedChar ++ '"' :: rest) =
      .ok (characters, rest) := by
  induction characters generalizing count with
  | nil =>
    obtain ⟨count, rfl⟩ := Nat.exists_eq_succ_of_ne_zero (Nat.ne_of_gt enough)
    rfl
  | cons c characters ih =>
    obtain ⟨count, rfl⟩ := Nat.exists_eq_succ_of_ne_zero (show count ≠ 0 by omega)
    rw [List.length_cons] at enough
    have fewer : characters.length < count := by omega
    have more : characters.flatMap escapedChar ++ '"' :: rest ≠ [] := by simp
    rw [List.flatMap_cons, List.append_assoc, stringBody_escapedChar opening count c more, ih fewer]
    rfl

/-- The reader finds the text of a written string behind its opening quote. -/
theorem stringBody_writeString (opening : List Char) {count : Nat} {text : String}
    (enough : (writeString text).length ≤ count + 1) (rest : List Char) :
    stringBody opening count (text.toList.flatMap escapedChar ++ '"' :: rest) =
      .ok (text.toList, rest) := by
  have shorter := length_le_flatMap_escapedChar text.toList
  apply stringBody_flatMap_escapedChar
  simp only [writeString, List.length_cons, List.length_append, List.length_nil] at enough
  omega

end Reader

end Json

end TileBrain
