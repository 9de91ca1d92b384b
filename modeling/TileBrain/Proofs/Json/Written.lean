import TileBrain.Proofs.Json.Numbers
import TileBrain.Proofs.Json.Strings

/-! # What is written

A value is written with ASCII characters alone, in every layout that separates its parts by a comma
and a colon with nothing but blanks after them. Floating-point numbers are left out here.

`uses_of_mem_write` is the induction over values: characters that are no controls, line breaks, and
the separators of the layout are all that is ever written. That a text is ASCII follows from it, and
that it has no carriage return.
-/

namespace TileBrain.Json

open Reader

/-- Numbers are whole and short enough to be read, and no object has a key twice. -/
inductive Restorable : Json → Prop
  | null : Restorable .null
  | bool (value : Bool) : Restorable (.bool value)
  | int {value : Int} (short : digitCount value ≤ Text.digitLimit) : Restorable (.int value)
  | str (text : String) : Restorable (.str text)
  | arr {items : List Json} (parts : ∀ item ∈ items, Restorable item) : Restorable (.arr items)
  | obj {members : List (String × Json)} (distinct : (Keyed.keys members).Nodup)
      (parts : ∀ member ∈ members, Restorable member.2) : Restorable (.obj members)

/-- A list of strings can always be restored. -/
theorem Restorable.strings (texts : List String) : Restorable (.strings texts) := by
  apply Restorable.arr
  intro item member
  obtain ⟨text, _, rfl⟩ := List.mem_map.mp member
  exact .str text

/-- An object with one member is as good as its member. -/
theorem Restorable.singleton (key : String) {value : Json} (restorable : Restorable value) :
    Restorable (.obj [(key, value)]) := by
  apply Restorable.obj
  · exact List.pairwise_singleton _ _
  · intro member isMember
    rw [List.mem_singleton.mp isMember]
    exact restorable

/-- The mark, with nothing but blanks behind it. -/
def Separates (mark : Char) (text : List Char) : Prop :=
  ∃ blanks, text = mark :: blanks ∧ ∀ c ∈ blanks, isBlank c = true

theorem Separates.length_pos {mark : Char} {text : List Char} (separates : Separates mark text) :
    0 < text.length := by
  obtain ⟨blanks, rfl, _⟩ := separates
  exact Nat.succ_pos blanks.length

namespace Layout

/-- Separators are followed by blanks alone. -/
structure Regular (layout : Layout) : Prop where
  comma : Separates ',' layout.comma
  colon : Separates ':' layout.colon

theorem regular_compact : compact.Regular := ⟨⟨[], rfl, nofun⟩, ⟨[], rfl, nofun⟩⟩

theorem regular_spaced : spaced.Regular :=
  ⟨⟨[' '], rfl, List.all_eq_true.mp rfl⟩, ⟨[' '], rfl, List.all_eq_true.mp rfl⟩⟩

theorem regular_lines (indent : Int) : (lines indent).Regular :=
  ⟨⟨[], rfl, nofun⟩, ⟨[' '], rfl, List.all_eq_true.mp rfl⟩⟩

theorem isBlank_of_mem_lineBreak {layout : Layout} {depth : Nat} {c : Char}
    (member : c ∈ layout.lineBreak depth) : isBlank c = true := by
  unfold lineBreak at member
  split at member
  · exact nomatch member
  · rcases List.mem_cons.mp member with rfl | space
    · rfl
    · rw [List.eq_of_mem_replicate space]
      rfl

end Layout

private theorem isAscii_of_isBlank {c : Char} (blank : isBlank c = true) :
    Text.isAscii c = true := by
  simp only [isBlank, Bool.or_eq_true, decide_eq_true_eq] at blank
  rcases blank with ((rfl | rfl) | rfl) | rfl <;> rfl

private theorem writeItems_eq_flatMap (layout : Layout) (depth : Nat) (items : List Json) :
    writeItems layout depth items =
      items.flatMap fun item =>
        layout.comma ++ layout.lineBreak depth ++ write layout depth item := by
  induction items with
  | nil => rfl
  | cons item rest ih => rw [writeItems, ih, List.flatMap_cons]

private theorem writeMembers_eq_flatMap (layout : Layout) (depth : Nat)
    (members : List (String × Json)) :
    writeMembers layout depth members =
      members.flatMap fun member => layout.comma ++ layout.lineBreak depth ++
        writeString member.1 ++ layout.colon ++ write layout depth member.2 := by
  induction members with
  | nil => rfl
  | cons member rest ih => rw [writeMembers, ih, List.flatMap_cons]

theorem length_write_le_writeItems (layout : Layout) (depth : Nat) {items : List Json} {item : Json}
    (member : item ∈ items) :
    (write layout depth item).length ≤ (writeItems layout depth items).length := by
  induction items with
  | nil => exact nomatch member
  | cons other rest ih =>
    simp only [writeItems, List.length_append]
    rcases List.mem_cons.mp member with rfl | later
    · omega
    · have := ih later
      omega

theorem length_write_le_writeMembers (layout : Layout) (depth : Nat)
    {members : List (String × Json)} {member : String × Json} (isMember : member ∈ members) :
    (write layout depth member.2).length ≤ (writeMembers layout depth members).length := by
  induction members with
  | nil => exact nomatch isMember
  | cons other rest ih =>
    simp only [writeMembers, List.length_append]
    rcases List.mem_cons.mp isMember with rfl | later
    · omega
    · have := ih later
      omega

section Characters

variable {layout : Layout}

private theorem isAscii_of_mem_separator {mark : Char} {text : List Char}
    (separates : Separates mark text) (isAscii : Text.isAscii mark = true) {c : Char}
    (member : c ∈ text) : Text.isAscii c = true := by
  obtain ⟨blanks, rfl, areBlank⟩ := separates
  rcases List.mem_cons.mp member with rfl | blank
  · exact isAscii
  · exact isAscii_of_isBlank (areBlank c blank)

private theorem isGraphic_of_mem_writeInt {value : Int} {c : Char} (member : c ∈ writeInt value) :
    Text.isGraphic c = true := by
  have digits {c : Char} (member : c ∈ Nat.toDigits 10 value.natAbs) :
      Text.isGraphic c = true := by
    have isDigit := isDigit_of_mem_toDigits member
    simp only [Char.isDigit, Bool.and_eq_true, decide_eq_true_eq] at isDigit
    rw [Text.isGraphic, Bool.and_eq_true, decide_eq_true_eq, decide_eq_true_eq]
    exact ⟨Nat.le_trans (by decide) isDigit.1, Nat.le_trans isDigit.2 (by decide)⟩
  unfold writeInt at member
  split at member
  · rcases List.mem_cons.mp member with rfl | member
    · rfl
    · exact digits member
  · exact digits member

/-- What a value may be written with: characters that are no controls, line breaks, and the
separators of the layout. -/
def Layout.Uses (layout : Layout) (c : Char) : Prop :=
  (Text.isGraphic c = true ∨ c = '\n') ∨ c ∈ layout.comma ∨ c ∈ layout.colon

private theorem uses_of_isGraphic {c : Char} (graphic : Text.isGraphic c = true) : layout.Uses c :=
  .inl (.inl graphic)

private theorem uses_of_mem_lineBreak {depth : Nat} {c : Char}
    (member : c ∈ layout.lineBreak depth) : layout.Uses c := by
  unfold Layout.lineBreak at member
  split at member
  · exact nomatch member
  · rcases List.mem_cons.mp member with rfl | space
    · exact .inl (.inr rfl)
    · rw [List.eq_of_mem_replicate space]
      exact uses_of_isGraphic rfl

/-- Nothing else is written, at any depth. -/
theorem uses_of_mem_write {json : Json} (restorable : Restorable json) (depth : Nat) :
    ∀ c ∈ write layout depth json, layout.Uses c := by
  induction restorable generalizing depth with
  | null => exact fun c member => uses_of_isGraphic (List.all_eq_true.mp rfl c member)
  | bool value =>
    cases value <;> exact fun c member => uses_of_isGraphic (List.all_eq_true.mp rfl c member)
  | int => exact fun c member => uses_of_isGraphic (isGraphic_of_mem_writeInt member)
  | str text => exact fun c member => uses_of_isGraphic (isGraphic_of_mem_writeString member)
  | @arr items parts ih =>
    cases items with
    | nil => exact fun c member => uses_of_isGraphic (List.all_eq_true.mp rfl c member)
    | cons item rest =>
      intro c written
      obtain ⟨first, others⟩ := List.forall_mem_cons.mp ih
      simp only [write, writeItems_eq_flatMap, List.mem_cons, List.mem_append, List.mem_flatMap,
        List.not_mem_nil, or_false] at written
      rcases written with rfl | (((space | inItem) | ⟨other, isOther, (comma | space) | inOther⟩) |
        space) | rfl
      · exact uses_of_isGraphic rfl
      · exact uses_of_mem_lineBreak space
      · exact first _ c inItem
      · exact .inr (.inl comma)
      · exact uses_of_mem_lineBreak space
      · exact others other isOther _ c inOther
      · exact uses_of_mem_lineBreak space
      · exact uses_of_isGraphic rfl
  | @obj members distinct parts ih =>
    cases members with
    | nil => exact fun c member => uses_of_isGraphic (List.all_eq_true.mp rfl c member)
    | cons member rest =>
      intro c written
      obtain ⟨first, others⟩ := List.forall_mem_cons.mp ih
      simp only [write, writeMembers_eq_flatMap, List.mem_cons, List.mem_append, List.mem_flatMap,
        List.not_mem_nil, or_false] at written
      rcases written with rfl | (((((space | name) | colon) | inValue) |
        ⟨other, isOther, (((comma | space) | name) | colon) | inOther⟩) | space) | rfl
      · exact uses_of_isGraphic rfl
      · exact uses_of_mem_lineBreak space
      · exact uses_of_isGraphic (isGraphic_of_mem_writeString name)
      · exact .inr (.inr colon)
      · exact first _ c inValue
      · exact .inr (.inl comma)
      · exact uses_of_mem_lineBreak space
      · exact uses_of_isGraphic (isGraphic_of_mem_writeString name)
      · exact .inr (.inr colon)
      · exact others other isOther _ c inOther
      · exact uses_of_mem_lineBreak space
      · exact uses_of_isGraphic rfl

/-- Only ASCII characters are written. -/
theorem isAscii_of_mem_write (regular : layout.Regular) {json : Json} (restorable : Restorable json)
    (depth : Nat) : ∀ c ∈ write layout depth json, Text.isAscii c = true := by
  intro c member
  rcases uses_of_mem_write restorable depth c member with (graphic | rfl) | comma | colon
  · exact Text.isAscii_of_isGraphic graphic
  · rfl
  · exact isAscii_of_mem_separator regular.comma rfl comma
  · exact isAscii_of_mem_separator regular.colon rfl colon

end Characters

end TileBrain.Json
