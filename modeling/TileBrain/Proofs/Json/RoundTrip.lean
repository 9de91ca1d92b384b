import Mathlib.Data.List.Basic
import TileBrain.Proofs.Json.Written
import TileBrain.Proofs.Keyed

/-! # Values come back from their text

The reader takes a written value for that value and stops behind it, whatever the layout, unless
the text goes on like a number. `Reader.value_write` is the induction over values;
the loops over items and members are read once, for any reader of their elements.

The reader counts down from the length of the text; every lemma therefore asks for a count of at
least what was written for the value. `parse_render` is about whole texts. Values with
floating-point numbers, overlong numerals or repeated keys are not `Restorable` and are left out.
-/

namespace TileBrain.Json

namespace Reader

variable {layout : Layout} {element : List Char → Except Stop (Json × List Char)}

private theorem skipBlanks_append {blanks : List Char} (areBlank : ∀ c ∈ blanks, isBlank c = true)
    (text : List Char) : skipBlanks (blanks ++ text) = skipBlanks text :=
  List.dropWhile_append_of_pos areBlank

private theorem skipBlanks_cons {c : Char} (visible : isBlank c = false) (text : List Char) :
    skipBlanks (c :: text) = c :: text := by
  simp [skipBlanks, visible]

private theorem skipBlanks_lineBreak (layout : Layout) (depth : Nat) (text : List Char) :
    skipBlanks (layout.lineBreak depth ++ text) = skipBlanks text :=
  skipBlanks_append (fun _ => Layout.isBlank_of_mem_lineBreak) text

/-- Behind the mark of a separator, blanks are passed over as they are behind the separator. -/
private theorem skipBlanks_separator {mark : Char} {separator : List Char}
    (separates : Separates mark separator) (visible : isBlank mark = false) (text : List Char) :
    ∃ next, skipBlanks (separator ++ text) = mark :: next ∧ skipBlanks next = skipBlanks text := by
  obtain ⟨blanks, rfl, areBlank⟩ := separates
  exact ⟨blanks ++ text, skipBlanks_cons visible _, skipBlanks_append areBlank text⟩

private theorem skipBlanks_closing (layout : Layout) (depth : Nat) {bracket : Char}
    (visible : isBlank bracket = false) (text : List Char) :
    skipBlanks (layout.lineBreak depth ++ bracket :: text) = bracket :: text := by
  rw [skipBlanks_lineBreak, skipBlanks_cons visible]

/-- A blank does not belong to a number. -/
private theorem endsNumber_of_isBlank {c : Char} (blank : isBlank c = true) (rest : List Char) :
    EndsNumber (c :: rest) := by
  apply endsNumber_cons
  simp only [isBlank, Bool.or_eq_true, decide_eq_true_eq] at blank
  rcases blank with ((rfl | rfl) | rfl) | rfl <;> decide

private theorem endsNumber_comma (regular : layout.Regular) (text : List Char) :
    EndsNumber (layout.comma ++ text) := by
  obtain ⟨blanks, isComma, _⟩ := regular.comma
  rw [isComma]
  apply endsNumber_cons
  decide

private theorem endsNumber_lineBreak (layout : Layout) (depth : Nat) {text : List Char}
    (ends : EndsNumber text) : EndsNumber (layout.lineBreak depth ++ text) := by
  cases written : layout.lineBreak depth with
  | nil => exact ends
  | cons c rest =>
    have blank : isBlank c = true :=
      Layout.isBlank_of_mem_lineBreak (written ▸ List.mem_cons_self)
    exact endsNumber_of_isBlank blank _

/-- The text begins with a character that is no blank and closes nothing. -/
def Opens (text : List Char) : Prop :=
  ∃ c rest, text = c :: rest ∧ isBlank c = false ∧ c ≠ ']' ∧ c ≠ '}'

theorem Opens.append {text : List Char} (opens : Opens text) (more : List Char) :
    Opens (text ++ more) := by
  obtain ⟨c, rest, rfl, visible⟩ := opens
  exact ⟨c, rest ++ more, rfl, visible⟩

theorem Opens.skipBlanks {text : List Char} (opens : Opens text) : skipBlanks text = text := by
  obtain ⟨c, rest, rfl, visible, _⟩ := opens
  exact skipBlanks_cons visible rest

/-- Such a text cannot be had for nothing. -/
private theorem Opens.exists_eq_succ {text : List Char} (opens : Opens text) {count : Nat}
    (enough : text.length ≤ count) : ∃ fewer, count = fewer + 1 := by
  obtain ⟨c, rest, rfl, _⟩ := opens
  rw [List.length_cons] at enough
  exact Nat.exists_eq_succ_of_ne_zero (by omega)

theorem opens_of_isDigit {c : Char} (isDigit : c.isDigit = true) (rest : List Char) :
    Opens (c :: rest) := by
  refine ⟨c, rest, rfl, ?_, ?_, ?_⟩
  · cases blank : isBlank c with
    | false => rfl
    | true => exact absurd isDigit (Bool.eq_false_iff.mp (endsNumber_of_isBlank blank [] c rfl).1)
  · rintro rfl
    exact absurd isDigit (by decide)
  · rintro rfl
    exact absurd isDigit (by decide)

private theorem opens_writeInt (value : Int) : Opens (writeInt value) := by
  obtain ⟨c, rest, isCons, isDigit, _⟩ := exists_toDigits_eq_cons value.natAbs
  unfold writeInt
  split
  · exact ⟨'-', _, rfl, by decide⟩
  · rw [isCons]
    exact opens_of_isDigit isDigit rest

private theorem opens_writeString (text : String) :
    Opens (writeString text) := ⟨'"', _, rfl, by decide⟩

private theorem opens_write (layout : Layout) {json : Json} (restorable : Restorable json)
    (depth : Nat) :
    Opens (write layout depth json) := by
  cases restorable with
  | null => exact ⟨'n', _, rfl, by decide⟩
  | bool value => cases value <;> exact ⟨_, _, rfl, by decide⟩
  | int => exact opens_writeInt _
  | str text => exact opens_writeString text
  | @arr items => cases items <;> exact ⟨'[', _, rfl, by decide⟩
  | @obj members => cases members <;> exact ⟨'{', _, rfl, by decide⟩

theorem value_atom {c : Char} (count : Nat) (rest : List Char)
    (plain : c ≠ '"' ∧ c ≠ '[' ∧ c ≠ '{') : value (count + 1) (c :: rest) = atom (c :: rest) := by
  rw [value.eq_5]
  all_goals simp [plain]

private theorem value_null (depth count : Nat) (text : List Char) :
    value (count + 1) (write layout depth .null ++ text) = .ok (.null, text) := rfl

private theorem value_bool (depth count : Nat) (value : Bool) (text : List Char) :
    Reader.value (count + 1) (write layout depth (.bool value) ++ text) =
      .ok (.bool value, text) := by
  cases value <;> rfl

/-- No word begins with a digit, or with a digit behind a minus sign. -/
theorem word?_of_isDigit {c : Char} (isDigit : c.isDigit = true) (rest : List Char) :
    word? (c :: rest) = none ∧ word? ('-' :: c :: rest) = none := by
  have letters : ∀ letter ∈ ['n', 't', 'f', 'N', 'I', '-'], (!letter.isDigit) = true :=
    List.all_eq_true.mp rfl
  have differs : ∀ letter ∈ ['n', 't', 'f', 'N', 'I', '-'], (letter == c) = false := by
    intro letter member
    apply beq_false_of_ne
    rintro rfl
    have noDigit := letters letter member
    rw [isDigit] at noDigit
    exact nomatch noDigit
  simp only [List.forall_mem_cons] at differs
  constructor
  · simp [word?, words, List.isPrefixOf?, differs]
  · simp [word?, words, List.isPrefixOf?, differs]

private theorem value_writeInt (count : Nat) {number : Int} {text : List Char}
    (short : digitCount number ≤ Text.digitLimit) (ends : EndsNumber text) :
    value (count + 1) (writeInt number ++ text) = .ok (.int number, text) := by
  have found := number_writeInt short ends
  obtain ⟨c, rest, isCons, isDigit, _⟩ := exists_toDigits_eq_cons number.natAbs
  obtain ⟨unsigned, signed⟩ := word?_of_isDigit isDigit (rest ++ text)
  by_cases negative : number < 0
  · rw [writeInt, if_pos negative, isCons, List.cons_append, List.cons_append] at found ⊢
    rw [value_atom count _ (by decide), atom, signed, found]
  · have plain : c ≠ '"' ∧ c ≠ '[' ∧ c ≠ '{' := by
      refine ⟨?_, ?_, ?_⟩ <;> rintro rfl <;> exact absurd isDigit (by decide)
    rw [writeInt, if_neg negative, isCons, List.cons_append] at found ⊢
    rw [value_atom count _ plain, atom, unsigned, found]

private theorem value_writeString {count : Nat} {text : String}
    (enough : (writeString text).length ≤ count + 1) (rest : List Char) :
    value (count + 1) (writeString text ++ rest) = .ok (.str text, rest) := by
  rw [writeString_append, value, stringBody_writeString _ enough]
  change Except.ok (Json.str (String.ofList text.toList), rest) = _
  rw [String.ofList_toList]

private theorem items_close {text rest left : List Char} {item : Json} (count : Nat)
    (found : element text = .ok (item, rest)) (closed : skipBlanks rest = ']' :: left) :
    items element (count + 1) text = .ok ([item], left) := by
  simp only [items, found, bind, Except.bind, closed]

private theorem items_comma {text rest next : List Char} {item : Json} (count : Nat)
    (found : element text = .ok (item, rest)) (more : skipBlanks rest = ',' :: next) :
    items element (count + 1) text =
      (items element count (skipBlanks next)).map fun found => (item :: found.1, found.2) := by
  simp only [items, found, bind, Except.bind, more]
  cases items element count (skipBlanks next) <;> rfl

/-- The loop over items undoes what is written for them, if each of them is read back. -/
private theorem items_writeItems (regular : layout.Regular) {depth count : Nat} {item : Json}
    {rest : List Json}
    (reads : ∀ other ∈ item :: rest, ∀ text, EndsNumber text →
      element (write layout depth other ++ text) = .ok (other, text))
    (opens : ∀ other ∈ rest, Opens (write layout depth other))
    (enough : (writeItems layout depth rest).length < count) (closing : Nat) (text : List Char) :
    items element count (write layout depth item ++ (writeItems layout depth rest ++
      (layout.lineBreak closing ++ ']' :: text))) = .ok (item :: rest, text) := by
  induction rest generalizing item count with
  | nil =>
    obtain ⟨count, rfl⟩ := Nat.exists_eq_succ_of_ne_zero (show count ≠ 0 by omega)
    have found := reads item List.mem_cons_self (layout.lineBreak closing ++ ']' :: text)
      (endsNumber_lineBreak layout closing (endsNumber_cons text (by decide)))
    exact items_close count found (skipBlanks_closing layout closing (by decide) text)
  | cons next rest ih =>
    obtain ⟨count, rfl⟩ := Nat.exists_eq_succ_of_ne_zero (show count ≠ 0 by omega)
    obtain ⟨first, others⟩ := List.forall_mem_cons.mp reads
    obtain ⟨nextOpens, restOpens⟩ := List.forall_mem_cons.mp opens
    simp only [writeItems, List.append_assoc, List.length_append] at enough ⊢
    have separator := regular.comma.length_pos
    have shorter : (writeItems layout depth rest).length < count := by omega
    obtain ⟨after, comma, skipped⟩ := skipBlanks_separator regular.comma rfl
      (layout.lineBreak depth ++ (write layout depth next ++ (writeItems layout depth rest ++
        (layout.lineBreak closing ++ ']' :: text))))
    rw [items_comma count (first _ (endsNumber_comma regular _)) comma, skipped,
      skipBlanks_lineBreak, (nextOpens.append _).skipBlanks, ih others restOpens shorter]
    rfl

section Members

variable {depth count : Nat} {member : String × Json} {text left : List Char}

private theorem members_close (regular : layout.Regular)
    (enough : (writeString member.1).length ≤ count + 1)
    (opens : Opens (write layout depth member.2))
    (found : element (write layout depth member.2 ++ text) = .ok (member.2, text))
    (closed : skipBlanks text = '}' :: left) :
    members element (count + 1)
      (writeString member.1 ++ (layout.colon ++ (write layout depth member.2 ++ text))) =
      .ok ([member], left) := by
  obtain ⟨next, colon, skipped⟩ :=
    skipBlanks_separator regular.colon rfl (write layout depth member.2 ++ text)
  rw [(opens.append text).skipBlanks] at skipped
  rw [writeString_append, members, stringBody_writeString _ enough]
  simp only [bind, Except.bind, colon, skipped, found, closed, String.ofList_toList]

private theorem members_comma (regular : layout.Regular)
    (enough : (writeString member.1).length ≤ count + 1)
    (opens : Opens (write layout depth member.2))
    (found : element (write layout depth member.2 ++ text) = .ok (member.2, text))
    (more : skipBlanks text = ',' :: left) :
    members element (count + 1)
      (writeString member.1 ++ (layout.colon ++ (write layout depth member.2 ++ text))) =
      (members element count (skipBlanks left)).map fun found => (member :: found.1, found.2) := by
  obtain ⟨next, colon, skipped⟩ :=
    skipBlanks_separator regular.colon rfl (write layout depth member.2 ++ text)
  rw [(opens.append text).skipBlanks] at skipped
  rw [writeString_append, members, stringBody_writeString _ enough]
  simp only [bind, Except.bind, colon, skipped, found, more, String.ofList_toList]
  cases members element count (skipBlanks left) <;> rfl

end Members

/-- The loop over members undoes what is written for them, if each of them is read back. -/
private theorem members_writeMembers (regular : layout.Regular) {depth count : Nat}
    {member : String × Json} {rest : List (String × Json)}
    (reads : ∀ other ∈ member :: rest, ∀ text, EndsNumber text →
      element (write layout depth other.2 ++ text) = .ok (other.2, text))
    (opens : ∀ other ∈ member :: rest, Opens (write layout depth other.2))
    (enough : (writeString member.1).length + (writeMembers layout depth rest).length ≤ count)
    (closing : Nat) (text : List Char) :
    members element count (writeString member.1 ++ (layout.colon ++
      (write layout depth member.2 ++ (writeMembers layout depth rest ++
        (layout.lineBreak closing ++ '}' :: text))))) = .ok (member :: rest, text) := by
  induction rest generalizing member count with
  | nil =>
    have named : (writeString member.1).length ≤ count := by omega
    obtain ⟨count, rfl⟩ := (opens_writeString member.1).exists_eq_succ named
    have found := reads member List.mem_cons_self (layout.lineBreak closing ++ '}' :: text)
      (endsNumber_lineBreak layout closing (endsNumber_cons text (by decide)))
    exact members_close regular named (opens member List.mem_cons_self) found
      (skipBlanks_closing layout closing (by decide) text)
  | cons next rest ih =>
    have named : (writeString member.1).length ≤ count := by omega
    obtain ⟨count, rfl⟩ := (opens_writeString member.1).exists_eq_succ named
    obtain ⟨first, others⟩ := List.forall_mem_cons.mp reads
    obtain ⟨firstOpens, othersOpen⟩ := List.forall_mem_cons.mp opens
    simp only [writeMembers, List.append_assoc, List.length_append] at enough ⊢
    have separator := regular.comma.length_pos
    have shorter :
        (writeString next.1).length + (writeMembers layout depth rest).length ≤ count := by
      omega
    obtain ⟨after, comma, skipped⟩ := skipBlanks_separator regular.comma rfl
      (layout.lineBreak depth ++ (writeString next.1 ++ (layout.colon ++
        (write layout depth next.2 ++ (writeMembers layout depth rest ++
          (layout.lineBreak closing ++ '}' :: text))))))
    rw [members_comma regular named firstOpens (first _ (endsNumber_comma regular _)) comma,
      skipped, skipBlanks_lineBreak, ((opens_writeString next.1).append _).skipBlanks,
      ih others othersOpen shorter]
    rfl

private theorem value_items {count : Nat} {text inner left : List Char} {found : List Json}
    (behind : skipBlanks text = inner) (opens : Opens inner)
    (read : items (value count) count inner = .ok (found, left)) :
    value (count + 1) ('[' :: text) = .ok (.arr found, left) := by
  obtain ⟨c, rest, rfl, _, noBracket, _⟩ := opens
  rw [value, behind]
  split
  next closed => exact absurd (List.cons.inj closed).1 noBracket
  next => simp only [read, bind, Except.bind]

private theorem value_members {count : Nat} {text inner left : List Char}
    {found : List (String × Json)} (behind : skipBlanks text = inner) (opens : Opens inner)
    (read : members (value count) count inner = .ok (found, left))
    (distinct : (Keyed.keys found).Nodup) :
    value (count + 1) ('{' :: text) = .ok (.obj found, left) := by
  obtain ⟨c, rest, rfl, _, _, noBrace⟩ := opens
  rw [value, behind]
  split
  next closed => exact absurd (List.cons.inj closed).1 noBrace
  next =>
    have entered : Keyed.putAll [] found = found := Keyed.putAll_of_nodup distinct
    simp only [read, bind, Except.bind, entered]

section Parts

variable {depth count : Nat}

private theorem value_write_arr (regular : layout.Regular) {list : List Json}
    (reads : ∀ item ∈ list, (write layout (depth + 1) item).length ≤ count → ∀ text,
      EndsNumber text → value count (write layout (depth + 1) item ++ text) = .ok (item, text))
    (opens : ∀ item ∈ list, Opens (write layout (depth + 1) item))
    (enough : (write layout depth (.arr list)).length ≤ count + 1) (text : List Char) :
    value (count + 1) (write layout depth (.arr list) ++ text) = .ok (.arr list, text) := by
  cases list with
  | nil => rfl
  | cons item rest =>
    obtain ⟨first, others⟩ := List.forall_mem_cons.mp opens
    simp only [write, List.length_cons, List.length_append, List.append_assoc, List.cons_append]
      at enough ⊢
    have fits : ∀ other ∈ item :: rest, (write layout (depth + 1) other).length ≤ count := by
      intro other member
      rcases List.mem_cons.mp member with rfl | later
      · omega
      · have shorter := length_write_le_writeItems layout (depth + 1) later
        omega
    have inner := items_writeItems regular
      (fun other member => reads other member (fits other member)) others
      (show (writeItems layout (depth + 1) rest).length < count by omega) depth text
    apply value_items _ (first.append _) inner
    rw [skipBlanks_lineBreak]
    exact (first.append _).skipBlanks

private theorem value_write_obj (regular : layout.Regular) {list : List (String × Json)}
    (distinct : (Keyed.keys list).Nodup)
    (reads : ∀ member ∈ list, (write layout (depth + 1) member.2).length ≤ count → ∀ text,
      EndsNumber text →
        value count (write layout (depth + 1) member.2 ++ text) = .ok (member.2, text))
    (opens : ∀ member ∈ list, Opens (write layout (depth + 1) member.2))
    (enough : (write layout depth (.obj list)).length ≤ count + 1) (text : List Char) :
    value (count + 1) (write layout depth (.obj list) ++ text) = .ok (.obj list, text) := by
  cases list with
  | nil => rfl
  | cons member rest =>
    simp only [write, List.length_cons, List.length_append, List.append_assoc, List.cons_append]
      at enough ⊢
    have fits : ∀ other ∈ member :: rest, (write layout (depth + 1) other.2).length ≤ count := by
      intro other isMember
      rcases List.mem_cons.mp isMember with rfl | later
      · omega
      · have shorter := length_write_le_writeMembers layout (depth + 1) later
        omega
    have inner := members_writeMembers regular
      (fun other isMember => reads other isMember (fits other isMember)) opens
      (show (writeString member.1).length + (writeMembers layout (depth + 1) rest).length ≤ count by
        omega) depth text
    have named := opens_writeString member.1
    apply value_members _ (named.append _) inner distinct
    rw [skipBlanks_lineBreak]
    exact (named.append _).skipBlanks

end Parts

/-- The reader takes a written value for that value and stops behind it. -/
theorem value_write (regular : layout.Regular) {json : Json} (restorable : Restorable json)
    {depth count : Nat} (enough : (write layout depth json).length ≤ count) {text : List Char}
    (ends : EndsNumber text) :
    value count (write layout depth json ++ text) = .ok (json, text) := by
  obtain ⟨count, rfl⟩ := (opens_write layout restorable depth).exists_eq_succ enough
  induction restorable generalizing depth count text with
  | null => exact value_null depth count text
  | bool value => exact value_bool depth count value text
  | int short => exact value_writeInt count short ends
  | str => exact value_writeString enough text
  | arr parts ih =>
    refine value_write_arr regular ?_ (fun item member => opens_write layout (parts item member) _)
      enough text
    intro item member fits text ends
    obtain ⟨fewer, rfl⟩ := (opens_write layout (parts item member) _).exists_eq_succ fits
    exact ih item member ends fewer fits
  | obj distinct parts ih =>
    refine value_write_obj regular distinct ?_
      (fun member isMember => opens_write layout (parts member isMember) _) enough text
    intro member isMember fits text ends
    obtain ⟨fewer, rfl⟩ := (opens_write layout (parts member isMember) _).exists_eq_succ fits
    exact ih member isMember ends fewer fits

private theorem document_write (regular : layout.Regular) {json : Json}
    (restorable : Restorable json) :
    document (write layout 0 json) = .ok json := by
  have read := value_write regular restorable (Nat.le_refl (write layout 0 json).length)
    endsNumber_nil
  have opens := opens_write layout restorable 0
  rw [List.append_nil] at read
  unfold document
  split
  next rest isMark =>
    have ascii := isAscii_of_mem_write regular restorable 0 '\ufeff' (isMark ▸ List.mem_cons_self)
    exact absurd ascii (by decide)
  next =>
    have finished : skipBlanks [] = [] := rfl
    simp only [opens.skipBlanks, read, bind, Except.bind, finished]

end Reader

/-- A value comes back from its text. -/
theorem parse_render {layout : Layout} (regular : layout.Regular) {json : Json}
    (restorable : Restorable json) : parse (json.render layout) = .ok json := by
  rw [parse, render, String.toList_ofList, Reader.document_write regular restorable]

theorem uses_of_mem_render {layout : Layout} {json : Json} (restorable : Restorable json) {c : Char}
    (member : c ∈ (json.render layout).toList) : layout.Uses c := by
  rw [render, String.toList_ofList] at member
  exact uses_of_mem_write restorable 0 c member

/-- The text of a value consists of ASCII characters. -/
theorem isAscii_of_mem_render {layout : Layout} (regular : layout.Regular) {json : Json}
    (restorable : Restorable json) {c : Char} (member : c ∈ (json.render layout).toList) :
    Text.isAscii c = true := by
  rw [render, String.toList_ofList] at member
  exact isAscii_of_mem_write regular restorable 0 c member

end TileBrain.Json
