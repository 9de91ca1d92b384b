import Mathlib.Data.List.Basic
import TileBrain.Proofs.Json.RoundTrip

/-! # Numerals that are too long

Reading ends with a fault that has a place in the text, or with a numeral that is too long. In the
second case, so many digits stand in a row somewhere in the text: `hasRun_of_parse_eq_tooLong`.
Every reader goes on with an end of its text, so a numeral found by any of them stands in the whole
text.
-/

namespace TileBrain.Json

/-- So many digits stand in a row somewhere in the text. -/
def HasRun (text : List Char) (count : Nat) : Prop :=
  ∃ digits, digits <:+: text ∧ digits.length = count ∧ ∀ c ∈ digits, c.isDigit = true

namespace Reader

variable {α β : Type} {whole text : List Char}

/-- What is left to read is an end of the whole text, and a numeral that is too long stands in
it. -/
def Within (whole : List Char) : Except Stop (α × List Char) → Prop
  | .ok found => found.2 <:+ whole
  | .error (.misread ..) => True
  | .error (.tooLong digits) => HasRun whole digits ∧ Text.digitLimit < digits

private theorem within_ok (value : α) (isEnd : text <:+ whole) :
    Within whole (.ok (value, text)) := isEnd

private theorem within_misread (fault : Fault) (left : List Char) :
    Within whole (.error (.misread fault left) : Except Stop (α × List Char)) := trivial

/-- A reader that goes on where another one stopped. -/
theorem Within.bind {first : Except Stop (α × List Char)}
    {next : α × List Char → Except Stop (β × List Char)} (within : Within whole first)
    (others : ∀ value rest, rest <:+ whole → Within whole (next (value, rest))) :
    Within whole (first >>= next) := by
  cases first with
  | ok found => exact others found.1 found.2 within
  | error stop =>
    cases stop with
    | misread => trivial
    | tooLong => exact within

/-- A reader that makes something else of what was read, and leaves the same. -/
private theorem Within.handOn {first : Except Stop (α × List Char)} (within : Within whole first)
    (f : α → β) : Within whole (first >>= fun (value, rest) => .ok (f value, rest)) :=
  within.bind fun value _ left => within_ok (f value) left

private theorem skipBlanks_suffix (text : List Char) :
    skipBlanks text <:+ text := List.dropWhile_suffix _

/-- Behind a character that was found after blanks, the text is still an end of the whole. -/
private theorem suffix_of_skipBlanks {c : Char} {rest : List Char}
    (found : skipBlanks text = c :: rest) (isEnd : text <:+ whole) : rest <:+ whole := by
  have visible : c :: rest <:+ whole := found ▸ (skipBlanks_suffix text).trans isEnd
  exact (List.suffix_cons c rest).trans visible

private theorem unit?_suffix {unit : Nat} {rest : List Char}
    (found : unit? text = some (unit, rest)) :
    rest <:+ text := by
  unfold unit? at found
  split at found
  next a b c d next more =>
    simp only [Option.bind_eq_bind, Option.bind_eq_some_iff, Option.some.injEq,
      Prod.mk.injEq] at found
    obtain ⟨_, _, _, _, _, _, _, _, _, rfl⟩ := found
    exact ⟨[a, b, c, d], rfl⟩
  next => contradiction

/-- The low unit of a pair is read from the text, and a fault in it is never a numeral. -/
private theorem lowUnit?_cases (text : List Char) :
    (∃ fault left, lowUnit? text = .error (.misread fault left)) ∨ lowUnit? text = .ok none ∨
      ∃ low rest, lowUnit? text = .ok (some (low, rest)) ∧ rest <:+ text := by
  unfold lowUnit?
  split
  next after =>
    split
    · exact .inr (.inl rfl)
    · split
      next low rest found =>
        split
        · refine .inr (.inr ⟨low, rest, rfl, ?_⟩)
          exact (unit?_suffix found).trans ⟨['\\', 'u'], rfl⟩
        · exact .inr (.inl rfl)
      next => exact .inl ⟨_, _, rfl⟩
  next => exact .inr (.inl rfl)

private theorem within_numberedEscape (isEnd : text <:+ whole) :
    Within whole (numberedEscape text) := by
  unfold numberedEscape
  split
  next => exact within_misread _ _
  next unit rest found =>
    have after : rest <:+ whole := (unit?_suffix found).trans isEnd
    split
    · rcases lowUnit?_cases rest with ⟨_, _, isLow⟩ | isLow | ⟨low, more, isLow, isRest⟩
      · rw [isLow]
        exact within_misread _ _
      · rw [isLow]
        exact within_ok _ after
      · rw [isLow]
        exact within_ok _ (isRest.trans after)
    · exact within_ok _ after

private theorem within_escape (opening : List Char) (isEnd : text <:+ whole) :
    Within whole (escape opening text) := by
  unfold escape
  split
  next => exact within_misread _ _
  next rest => exact within_numberedEscape ((List.suffix_cons _ _).trans isEnd)
  next letter rest _ =>
    split
    · exact within_ok _ ((List.suffix_cons _ _).trans isEnd)
    · exact within_misread _ _

private theorem within_stringBody (opening : List Char) (count : Nat) (isEnd : text <:+ whole) :
    Within whole (stringBody opening count text) := by
  induction count generalizing text with
  | zero => cases text <;> exact within_misread _ _
  | succ count ih =>
    cases text with
    | nil => exact within_misread _ _
    | cons c rest =>
      have after : rest <:+ whole := (List.suffix_cons c rest).trans isEnd
      unfold stringBody
      split
      · exact within_ok _ after
      · split
        · apply (within_escape opening after).bind
          intro _ _ left
          exact (ih left).handOn _
        · split
          · exact within_misread _ _
          · exact (ih after).handOn _

private theorem fraction_suffix (text : List Char) : (fraction text).2 <:+ text := by
  unfold fraction
  split
  next rest =>
    split
    · exact List.suffix_refl _
    · exact (List.dropWhile_suffix _).trans (List.suffix_cons _ _)
  next => exact List.suffix_refl _

private theorem takeSign_suffix (text : List Char) : (Text.takeSign text).2 <:+ text := by
  unfold Text.takeSign
  split
  · exact List.suffix_cons _ _
  · exact List.suffix_cons _ _
  · exact List.suffix_refl _

private theorem exponent?_suffix {exponent : Int} {rest : List Char}
    (found : exponent? text = some (exponent, rest)) : rest <:+ text := by
  unfold exponent? at found
  split at found
  next letter more =>
    have unsigned := takeSign_suffix more
    split at found
    · rcases signed : Text.takeSign more with ⟨negative, digits⟩
      rw [signed] at unsigned found
      dsimp only at unsigned found
      split at found
      next => contradiction
      next =>
        obtain ⟨_, rfl⟩ := Prod.mk.inj (Option.some.inj found)
        exact ((List.dropWhile_suffix _).trans unsigned).trans (List.suffix_cons _ _)
    · contradiction
  next => contradiction

/-- The digits before a point stand at the head of the text. -/
private theorem wholeDigits_append (text : List Char) :
    (wholeDigits text).1 ++ (wholeDigits text).2 = text ∧
      ∀ c ∈ (wholeDigits text).1, c.isDigit = true := by
  unfold wholeDigits
  split
  next rest => exact ⟨rfl, List.forall_mem_singleton.mpr rfl⟩
  next => exact ⟨List.takeWhile_append_dropWhile, List.all_eq_true.mp List.all_takeWhile⟩

private theorem within_unsignedNumber (negative : Bool) {digits : List Char}
    (isEnd : text <:+ whole) (run : HasRun whole digits.length) :
    Within whole (unsignedNumber negative digits text) := by
  have after : (fraction text).2 <:+ whole := (fraction_suffix text).trans isEnd
  unfold unsignedNumber
  rcases parted : fraction text with ⟨decimals, rest⟩
  rw [parted] at after
  dsimp only at after ⊢
  cases found : exponent? rest with
  | some exponent =>
    have left : exponent.2 <:+ whole := (exponent?_suffix found).trans after
    cases decimals <;> exact left
  | none =>
    cases decimals with
    | cons => exact after
    | nil =>
      dsimp only
      split
      next tooLong => exact ⟨run, tooLong⟩
      next => exact after

private theorem within_number (isEnd : text <:+ whole) : Within whole (number text) := by
  unfold number
  split
  next negative unsigned sign =>
    have isRest : unsigned <:+ whole := by
      split at sign
      · obtain ⟨rfl, rfl⟩ := Prod.mk.inj sign
        exact (List.suffix_cons _ _).trans isEnd
      · obtain ⟨rfl, rfl⟩ := Prod.mk.inj sign
        exact isEnd
    obtain ⟨joined, areDigits⟩ := wholeDigits_append unsigned
    split
    next => exact within_misread _ _
    next digits more _ isWhole =>
      rw [isWhole] at joined areDigits
      change digits ++ more = unsigned at joined
      apply within_unsignedNumber
      · exact (joined ▸ List.suffix_append digits more : more <:+ unsigned).trans isRest
      · have atHead : digits <:+: unsigned := joined ▸ (List.prefix_append digits more).isInfix
        exact ⟨digits, atHead.trans isRest.isInfix, rfl, areDigits⟩

private theorem word?_suffix {json : Json} {rest : List Char}
    (found : word? text = some (json, rest)) :
    rest <:+ text := by
  obtain ⟨⟨word, value⟩, _, isWord⟩ := List.exists_of_findSome?_eq_some found
  obtain ⟨left, isLeft, pair⟩ := Option.map_eq_some_iff.mp isWord
  obtain ⟨_, rfl⟩ := Prod.mk.inj pair
  exact ⟨word, (List.isPrefixOf?_eq_some_iff_append_eq.mp isLeft)⟩

private theorem within_atom (isEnd : text <:+ whole) : Within whole (atom text) := by
  unfold atom
  split
  next found isWord => exact (word?_suffix isWord).trans isEnd
  next => exact within_number isEnd

section Elements

variable {element : List Char → Except Stop (Json × List Char)}

private theorem within_items (each : ∀ text, text <:+ whole → Within whole (element text))
    (count : Nat) (isEnd : text <:+ whole) : Within whole (items element count text) := by
  induction count generalizing text with
  | zero => exact within_misread _ _
  | succ count ih =>
    apply (each text isEnd).bind
    intro item rest left
    dsimp only
    split
    next closed => exact within_ok _ (suffix_of_skipBlanks closed left)
    next more separated =>
      exact (ih ((skipBlanks_suffix more).trans (suffix_of_skipBlanks separated left))).handOn _
    next => exact within_misread _ _

private theorem within_members (each : ∀ text, text <:+ whole → Within whole (element text))
    (count : Nat) (isEnd : text <:+ whole) : Within whole (members element count text) := by
  induction count generalizing text with
  | zero => exact within_misread _ _
  | succ count ih =>
    unfold members
    split
    next quoted isCount =>
      obtain rfl := Nat.succ.inj isCount
      apply (within_stringBody _ count ((List.suffix_cons _ _).trans isEnd)).bind
      intro name rest left
      dsimp only
      split
      next value separated =>
        apply (each _ ((skipBlanks_suffix value).trans (suffix_of_skipBlanks separated left))).bind
        intro value rest left
        dsimp only
        split
        next closed => exact within_ok _ (suffix_of_skipBlanks closed left)
        next more separated =>
          exact (ih ((skipBlanks_suffix more).trans (suffix_of_skipBlanks separated left))).handOn _
        next => exact within_misread _ _
      next => exact within_misread _ _
    next => exact within_misread _ _

end Elements

private theorem within_value (count : Nat) (isEnd : text <:+ whole) :
    Within whole (value count text) := by
  induction count generalizing text with
  | zero => exact within_misread _ _
  | succ count ih =>
    have inside {rest : List Char} (isRest : rest <:+ whole) : skipBlanks rest <:+ whole :=
      (skipBlanks_suffix rest).trans isRest
    unfold value
    split
    next => contradiction
    next rest isCount =>
      exact (within_stringBody _ _ ((List.suffix_cons _ _).trans isEnd)).handOn
        fun characters => Json.str (String.ofList characters)
    next rest isCount =>
      obtain rfl := Nat.succ.inj isCount
      have after : rest <:+ whole := (List.suffix_cons _ _).trans isEnd
      split
      next closed => exact within_ok _ (suffix_of_skipBlanks closed after)
      next =>
        exact (within_items (fun _ => ih) _ (inside after)).handOn _
    next rest isCount =>
      obtain rfl := Nat.succ.inj isCount
      have after : rest <:+ whole := (List.suffix_cons _ _).trans isEnd
      split
      next closed => exact within_ok _ (suffix_of_skipBlanks closed after)
      next =>
        exact (within_members (fun _ => ih) _ (inside after)).handOn
          fun found => Json.obj (Keyed.putAll [] found)
    next => exact within_atom isEnd

/-- A text is refused for a numeral only if so many digits stand in it. -/
theorem hasRun_of_document_eq_tooLong {digits : Nat}
    (refused : document text = .error (.tooLong digits)) :
    HasRun text digits ∧ Text.digitLimit < digits := by
  unfold document at refused
  split at refused
  next => cases refused
  next =>
    have within := within_value text.length (skipBlanks_suffix text)
    cases read : value text.length (skipBlanks text) with
    | ok found =>
      rw [read] at refused
      dsimp only [bind, Except.bind] at refused
      split at refused <;> cases refused
    | error stop =>
      rw [read] at within refused
      obtain rfl := Except.error.inj refused
      exact within

/-- A text of digits that begins with no zero is refused if there are too many of them. -/
theorem document_digits {first : Char} {digits : List Char}
    (areDigits : ∀ c ∈ first :: digits, c.isDigit = true) (nonzero : first ≠ '0')
    (tooLong : Text.digitLimit < (first :: digits).length) :
    document (first :: digits) = .error (.tooLong (first :: digits).length) := by
  have isDigit : first.isDigit = true := areDigits first List.mem_cons_self
  have plain (other : Char) (notDigit : other.isDigit = false) : first ≠ other := by
    rintro rfl
    exact absurd isDigit (Bool.eq_false_iff.mp notDigit)
  obtain ⟨taken, dropped⟩ := takeWhile_isDigit_append areDigits endsNumber_nil
  rw [List.append_nil] at taken dropped
  have whole : wholeDigits (first :: digits) = (first :: digits, []) := by
    rw [wholeDigits.eq_2 _ (by simp [nonzero]), taken, dropped]
  have isNumber : number (first :: digits) = .error (.tooLong (first :: digits).length) := by
    rw [number_unsigned (plain '-' rfl) whole (List.cons_ne_nil _ _)]
    simp only [unsignedNumber, fraction_of_endsNumber endsNumber_nil,
      exponent?_of_endsNumber endsNumber_nil, if_pos tooLong]
  have isValue : value (digits.length + 1) (first :: digits) =
      .error (.tooLong (first :: digits).length) := by
    rw [value_atom _ _ ⟨plain '"' rfl, plain '[' rfl, plain '{' rfl⟩, atom,
      (word?_of_isDigit isDigit digits).1]
    exact isNumber
  rw [document.eq_2 _ (by simp [plain '\ufeff' rfl]), (opens_of_isDigit isDigit digits).skipBlanks,
    List.length_cons, isValue]
  rfl

end Reader

theorem parse_digits {first : Char} {digits : List Char}
    (areDigits : ∀ c ∈ first :: digits, c.isDigit = true) (nonzero : first ≠ '0')
    (tooLong : Text.digitLimit < (first :: digits).length) :
    parse (String.ofList (first :: digits)) = .error (.tooLong (first :: digits).length) := by
  rw [parse, String.toList_ofList, Reader.document_digits areDigits nonzero tooLong]
  rfl

theorem hasRun_of_parse_eq_tooLong {text : String} {digits : Nat}
    (refused : parse text = .error (.tooLong digits)) :
    HasRun text.toList digits ∧ Text.digitLimit < digits := by
  unfold parse at refused
  split at refused
  next => contradiction
  next stop isStop =>
    cases stop with
    | misread => cases refused
    | tooLong count =>
      obtain rfl := SyntaxError.tooLong.inj (Except.error.inj refused)
      exact Reader.hasRun_of_document_eq_tooLong isStop

end TileBrain.Json
