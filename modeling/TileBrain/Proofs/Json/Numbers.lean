import TileBrain.Json.Reader
import TileBrain.Json.Writer

/-! # Whole numbers come back from their digits

A whole number is read as far as its digits go, so what follows must not look like a part of it:
`Reader.EndsNumber` is all that is asked of it. Longer numerals than the limit are refused.

`Reader.number_writeInt` is the result, with its sign and for zero as well. No record holds a
floating-point number, so there is nothing here about the fewest digits that such a number needs.
-/

namespace TileBrain.Json

/-- The number of decimal digits, which does not count the sign. -/
def digitCount (value : Int) : Nat := (Nat.toDigits 10 value.natAbs).length

namespace Reader

/-- The text does not go on with a part of a number. -/
def EndsNumber (text : List Char) : Prop :=
  ∀ c ∈ text.head?, c.isDigit = false ∧ c ≠ '.' ∧ c ≠ 'e' ∧ c ≠ 'E'

theorem endsNumber_nil : EndsNumber [] := nofun

theorem endsNumber_cons {c : Char} (rest : List Char)
    (other : c.isDigit = false ∧ c ≠ '.' ∧ c ≠ 'e' ∧ c ≠ 'E') : EndsNumber (c :: rest) := by
  intro head isHead
  rw [← Option.some.inj isHead]
  exact other

theorem isDigit_of_mem_toDigits {n : Nat} {c : Char} (member : c ∈ Nat.toDigits 10 n) :
    c.isDigit = true :=
  Nat.isDigit_of_mem_toDigits (by decide) (by decide) member

/-- There is a first digit, and only zero begins with a zero. -/
theorem exists_toDigits_eq_cons (n : Nat) :
    ∃ c rest, Nat.toDigits 10 n = c :: rest ∧ c.isDigit = true ∧ (0 < n → c ≠ '0') := by
  induction n using Nat.strongRecOn with
  | _ n ih =>
    by_cases small : n < 10
    · have leading : ∀ digit < 10, (Nat.digitChar digit).isDigit = true ∧
          (0 < digit → Nat.digitChar digit ≠ '0') := by decide
      exact ⟨_, [], Nat.toDigits_of_lt_base small, leading n small⟩
    · obtain ⟨c, rest, isCons, isDigit, nonzero⟩ := ih (n / 10) (by omega)
      refine ⟨c, rest ++ [Nat.digitChar (n % 10)], ?_, isDigit, fun _ => nonzero (by omega)⟩
      rw [Nat.toDigits_of_base_le (by decide) (by omega), isCons, List.cons_append]

theorem takeWhile_isDigit_append {digits text : List Char}
    (areDigits : ∀ c ∈ digits, c.isDigit = true) (ends : EndsNumber text) :
    (digits ++ text).takeWhile Char.isDigit = digits ∧
      (digits ++ text).dropWhile Char.isDigit = text := by
  rw [List.takeWhile_append_of_pos areDigits, List.dropWhile_append_of_pos areDigits]
  cases text with
  | nil => simp
  | cons c rest =>
    have other := (ends c rfl).1
    simp [other]

/-- The digits before a point are all digits, since a leading zero is the only one. -/
theorem wholeDigits_toDigits (n : Nat) {text : List Char} (ends : EndsNumber text) :
    wholeDigits (Nat.toDigits 10 n ++ text) = (Nat.toDigits 10 n, text) := by
  obtain ⟨taken, dropped⟩ := takeWhile_isDigit_append (fun c => isDigit_of_mem_toDigits) ends
  rcases Nat.eq_zero_or_pos n with rfl | positive
  · rfl
  · obtain ⟨c, rest, isCons, _, nonzero⟩ := exists_toDigits_eq_cons n
    rw [isCons, List.cons_append] at taken dropped ⊢
    rw [wholeDigits.eq_2 _ (by simp [nonzero positive]), taken, dropped]

theorem fraction_of_endsNumber {text : List Char} (ends : EndsNumber text) :
    fraction text = ([], text) := by
  cases text with
  | nil => rfl
  | cons c rest =>
    have noPoint := (ends c rfl).2.1
    exact fraction.eq_2 _ (by simp [noPoint])

theorem exponent?_of_endsNumber {text : List Char} (ends : EndsNumber text) :
    exponent? text = none := by
  cases text with
  | nil => rfl
  | cons c rest =>
    have noLetter := (ends c rfl).2.2
    rw [exponent?, if_neg (not_or.mpr noLetter)]

private theorem unsignedNumber_toDigits (negative : Bool) {n : Nat} {text : List Char}
    (short : (Nat.toDigits 10 n).length ≤ Text.digitLimit) (ends : EndsNumber text) :
    unsignedNumber negative (Nat.toDigits 10 n) text =
      .ok (.int (if negative then -n else n), text) := by
  have notLong : ¬ Text.digitLimit < (Nat.toDigits 10 n).length := Nat.not_lt.mpr short
  simp only [unsignedNumber, fraction_of_endsNumber ends, exponent?_of_endsNumber ends, notLong,
    if_false, Nat.ofDigitChars_ten_toDigits]

private theorem number_minus {digits rest text : List Char}
    (whole : wholeDigits rest = (digits, text)) (found : digits ≠ []) :
    number ('-' :: rest) = unsignedNumber true digits text := by
  obtain ⟨c, digits, rfl⟩ := List.exists_cons_of_ne_nil found
  simp only [number, whole]

theorem number_unsigned {c : Char} {digits rest text : List Char} (unsigned : c ≠ '-')
    (whole : wholeDigits (c :: rest) = (digits, text)) (found : digits ≠ []) :
    number (c :: rest) = unsignedNumber false digits text := by
  obtain ⟨d, digits, rfl⟩ := List.exists_cons_of_ne_nil found
  unfold number
  split
  next sign =>
    split at sign
    next isMinus => exact absurd (List.cons.inj isMinus).1 unsigned
    next =>
      cases sign
      simp only [whole]

/-- The reader takes a whole number for what it is and stops behind it. -/
theorem number_writeInt {value : Int} {text : List Char}
    (short : digitCount value ≤ Text.digitLimit) (ends : EndsNumber text) :
    number (writeInt value ++ text) = .ok (.int value, text) := by
  have whole := wholeDigits_toDigits value.natAbs ends
  have found : Nat.toDigits 10 value.natAbs ≠ [] := Nat.toDigits_ne_nil
  by_cases negative : value < 0
  · have magnitude : -(value.natAbs : Int) = value := by omega
    rw [writeInt, if_pos negative, List.cons_append, number_minus whole found,
      unsignedNumber_toDigits true short ends, if_pos rfl, magnitude]
  · have magnitude : (value.natAbs : Int) = value := by omega
    obtain ⟨c, rest, isCons, isDigit, _⟩ := exists_toDigits_eq_cons value.natAbs
    have unsigned : c ≠ '-' := by
      rintro rfl
      exact absurd isDigit (by decide)
    rw [isCons, List.cons_append, ← isCons] at whole
    rw [writeInt, if_neg negative, isCons, List.cons_append, number_unsigned unsigned whole found,
      unsignedNumber_toDigits false short ends, if_neg Bool.false_ne_true, magnitude]

end Reader

end TileBrain.Json
