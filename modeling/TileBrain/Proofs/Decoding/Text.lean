import TileBrain.Proofs.Decoding.BestEffort
import TileBrain.Proofs.Json.Overlong

/-! # Decoding text

A brain's text can be given as a string in a value's place, or as text. The two ways differ in one
case alone: a text that spells a string is read once more if it was given as text. Whatever is wrong
with a text is reported as a malformed record, unless a numeral in it is too long.
-/

namespace TileBrain

namespace DecodeOptions

variable (options : DecodeOptions)

/-- Decodes a value as it is, even a string. -/
def decodeValue (json : Json) : Reported DecodeError Brain := do
  let record ← (BrainRecord.read options.mode json).mapError .record
  (record.resolveUnder options.catalog options.policy).mapError .unresolved

private theorem decodeBrain_eq (data : Json) :
    options.decodeBrain data = readSource data >>= options.decodeValue := rfl

theorem decodeBrain_eq_decodeValue {json : Json} (noText : json.isString = false) :
    options.decodeBrain json = options.decodeValue json := by
  cases json with
  | str text => exact nomatch noText
  | _ => rfl

/-- Strict reading refuses a string in a brain's place. Lenient reading takes it for a brain without
any rules. -/
def ofString : Except DecodeError Brain :=
  match options.mode with
  | .strict => .error (.record (.notMapping .brain "str"))
  | .lenient => .ok .empty

private theorem outcome_decodeValue_str (text : String) :
    (options.decodeValue (.str text)).outcome = options.ofString := by
  obtain ⟨catalog, mode, policy⟩ := options
  cases mode <;> rfl

section Ways

variable {options} {text : String}

private theorem readText_of_ok {json : Json} (spelled : Json.parse text = .ok json) :
    readText text = pure json := by
  rw [readText, spelled]
  rfl

private theorem readText_of_error {error : Json.SyntaxError}
    (refused : Json.parse text = .error error) :
    readText text = .fail (.text error) := by
  rw [readText, refused]
  rfl

/-- A text in a value's place is read once. -/
theorem decodeBrain_str_of_ok {json : Json} (spelled : Json.parse text = .ok json) :
    options.decodeBrain (.str text) = options.decodeValue json := by
  rw [decodeBrain_eq, readSource, readText_of_ok spelled, pure_bind]

/-- A text on its own is read, and the value that it spells is decoded as a value. -/
theorem decodeText_of_ok {json : Json} (spelled : Json.parse text = .ok json) :
    options.decodeText text = options.decodeBrain json := by
  rw [decodeText, readText_of_ok spelled, pure_bind]

private theorem decodeBrain_str_of_error {error : Json.SyntaxError}
    (refused : Json.parse text = .error error) :
    options.decodeBrain (.str text) = .fail (.text error) := by
  rw [decodeBrain_eq, readSource, readText_of_error refused]
  rfl

private theorem decodeText_of_error {error : Json.SyntaxError}
    (refused : Json.parse text = .error error) :
    options.decodeText text = .fail (.text error) := by
  rw [decodeText, readText_of_error refused]
  rfl

/-- A text that spells no string is decoded to the same, with the same notices, in either way. -/
theorem decodeText_eq_decodeBrain (noString : ∀ inner, Json.parse text ≠ .ok (.str inner)) :
    options.decodeText text = options.decodeBrain (.str text) := by
  cases read : Json.parse text with
  | error error => rw [decodeText_of_error read, decodeBrain_str_of_error read]
  | ok json =>
    have noText : json.isString = false := by
      cases json with
      | str inner => exact absurd read (noString inner)
      | _ => rfl
    rw [decodeText_of_ok read, decodeBrain_str_of_ok read,
      decodeBrain_eq_decodeValue options noText]

end Ways

/-- The two ways of decoding a text have the same outcome if and only if the text spells no string,
or one whose own text is decoded to what a string in a brain's place comes to. -/
theorem outcome_decodeText_eq_iff (text : String) :
    (options.decodeText text).outcome = (options.decodeBrain (.str text)).outcome ↔
      ∀ inner, Json.parse text = .ok (.str inner) →
        (options.decodeBrain (.str inner)).outcome = options.ofString := by
  constructor
  · intro agree inner spelled
    rw [decodeText_of_ok spelled, decodeBrain_str_of_ok spelled, outcome_decodeValue_str] at agree
    exact agree
  · intro agree
    by_cases noString : ∀ inner, Json.parse text ≠ .ok (.str inner)
    · rw [decodeText_eq_decodeBrain noString]
    · obtain ⟨inner, spelled⟩ := not_forall_not.mp noString
      rw [decodeText_of_ok spelled, decodeBrain_str_of_ok spelled, outcome_decodeValue_str]
      exact agree inner spelled

/-- A text that spells the text of a brain without rules. -/
def quotedText : String :=
  "\"\x7b\\\"P\\\":[\x7b\x7d,\x7b\x7d,\x7b\x7d,\x7b\x7d,\x7b\x7d]\x7d\""

/-- The brain comes of it in one of the two ways, and the other one refuses it. -/
theorem outcome_decodeText_ne_quoted :
    (decodeText ⟨Builtin.catalog, .strict, .raise⟩ quotedText).outcome = .ok .empty ∧
      (decodeBrain ⟨Builtin.catalog, .strict, .raise⟩ (.str quotedText)).outcome =
        .error (.record (.notMapping .brain "str")) := by
  decide +kernel

end DecodeOptions

/-- The errors that a malformed record is reported with. A numeral that is too long is not among
them. -/
inductive DecodeError.IsMalformed : DecodeError → Prop
  | text (fault : Json.Fault) (line column offset : Nat) :
    IsMalformed (.text (.misread fault line column offset))
  | record (fault : RecordFault) : IsMalformed (.record fault)

namespace DecodeOptions

variable {options : DecodeOptions} {error : DecodeError}

/-- A value is refused for its form. Identifiers that are missing are an error under one policy
alone. -/
theorem error_of_decodeValue {json : Json}
    (failed : (options.decodeValue json).outcome = .error error) :
    error.IsMalformed ∨ options.policy = .raise ∧ ∃ missing, error = .unresolved missing := by
  rcases Reported.outcome_bind_eq_error failed with unread | ⟨record, _, unresolved⟩
  · obtain ⟨fault, _, rfl⟩ := Reported.exists_of_outcome_mapError_eq_error unread
    exact .inl (.record fault)
  · obtain ⟨missing, halted, rfl⟩ := Reported.exists_of_outcome_mapError_eq_error unresolved
    refine .inr ⟨?_, missing, rfl⟩
    by_contra drops
    obtain ⟨brain, resolved, _⟩ := record.exists_resolveUnder options.catalog drops
    rw [resolved] at halted
    exact nomatch halted

/-- A text is refused as a malformed record, or for a missing identifier under the policy that
raises, or because more digits than can be read stand in a row in it. -/
theorem error_of_decodeBrain_str {text : String}
    (failed : (options.decodeBrain (.str text)).outcome = .error error) :
    error.IsMalformed ∨ (options.policy = .raise ∧ ∃ missing, error = .unresolved missing) ∨
      ∃ digits, error = .text (.tooLong digits) ∧ Text.digitLimit < digits ∧
        Json.HasRun text.toList digits := by
  cases read : Json.parse text with
  | ok json =>
    rw [decodeBrain_str_of_ok read] at failed
    rcases error_of_decodeValue failed with malformed | unresolved
    · exact .inl malformed
    · exact .inr (.inl unresolved)
  | error refused =>
    rw [decodeBrain_str_of_error read] at failed
    obtain rfl := Except.error.inj failed
    cases refused with
    | misread fault line column offset => exact .inl (.text fault line column offset)
    | tooLong digits =>
      obtain ⟨run, tooLong⟩ := Json.hasRun_of_parse_eq_tooLong read
      exact .inr (.inr ⟨digits, rfl, tooLong, run⟩)

/-- An open list is refused where it ends. -/
theorem error_of_decodeBrain_str_open :
    (decodeBrain ⟨Builtin.catalog, .lenient, .dropTile⟩ (.str "[1, 2")).outcome =
        .error (.text (.misread .expectingComma 1 6 5)) ∧
      (DecodeError.IsMalformed (.text (.misread .expectingComma 1 6 5)) ∨
        (Policy.dropTile = .raise ∧
          ∃ missing, DecodeError.text (.misread .expectingComma 1 6 5) = .unresolved missing) ∨
        ∃ digits, DecodeError.text (.misread .expectingComma 1 6 5) = .text (.tooLong digits) ∧
          Text.digitLimit < digits ∧ Json.HasRun "[1, 2".toList digits) := by
  have refused : (decodeBrain ⟨Builtin.catalog, .lenient, .dropTile⟩ (.str "[1, 2")).outcome =
      .error (.text (.misread .expectingComma 1 6 5)) := by decide +kernel
  exact ⟨refused, error_of_decodeBrain_str refused⟩

/-- One digit more than can be read is no malformed record, and nothing is missing in it. -/
theorem not_isMalformed_ones :
    (decodeBrain ⟨Builtin.catalog, .strict, .raise⟩
        (.str (String.ofList (List.replicate 4301 '1')))).outcome =
        .error (.text (.tooLong 4301)) ∧
      ¬ DecodeError.IsMalformed (.text (.tooLong 4301)) ∧
      ∀ missing, DecodeError.text (.tooLong 4301) ≠ .unresolved missing := by
  have areDigits : ∀ c ∈ List.replicate 4301 '1', c.isDigit = true := by
    intro c member
    rw [List.eq_of_mem_replicate member]
    rfl
  have refused : Json.parse (String.ofList (List.replicate 4301 '1')) = .error (.tooLong 4301) := by
    rw [List.replicate_succ] at areDigits ⊢
    have tooLong : Text.digitLimit < ('1' :: List.replicate 4300 '1').length := by
      rw [List.length_cons, List.length_replicate]
      decide
    rw [Json.parse_digits areDigits (by decide) tooLong, List.length_cons, List.length_replicate]
  rw [decodeBrain_str_of_error refused]
  exact ⟨rfl, nofun, nofun⟩

end DecodeOptions

end TileBrain
