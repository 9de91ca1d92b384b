import TileBrain.Audit.Issue
import TileBrain.Proofs.Json.RoundTrip

/-! # Stored issues

An issue comes back from the JSON text that is written for it, whatever its texts hold and however
the text is laid out, as long as its numbers are not too long to be read.
`Issue.ofJson_parse_render` says so. Reading an issue turns any value into the text or the number
that it stands for; of what was written for an issue, nothing is turned into something else.
-/

namespace TileBrain.Issue

theorem regular_layout (indent : Option Int) : (layout indent).Regular := by
  cases indent with
  | none => exact Json.Layout.regular_spaced
  | some spaces => exact Json.Layout.regular_lines spaces

/-- Texts stand for themselves, and whole numbers too. -/
theorem ofJson_toJson (issue : Issue String) : ofJson (issue.toJson .str) = .ok issue := by
  obtain ⟨page, rule, category, message, severity, id⟩ := issue
  cases id with
  | none => rfl
  | some id => rfl

variable {issue : Issue String}

/-- Only numbers can be too long. -/
theorem restorable_toJson (page : Json.digitCount issue.page ≤ Text.digitLimit)
    (rule : Json.digitCount issue.rule ≤ Text.digitLimit) : (issue.toJson .str).Restorable := by
  obtain ⟨_, _, _, _, _, id⟩ := issue
  apply Json.Restorable.obj
  · change ["page", "rule", "category", "message", "severity", "tid"].Nodup
    decide
  · simp only [List.forall_mem_cons]
    refine ⟨.int page, .int rule, .str _, .str _, .str _, ?_, nofun⟩
    cases id with
    | none => exact .null
    | some id => exact .str id

/-- An issue with numbers that can be read is read from its text as it was. -/
theorem ofJson_parse_render (page : Json.digitCount issue.page ≤ Text.digitLimit)
    (rule : Json.digitCount issue.rule ≤ Text.digitLimit) (indent : Option Int) :
    (Json.parse (issue.render .str indent)).map ofJson = .ok (.ok issue) := by
  have parsed : Json.parse (issue.render .str indent) = .ok (issue.toJson .str) :=
    Json.parse_render (regular_layout indent) (restorable_toJson page rule)
  rw [parsed, Except.map, ofJson_toJson]

/-- An issue about a tile with a name that needs escapes, in a place that no brain has. -/
def escaped : Issue String where
  page := -1
  rule := 123456789012345678901234567890
  category := "hidden"
  message := "hidden tile '\"\\\n\x7fé😀' is placed in the rule"
  severity := ""
  id := some "\t\u0000/"

/-- It comes back from a text on one line, and from one whose lines are indented. -/
theorem ofJson_parse_render_escaped :
    Json.digitCount escaped.page ≤ Text.digitLimit ∧
      Json.digitCount escaped.rule ≤ Text.digitLimit ∧
      (Json.parse (escaped.render .str none)).map ofJson = .ok (.ok escaped) ∧
      (Json.parse (escaped.render .str (some 3))).map ofJson = .ok (.ok escaped) := by
  have page : Json.digitCount escaped.page ≤ Text.digitLimit := by decide +kernel
  have rule : Json.digitCount escaped.rule ≤ Text.digitLimit := by decide +kernel
  exact ⟨page, rule, ofJson_parse_render page rule none, ofJson_parse_render page rule (some 3)⟩

end TileBrain.Issue
