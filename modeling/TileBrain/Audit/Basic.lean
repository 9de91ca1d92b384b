import TileBrain.Audit.Finding
import TileBrain.Brain

/-! # The audit

The issues of a rule or of a whole brain, in the order of pages and rules, and what the audit
reports while it replays the suggestions. Issues are defined for all brains; the audit ends without
any where the weights of candidates or the categories of tiles do not serve.

The audit never changes what it looks at. Its notices are those of the suggestion engine, which is
asked again for every tile in question.
-/

namespace TileBrain

namespace Rule

/-- The issues of a rule. Its page and its place there only label them. -/
def issues (rule : Rule) (catalog : Catalog) (page index : Int) : List (Issue Json) :=
  (rule.findings catalog).map (·.toIssue page index)

/-- Replays the suggestions for one tile of a chain: nothing behind a terminal tile or for a hidden
one. -/
def replayPlacement (rule : Rule) (catalog : Catalog) (page index : Int) (chain : Chain)
    (tile : Tile) (position : Nat) : Reported Misfit Unit :=
  if (rule.terminalBefore? chain position).isSome || tile.hidden then pure ()
  else do
    let _ ← catalog.suggestAt rule chain position
    match rule.placementFinding? catalog chain tile position with
    | some _ => .note [.notSuggestable chain tile.id page index position]
    | none => pure ()

/-- Whether the tiles of a chain can be counted by category. -/
def isCountable (rule : Rule) (chain : Chain) : Bool :=
  (rule.chain chain).all (·.category.isAtom)

/-- Replays the suggestions for a chain, and sees to it that its tiles can be counted. -/
def replayChain (rule : Rule) (catalog : Catalog) (page index : Int) (chain : Chain) :
    Reported Misfit Unit :=
  if (rule.anchor? chain).isNone then pure ()
  else do
    (rule.chain chain).zipIdx.forM fun (tile, position) =>
      rule.replayPlacement catalog page index chain tile position
    if rule.isCountable chain then pure () else .fail .category

/-- What is reported while a rule is audited. -/
def replay (rule : Rule) (catalog : Catalog) (page index : Int) : Reported Misfit Unit := do
  rule.replayChain catalog page index .filters
  rule.replayChain catalog page index .modifiers

/-- The issues of a rule, with what is reported on the way. -/
def audit (rule : Rule) (catalog : Catalog) (page index : Int) :
    Reported Misfit (List (Issue Json)) := do
  rule.replay catalog page index
  pure (rule.issues catalog page index)

end Rule

namespace Brain

/-- The rules of a brain, each with its page and its place there. -/
def labelledRules (brain : Brain) : List (Rule × Nat × Nat) :=
  brain.pages.toList.zipIdx.flatMap fun (page, pageIndex) =>
    page.rules.zipIdx.map fun (rule, index) => (rule, pageIndex, index)

/-- The findings in all rules, each with the page and the place of its rule. -/
def findings (brain : Brain) (catalog : Catalog) : List (Finding × Nat × Nat) :=
  brain.labelledRules.flatMap fun (rule, page, index) =>
    (rule.findings catalog).map fun finding => (finding, page, index)

/-- The issues of all rules. -/
def issues (brain : Brain) (catalog : Catalog) : List (Issue Json) :=
  (brain.findings catalog).map fun (finding, page, index) => finding.toIssue page index

/-- The issues of all rules, with what is reported on the way. -/
def audit (brain : Brain) (catalog : Catalog) : Reported Misfit (List (Issue Json)) := do
  brain.labelledRules.forM fun (rule, page, index) => rule.replay catalog page index
  let issues := brain.issues catalog
  .note (if issues.isEmpty then [] else [.issuesFound issues.length])
  pure issues

end Brain

end TileBrain
