import TileBrain.Audit.Basic
import TileBrain.Authoring
import TileBrain.Catalog.Builtin
import TileBrain.Storage.Brain

/-! # The demonstration

A small brain is authored by name, audited after an illegal edit, stored and read back. All lines of
the transcript but the one about the file are computed here.

The transcript is a function of what was read back from the file, so that the lines about it can be
computed before there is one.
-/

namespace TileBrain.Demo

def ruler : String := String.ofList (List.replicate 70 '=')

/-- A title between rulers, behind an empty line. -/
def banner (title : String) : List String := ["", ruler, title, ruler]

/-- The rules of the first two pages, by the names of their tiles. -/
def script : List (List (List String × List String)) :=
  [[(["See", "Apple"], ["Move", "toward", "quickly"]),
    (["Bump", "Apple"], ["Switch page", "page 2"]),
    ([], [])],
   [(["Timer", "long"], ["Switch page", "page 1"]),
    (["See", "Kodu", "happy"], ["Express", "heart"])]]

def catalog : Catalog := Builtin.catalog

def authored : Except ChoiceError Brain := do
  let pages ← script.mapM fun rules => do
    let rules ← rules.mapM fun (whenNames, doNames) =>
      (Rule.author catalog (whenNames.map .str) (doNames.map .str)).outcome
    return Page.mk rules
  return (Brain.mk (Pages.fit .empty pages)).trim

/-- The rule at a place, or an empty one. -/
def ruleAt (brain : Brain) (page index : Nat) : Rule :=
  ((brain.pages.toList[page]?).bind (·.rules[index]?)).getD .empty

def ruleLines (brain : Brain) : List String :=
  brain.labelledRules.map fun (rule, page, index) =>
    "  page " ++ toString (page + 1) ++ " rule " ++ toString (index + 1) ++ ": " ++ rule.display

/-- Nothing is offered behind the choice of a page. -/
def terminalLine (brain : Brain) : String :=
  let rule := ruleAt brain 0 1
  "  Suggestions after 'page 2': " ++
    toString (catalog.offered rule .modifiers rule.modifiers.length).length ++ " (terminal tile)"

/-- The rule that is edited by hand: a second subject is put behind the first. -/
def edited (brain : Brain) : Rule :=
  let rule := ruleAt brain 1 1
  match catalog.get? .filter (.str FilterId.tree) with
  | some tile => rule.append .filters tile
  | none => rule

/-- The brain with the rule that was edited by hand. -/
def editedBrain (brain : Brain) : Brain :=
  match brain.pages.toList[1]? with
  | some page => ⟨brain.pages.set 1 ⟨page.rules.set 1 (edited brain)⟩⟩
  | none => brain

def issueLine (issue : Issue Json) : String :=
  "  [" ++ issue.severity.toUpper ++ "] page " ++ toString (issue.page + 1) ++ " rule " ++
    toString (issue.rule + 1) ++ " (" ++ issue.category ++ "): " ++ issue.message

def heading : List String :=
  [ruler, "  KODU BRAIN -- Authoring Demo", "  Catalog: " ++ catalog.summary, ruler]

/-- What is shown before the brain is stored, and the number of issues found. -/
def linesBefore (brain : Brain) : List String × Nat :=
  let issues := (editedBrain brain).issues catalog
  (banner "PHASE 1: AUTHOR" ++ ruleLines brain ++ [terminalLine brain] ++
    banner "PHASE 2: AUDIT" ++
    ["  Hand-edited: " ++ (edited brain).display,
     "  Original brain issues: " ++ toString (brain.issues catalog).length] ++
    issues.map issueLine ++
    banner "PHASE 3: PERSIST" ++
    ["  Encoded: " ++ brain.render none], issues.length)

/-- What is shown after it was read back, and the exit code. -/
def linesAfter (issueCount : Nat) (restored : Bool) : List String × Nat :=
  let lines := ["  Round trip: " ++ (if restored then "PASS" else "FAIL")] ++
    banner "  Demo complete."
  if issueCount = 0 then (lines ++ ["  EXIT: Audit missed the hand-edited rule."], 1)
  else if !restored then (lines ++ ["  EXIT: Round trip failed."], 1)
  else (lines, 0)

/-- What is shown when a tile was not on offer. -/
def failure (fault : ChoiceError) : List String :=
  banner "PHASE 1: AUTHOR" ++ ["  ERROR: " ++ fault.message]

/-- Whether a brain that was read back is the one that was stored. -/
def isRestored (brain : Brain) (restored : Reported StorageError Brain) : Bool :=
  match restored.outcome with
  | .ok found => found = brain
  | .error _ => false

/-- How the demonstration decodes. -/
def options : DecodeOptions := ⟨catalog, .strict, .raise⟩

/-- The file that the brain is stored in. -/
def fileName : String := "brain.json"

/-- The whole transcript with the exit code, the brain being kept in a tree of files. -/
def transcript : List String × Nat :=
  match authored with
  | .error fault => (heading ++ failure fault, 1)
  | .ok brain =>
    let path := RelativePath.ofString fileName
    let (tree, _) := FileTree.empty.saveBrain path brain none
    let (before, issueCount) := linesBefore brain
    let (after, code) := linesAfter issueCount (isRestored brain (tree.loadBrain path options))
    (heading ++ before ++ after, code)

end TileBrain.Demo
