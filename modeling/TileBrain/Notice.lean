import TileBrain.Catalog.Basic
import TileBrain.Record.Basic

/-! # Notices

What operations report besides their results. A notice is a cause; its wording, its level and its
topic are functions of it. `Reported` is an outcome together with the notices on the way to it,
which a failure keeps.

Reporting is a monad whose failures keep what was reported before them. Levels are ordered by rank,
and `noticesFrom` leaves out what is below one.
-/

namespace TileBrain

inductive Level where
  | debug
  | info
  | warning
  deriving DecidableEq

namespace Level

def label : Level → String
  | .debug => "DEBUG"
  | .info => "INFO"
  | .warning => "WARNING"

def rank : Level → Nat
  | .debug => 0
  | .info => 1
  | .warning => 2

def ofLabel? (text : String) : Option Level := [debug, info, warning].find? (·.label = text)

end Level

/-- The part of the work that a notice is about. -/
inductive Topic where
  | catalog
  | rules
  | suggest
  | check
  | records
  | codec
  deriving DecidableEq

def Topic.label : Topic → String
  | .catalog => "catalog"
  | .rules => "rules"
  | .suggest => "suggest"
  | .check => "check"
  | .records => "records"
  | .codec => "codec"

inductive Notice where
  | builtCatalog (summary : String)
  /-- A chain was dropped because the tile that it refines is missing. -/
  | cleared (chain : Chain) (count : Nat)
  | chainEnded (chain : Chain) (id : Json)
  | suggested (chain : Chain) (position count : Nat)
  | notSuggestable (chain : Chain) (id : Json) (page rule : Int) (position : Nat)
  | issuesFound (count : Nat)
  | recovered (fault : RecordFault)
  | droppedTile (missing : Unresolved)
  | droppedRule (missing : Unresolved)
  | saved (path : String)
  | loaded (path : String)
  deriving DecidableEq

/-- A chain's tiles at the head of a sentence. -/
def Chain.title : Chain → String
  | .filters => "Filter"
  | .modifiers => "Modifier"

namespace Notice

def level : Notice → Level
  | .recovered _ => .warning
  | .droppedTile _ => .warning
  | .droppedRule _ => .warning
  | .issuesFound _ => .info
  | .saved _ => .info
  | .loaded _ => .info
  | _ => .debug

def topic : Notice → Topic
  | .builtCatalog _ => .catalog
  | .cleared .. => .rules
  | .chainEnded .. => .suggest
  | .suggested .. => .suggest
  | .notSuggestable .. => .check
  | .issuesFound _ => .check
  | .recovered _ => .records
  | .droppedTile _ => .codec
  | .droppedRule _ => .codec
  | .saved _ => .codec
  | .loaded _ => .codec

def text : Notice → String
  | .builtCatalog summary => "Built " ++ summary
  | .cleared .filters count =>
    "Clearing " ++ toString count ++ " filter(s) from sensor-less rule"
  | .cleared .modifiers count =>
    "Clearing " ++ toString count ++ " modifier(s) from actuator-less rule"
  | .chainEnded chain id => chain.title ++ " chain ends at terminal tile " ++ id.display
  | .suggested chain position count =>
    chain.title ++ " suggestions at " ++ toString position ++ ": " ++ toString count ++ " tile(s)"
  | .notSuggestable chain id page rule position =>
    "BrainChecker: " ++ chain.label ++ " " ++ id.display ++ " not suggestable at " ++
      toString page ++ "/" ++ toString rule ++ " position " ++ toString position
  | .issuesFound count => "BrainChecker: " ++ toString count ++ " issue(s) found"
  | .recovered fault => "Recovered malformed record: " ++ fault.message
  | .droppedTile missing =>
    "Dropping unknown " ++ missing.kind.label ++ " tile " ++ missing.id.shown
  | .droppedRule missing =>
    "Dropping rule with unknown " ++ missing.kind.label ++ " tile " ++ missing.id.shown
  | .saved path => "Saved brain to " ++ path
  | .loaded path => "Loaded brain from " ++ path

end Notice

/-- An outcome, and what was reported on the way to it. -/
structure Reported (ε α : Type) where
  notices : List Notice
  outcome : Except ε α

namespace Reported

variable {ε ε' α β : Type}

def pure (value : α) : Reported ε α := ⟨[], .ok value⟩

def fail (error : ε) : Reported ε α := ⟨[], .error error⟩

/-- Goes on with the value; a failure ends here, with the notices so far. -/
def bind (first : Reported ε α) (next : α → Reported ε β) : Reported ε β :=
  match first.outcome with
  | .ok value =>
    let second := next value
    ⟨first.notices ++ second.notices, second.outcome⟩
  | .error error => ⟨first.notices, .error error⟩

instance : Monad (Reported ε) where
  pure := Reported.pure
  bind := Reported.bind

/-- Reports something. -/
def note (notices : List Notice) : Reported ε Unit := ⟨notices, .ok ()⟩

def ofExcept (outcome : Except ε α) : Reported ε α := ⟨[], outcome⟩

def mapError (f : ε → ε') (reported : Reported ε α) : Reported ε' α :=
  ⟨reported.notices, reported.outcome.mapError f⟩

/-- What is reported at a level or above it. -/
def noticesFrom (reported : Reported ε α) (level : Level) : List Notice :=
  reported.notices.filter fun notice => level.rank ≤ notice.level.rank

@[simp] theorem pure_eq (value : α) : (Pure.pure value : Reported ε α) = ⟨[], .ok value⟩ := rfl

@[simp] theorem ok_bind (notices : List Notice) (value : α) (next : α → Reported ε β) :
    (⟨notices, .ok value⟩ : Reported ε α) >>= next =
      ⟨notices ++ (next value).notices, (next value).outcome⟩ := rfl

@[simp] theorem error_bind (notices : List Notice) (error : ε) (next : α → Reported ε β) :
    (⟨notices, .error error⟩ : Reported ε α) >>= next = ⟨notices, .error error⟩ := rfl

theorem bind_eq (first : Reported ε α) (next : α → Reported ε β) :
    first >>= next = first.bind next := rfl

instance : LawfulMonad (Reported ε) := LawfulMonad.mk' _
  (fun reported => by
    obtain ⟨notices, outcome⟩ := reported
    cases outcome with
    | ok value => simp [Functor.map, Reported.bind, Reported.pure]
    | error error => simp [Functor.map, Reported.bind])
  (fun value next => by simp)
  (fun first second third => by
    obtain ⟨notices, outcome⟩ := first
    cases outcome with
    | error error => simp
    | ok value =>
      simp only [bind_eq]
      cases found : (second value).outcome with
      | ok result => simp [Reported.bind, found]
      | error error => simp [Reported.bind, found])

end Reported

end TileBrain
