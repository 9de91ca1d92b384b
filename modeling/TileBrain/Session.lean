import TileBrain.Audit.Basic
import TileBrain.Decoding

/-! # Editing sessions

A session holds brains in named slots, one of which is current. A command edits the current brain or
asks about it; a command that fails leaves the session as it was. Pages and rules are named by
index, a negative one counting from the end.
-/

namespace TileBrain

/-- Why an index names no element. -/
inductive IndexFault where
  /-- There is nothing to read at the index. -/
  | reading
  /-- There is nothing to replace at the index. -/
  | writing
  /-- No list is long enough for the index. -/
  | tooLarge
  deriving DecidableEq

def IndexFault.message : IndexFault → String
  | .reading => "list index out of range"
  | .writing => "list assignment index out of range"
  | .tooLarge => "cannot fit 'int' into an index-sized integer"

inductive SessionError where
  | index (fault : IndexFault)
  | noSlot (name : String)
  | unknownCondition (code : Json)
  | unresolved (missing : Unresolved)
  | suggest (error : SuggestError)
  | misfit (cause : Misfit)
  | decode (error : DecodeError)

def SessionError.message : SessionError → String
  | .index fault => fault.message
  | .noSlot name => Text.quoted name
  | .unknownCondition code => code.shown ++ " is not a valid RuleCondition"
  | .unresolved missing => missing.message
  | .suggest error => error.message
  | .misfit cause => cause.message
  | .decode error => error.message

/-- Where a rule is. -/
structure RulePlace where
  page : Int
  rule : Int

/-- What a question about emptiness is about. -/
inductive Extent where
  | brain
  | page (index : Int)
  | rule (place : RulePlace)

inductive Command where
  | addRule (page : Int) (data : Json)
  /-- Sets the sensor or the actuator, named by the chain that it anchors; null takes it away. -/
  | setAnchor (chain : Chain) (place : RulePlace) (id : Json)
  | addTile (chain : Chain) (place : RulePlace) (id : Json)
  | setCondition (place : RulePlace) (code : Json)
  | repair (place : Option RulePlace)
  | trim (page : Option Int)
  | deleteRule (page index : Int)
  | copyBrain (slot : String)
  | copyPage (page target : Int)
  | copyRule (place : RulePlace) (target : Int)
  | use (slot : String)
  | equal (slot : String)
  | isEmpty (extent : Extent)
  | display (place : RulePlace)
  | suggestAnchors (chain : Chain) (place : RulePlace)
  | suggest (chain : Chain) (place : RulePlace) (index : Int)
  | audit
  | render (indent : Option Int)
  | decode (data : Json) (mode : Mode) (policy : Policy)

/-- What a command answers. -/
inductive Reply where
  | done
  | flag (value : Bool)
  | text (value : String)
  | tiles (tiles : List Tile)
  | issues (issues : List (Issue Json))

structure Session where
  catalog : Catalog
  /-- The name of the current slot. -/
  slot : String
  /-- The brain in the current slot. -/
  brain : Brain
  /-- The brains in the other slots. -/
  others : List (String × Brain)

namespace Session

/-- The slot that a session starts with. -/
def firstSlot : String := "main"

/-- One empty brain. -/
def start (catalog : Catalog) : Session := ⟨catalog, firstSlot, .empty, []⟩

/-- The brain in a slot. -/
def slot? (session : Session) (name : String) : Option Brain :=
  if name = session.slot then some session.brain else Keyed.get? session.others name

/-- All slots with their brains. -/
def slots (session : Session) : List (String × Brain) :=
  (session.slot, session.brain) :: session.others

/-- Indices from the negative of this number up to below it are looked at. -/
def indexBound : Int := 9223372036854775808

/-- The position that an index names, counting from the end when it is negative; a missing one is
the fault given. -/
def position (index : Int) (length : Nat) (missing : IndexFault) : Except SessionError Nat :=
  if index < -indexBound ∨ indexBound ≤ index then .error (.index .tooLarge)
  else
    let counted := if 0 ≤ index then index else length + index
    if 0 ≤ counted ∧ counted < length then .ok counted.toNat else .error (.index missing)

/-- The element at an index, and its position. -/
def element {α : Type} (elements : List α) (index : Int) : Except SessionError (α × Nat) := do
  let position ← position index elements.length .reading
  match elements[position]? with
  | some element => return (element, position)
  | none => throw (.index .reading)

def page (session : Session) (index : Int) : Except SessionError (Page × Nat) :=
  element session.brain.pages.toList index

def rule (session : Session) (place : RulePlace) : Except SessionError Rule := do
  let (page, _) ← session.page place.page
  let (rule, _) ← element page.rules place.rule
  return rule

/-- The session with another current brain. -/
def withBrain (session : Session) (brain : Brain) : Session := { session with brain }

/-- Replaces a page. -/
def editPage (session : Session) (index : Int) (edit : Page → Page) :
    Except SessionError Session := do
  let (page, position) ← session.page index
  return session.withBrain ⟨session.brain.pages.set position (edit page)⟩

/-- Replaces a rule. -/
def editRule (session : Session) (place : RulePlace) (edit : Rule → Except SessionError Rule) :
    Except SessionError Session := do
  let (page, position) ← session.page place.page
  let (rule, index) ← element page.rules place.rule
  let edited ← edit rule
  return session.withBrain ⟨session.brain.pages.set position ⟨page.rules.set index edited⟩⟩

def lookup (session : Session) (kind : TileKind) (id : Json) : Except SessionError Tile := do
  (Catalog.checkId id).mapError .misfit
  (session.catalog.lookup kind id).mapError .unresolved

def readCondition (code : Json) : Except SessionError Condition :=
  match code.str?.bind Condition.ofCode? with
  | some condition => .ok condition
  | none => .error (.unknownCondition code)

def isEmptyAt (session : Session) : Extent → Except SessionError Bool
  | .brain => .ok session.brain.isEmpty
  | .page index => do
    let (page, _) ← session.page index
    return page.isEmpty
  | .rule place => do
    let rule ← session.rule place
    return rule.isEmpty

/-- An edit without a notice. -/
def edited (session : Except SessionError Session) : Reported SessionError (Session × Reply) :=
  .ofExcept (session.map fun session => (session, .done))

/-- An answer that leaves the session alone. -/
def answered (session : Session) (reply : Except SessionError Reply) :
    Reported SessionError (Session × Reply) :=
  .ofExcept (reply.map fun reply => (session, reply))

/-- Carries out a command. -/
def step (session : Session) : Command → Reported SessionError (Session × Reply)
  | .addRule index data => do
    let _ ← .ofExcept (session.page index)
    let options : DecodeOptions := ⟨session.catalog, .strict, .raise⟩
    let rule ← (options.decodeRule data).mapError .decode
    edited (session.editPage index (·.append rule))
  | .setAnchor chain place id =>
    edited (session.editRule place fun rule => do
      match id with
      | .null => return rule.withAnchor none chain
      | id => return rule.withAnchor (some (← session.lookup chain.anchorKind id)) chain)
  | .addTile chain place id =>
    edited (session.editRule place fun rule => do
      return rule.append chain (← session.lookup chain.kind id))
  | .setCondition place code =>
    edited (session.editRule place fun rule => do
      return { rule with condition := ← readCondition code })
  | .repair none =>
    ⟨session.brain.repairNotices, .ok (session.withBrain session.brain.repair, .done)⟩
  | .repair (some place) => do
    let rule ← .ofExcept (session.rule place)
    .note rule.repairNotices
    edited (session.editRule place fun rule => .ok rule.repair)
  | .trim none => edited (.ok (session.withBrain session.brain.trim))
  | .trim (some index) => edited (session.editPage index Page.trim)
  | .deleteRule index rule => edited (session.editPage index (·.eraseRule rule))
  | .copyBrain slot =>
    edited (.ok (if slot = session.slot then session
      else { session with others := Keyed.put slot session.brain session.others }))
  | .copyPage index target => edited do
    let (page, _) ← session.page index
    let position ← position target pageCount .writing
    return session.withBrain ⟨session.brain.pages.set position page⟩
  | .copyRule place target => edited do
    let rule ← session.rule place
    session.editPage target (·.append rule)
  | .use slot => edited (
    match session.slot? slot with
    | none => .error (.noSlot slot)
    | some brain =>
      if slot = session.slot then .ok session
      else .ok { session with
        slot
        brain
        others := Keyed.put session.slot session.brain
          (session.others.filter fun other => other.1 ≠ slot) })
  | .equal slot => session.answered (
    match session.slot? slot with
    | none => .error (.noSlot slot)
    | some brain => .ok (.flag (session.brain = brain)))
  | .isEmpty extent => session.answered ((session.isEmptyAt extent).map .flag)
  | .display place => session.answered do
    let rule ← session.rule place
    let sentence ← rule.sentence.mapError .misfit
    return .text sentence
  | .suggestAnchors chain place => session.answered do
    let _ ← session.rule place
    let tiles ← (session.catalog.suggestAnchors chain).mapError .misfit
    return .tiles tiles
  | .suggest chain place index => do
    let rule ← .ofExcept (session.rule place)
    let tiles ← (session.catalog.suggest rule chain index).mapError .suggest
    pure (session, .tiles tiles)
  | .audit => do
    let issues ← (session.brain.audit session.catalog).mapError .misfit
    pure (session, .issues issues)
  | .render indent => session.answered (.ok (.text (session.brain.render indent)))
  | .decode data mode policy => do
    let options : DecodeOptions := ⟨session.catalog, mode, policy⟩
    let brain ← (options.decodeBrain data).mapError .decode
    pure (session.withBrain brain, .done)

/-- The session after a command; one that fails changes nothing. -/
def after (session : Session) (command : Command) : Session :=
  match (session.step command).outcome with
  | .ok (session, _) => session
  | .error _ => session

/-- The session after commands in their order. -/
def run (session : Session) (commands : List Command) : Session := commands.foldl after session

end Session

end TileBrain
