import TileBrain.Proofs.Audit.Clean
import TileBrain.Proofs.Decoding.BestEffort
import TileBrain.Session

/-! # What a session keeps

A command edits the current brain, copies it into a slot, goes to another slot, or leaves the
session alone. `Session.moves_after` finds one of these moves for every command, with the one slot
whose brain may change, and what a session keeps is shown move by move: `Moves.wellKept` for its
shape and for the tiles of its brains, `Moves.slot?_of_ne` for the brains of all other slots.

Runs follow by induction on the commands. `Session.serves_run` is about every run from the start:
each brain can be stored, read back and audited. It does not say that the audit is clean, since
commands place tiles wherever they are told to.
-/

namespace TileBrain

namespace Session

variable {session next : Session}

/-- What a command may do. Where there is a slot, the brain in that slot alone may change. -/
inductive Moves (session : Session) : Option String → Session → Prop
  | stay (target : Option String) : Moves session target session
  | edit {brain : Brain} (sound : session.brain.TakenFrom session.catalog →
      brain.TakenFrom session.catalog) :
      Moves session (some session.slot) (session.withBrain brain)
  | copy {slot : String} (apart : slot ≠ session.slot) :
      Moves session (some slot)
        { session with others := Keyed.put slot session.brain session.others }
  | use {slot : String} {brain : Brain} (apart : slot ≠ session.slot)
      (found : Keyed.get? session.others slot = some brain) :
      Moves session none
        { session with
          slot
          brain
          others := Keyed.put session.slot session.brain
            (session.others.filter fun other => other.1 ≠ slot) }

/-- The slot whose brain a command may change. -/
def target? (session : Session) : Command → Option String
  | .copyBrain slot => some slot
  | .use _ => none
  | .equal _ => none
  | .isEmpty _ => none
  | .display _ => none
  | .suggestAnchors .. => none
  | .suggest .. => none
  | .audit => none
  | .render _ => none
  | _ => some session.slot

private theorem mem_of_element {α : Type} {elements : List α} {index : Int} {found : α × Nat}
    (isThere : element elements index = .ok found) : found.1 ∈ elements := by
  obtain ⟨position, _, isThere⟩ := exists_of_bind_eq_ok isThere
  split at isThere
  next element at? =>
    obtain rfl := Except.ok.inj isThere
    exact List.mem_of_getElem? at?
  next => exact nomatch isThere

private theorem takenFrom_of_page {index : Int} {found : Page × Nat}
    (isPage : session.page index = .ok found) (taken : session.brain.TakenFrom session.catalog) :
    found.1.TakenFrom session.catalog :=
  taken found.1 (mem_of_element isPage)

private theorem takenFrom_of_rule {place : RulePlace} {rule : Rule}
    (isRule : session.rule place = .ok rule) (taken : session.brain.TakenFrom session.catalog) :
    rule.TakenFrom session.catalog := by
  obtain ⟨page, isPage, isRule⟩ := exists_of_bind_eq_ok isRule
  obtain ⟨found, isFound, isRule⟩ := exists_of_bind_eq_ok isRule
  obtain rfl := Except.ok.inj isRule
  exact takenFrom_of_page isPage taken found.1 (mem_of_element isFound)

private theorem mem_partition_of_lookup {kind : TileKind} {id : Json} {tile : Tile}
    (found : session.lookup kind id = .ok tile) : tile ∈ session.catalog.partition kind := by
  obtain ⟨_, _, found⟩ := exists_of_bind_eq_ok found
  unfold Catalog.lookup at found
  split at found
  next there =>
    obtain rfl := Except.ok.inj found
    exact Catalog.mem_partition_of_get? there
  next => exact nomatch found

/-- A page takes the place of the one that was edited. -/
private theorem moves_editPage {index : Int} {edit : Page → Page}
    (sound : session.brain.TakenFrom session.catalog → ∀ page : Page,
      page.TakenFrom session.catalog → (edit page).TakenFrom session.catalog)
    (done : session.editPage index edit = .ok next) :
    session.Moves (some session.slot) next := by
  obtain ⟨page, isPage, done⟩ := exists_of_bind_eq_ok done
  obtain rfl := Except.ok.inj done
  exact .edit fun taken => taken.set _ (sound taken page.1 (takenFrom_of_page isPage taken))

private theorem moves_editRule {place : RulePlace} {edit : Rule → Except SessionError Rule}
    (sound : ∀ rule edited : Rule, rule.TakenFrom session.catalog → edit rule = .ok edited →
      edited.TakenFrom session.catalog)
    (done : session.editRule place edit = .ok next) :
    session.Moves (some session.slot) next := by
  obtain ⟨page, isPage, done⟩ := exists_of_bind_eq_ok done
  obtain ⟨rule, isRule, done⟩ := exists_of_bind_eq_ok done
  obtain ⟨edited, isEdited, done⟩ := exists_of_bind_eq_ok done
  obtain rfl := Except.ok.inj done
  refine .edit fun taken => ?_
  have pageTaken := takenFrom_of_page isPage taken
  have ruleTaken := sound rule.1 edited (pageTaken rule.1 (mem_of_element isRule)) isEdited
  exact taken.set _ (pageTaken.set _ ruleTaken)

private theorem eq_of_edited {outcome : Except SessionError Session} {reply : Reply}
    (done : (edited outcome).outcome = .ok (next, reply)) : outcome = .ok next := by
  cases outcome with
  | ok changed =>
    cases done
    rfl
  | error => exact nomatch done

private theorem eq_of_answered {outcome : Except SessionError Reply} {reply : Reply}
    (done : (session.answered outcome).outcome = .ok (next, reply)) : next = session := by
  cases outcome with
  | ok answer =>
    cases done
    rfl
  | error => exact nomatch done

/-- A command that succeeds makes one of the moves, in the slot that it is about. -/
theorem moves_of_step {command : Command} {reply : Reply}
    (done : (session.step command).outcome = .ok (next, reply)) :
    session.Moves (session.target? command) next := by
  cases command with
  | addRule index data =>
    obtain ⟨_, _, done⟩ := Reported.exists_of_outcome_bind_eq_ok done
    obtain ⟨rule, decoded, done⟩ := Reported.exists_of_outcome_bind_eq_ok done
    have taken := DecodeOptions.takenFrom_of_decodeRule
      (Reported.outcome_mapError_eq_ok_iff.mp decoded)
    exact moves_editPage (fun _ _ pageTaken => pageTaken.append taken) (eq_of_edited done)
  | setAnchor chain place id =>
    refine moves_editRule ?_ (eq_of_edited done)
    intro rule edited taken isEdited
    split at isEdited
    next =>
      obtain rfl := Except.ok.inj isEdited
      exact taken.withAnchor nofun
    next =>
      obtain ⟨tile, found, isEdited⟩ := exists_of_bind_eq_ok isEdited
      obtain rfl := Except.ok.inj isEdited
      exact taken.withAnchor (List.forall_mem_singleton.mpr (mem_partition_of_lookup found))
  | addTile chain place id =>
    refine moves_editRule ?_ (eq_of_edited done)
    intro rule edited taken isEdited
    obtain ⟨tile, found, isEdited⟩ := exists_of_bind_eq_ok isEdited
    obtain rfl := Except.ok.inj isEdited
    exact taken.append (mem_partition_of_lookup found)
  | setCondition place code =>
    refine moves_editRule ?_ (eq_of_edited done)
    intro rule edited taken isEdited
    obtain ⟨condition, _, isEdited⟩ := exists_of_bind_eq_ok isEdited
    obtain rfl := Except.ok.inj isEdited
    have slots := Rule.takenFrom_iff.mp taken
    exact Rule.takenFrom_iff.mpr slots
  | repair place? =>
    cases place? with
    | none =>
      cases done
      exact .edit Brain.TakenFrom.repair
    | some place =>
      obtain ⟨_, _, done⟩ := Reported.exists_of_outcome_bind_eq_ok done
      obtain ⟨_, _, done⟩ := Reported.exists_of_outcome_bind_eq_ok done
      refine moves_editRule ?_ (eq_of_edited done)
      intro rule edited taken isEdited
      obtain rfl := Except.ok.inj isEdited
      exact taken.repair
  | trim index? =>
    cases index? with
    | none =>
      cases done
      exact .edit Brain.TakenFrom.trim
    | some index => exact moves_editPage (fun _ _ => Page.TakenFrom.trim) (eq_of_edited done)
  | deleteRule page index =>
    exact moves_editPage (fun _ _ taken => taken.eraseRule index) (eq_of_edited done)
  | copyBrain slot =>
    obtain rfl := Except.ok.inj (eq_of_edited done)
    split
    next => exact .stay _
    next apart => exact .copy apart
  | copyPage index target =>
    obtain ⟨page, isPage, done⟩ := exists_of_bind_eq_ok (eq_of_edited done)
    obtain ⟨position, _, done⟩ := exists_of_bind_eq_ok done
    obtain rfl := Except.ok.inj done
    exact .edit fun taken => taken.set _ (takenFrom_of_page isPage taken)
  | copyRule place target =>
    obtain ⟨rule, isRule, done⟩ := exists_of_bind_eq_ok (eq_of_edited done)
    refine moves_editPage ?_ done
    exact fun taken _ pageTaken => pageTaken.append (takenFrom_of_rule isRule taken)
  | use slot =>
    have switched := eq_of_edited done
    split at switched
    next => exact nomatch switched
    next brain there =>
      split at switched
      next =>
        obtain rfl := Except.ok.inj switched
        exact .stay none
      next apart =>
        obtain rfl := Except.ok.inj switched
        rw [slot?, if_neg apart] at there
        exact .use apart there
  | suggest chain place index =>
    obtain ⟨_, _, done⟩ := Reported.exists_of_outcome_bind_eq_ok done
    obtain ⟨_, _, done⟩ := Reported.exists_of_outcome_bind_eq_ok done
    cases done
    exact .stay none
  | audit =>
    obtain ⟨_, _, done⟩ := Reported.exists_of_outcome_bind_eq_ok done
    cases done
    exact .stay none
  | decode data mode policy =>
    obtain ⟨brain, decoded, done⟩ := Reported.exists_of_outcome_bind_eq_ok done
    cases done
    have taken := DecodeOptions.takenFrom_of_decodeBrain
      (Reported.outcome_mapError_eq_ok_iff.mp decoded)
    exact .edit fun _ => taken
  | equal slot => exact eq_of_answered done ▸ .stay none
  | isEmpty extent => exact eq_of_answered done ▸ .stay none
  | display place => exact eq_of_answered done ▸ .stay none
  | suggestAnchors chain place => exact eq_of_answered done ▸ .stay none
  | render indent => exact eq_of_answered done ▸ .stay none

/-- A command that fails leaves the session as it was, so every command makes one of the moves. -/
theorem moves_after (session : Session) (command : Command) :
    session.Moves (session.target? command) (session.after command) := by
  unfold after
  split
  next done => exact moves_of_step done
  next => exact .stay _

/-- Slots have different names, and the brains in them are over the catalog. -/
structure WellKept (session : Session) : Prop where
  distinct : (Keyed.keys session.slots).Nodup
  taken : ∀ slot ∈ session.slots, slot.2.TakenFrom session.catalog

theorem slot?_eq_get? (session : Session) (name : String) :
    session.slot? name = Keyed.get? session.slots name := by
  rw [slots, Keyed.get?_cons, slot?]
  exact if_congr eq_comm rfl rfl

theorem WellKept.takenFrom_of_slot? (kept : session.WellKept) {name : String}
    {brain : Brain} (found : session.slot? name = some brain) :
    brain.TakenFrom session.catalog := by
  rw [slot?_eq_get?] at found
  exact kept.taken (name, brain) (Keyed.mem_of_get? found)

theorem wellKept_start (catalog : Catalog) : (start catalog).WellKept where
  distinct := List.nodup_singleton firstSlot
  taken := List.forall_mem_singleton.mpr (Brain.takenFrom_empty catalog)

namespace Moves

variable {target : Option String} {name : String}

theorem catalog_eq (moves : session.Moves target next) :
    next.catalog = session.catalog := by
  cases moves <;> rfl

/-- Every move keeps names apart and brains over the catalog. -/
theorem wellKept (moves : session.Moves target next) (kept : session.WellKept) :
    next.WellKept := by
  obtain ⟨distinct, taken⟩ := kept
  obtain ⟨fresh, others⟩ := List.nodup_cons.mp distinct
  obtain ⟨current, rest⟩ := List.forall_mem_cons.mp taken
  cases moves with
  | stay => exact ⟨distinct, taken⟩
  | edit sound => exact ⟨distinct, List.forall_mem_cons.mpr ⟨sound current, rest⟩⟩
  | copy apart =>
    constructor
    · refine List.nodup_cons.mpr ⟨?_, Keyed.nodup_keys_put others _ _⟩
      exact fun member => (Keyed.mem_keys_put.mp member).elim (Ne.symm apart) fresh
    · refine List.forall_mem_cons.mpr ⟨current, fun slot member => ?_⟩
      rcases Keyed.mem_put member with rfl | old
      · exact current
      · exact rest slot old
  | use apart found =>
    constructor
    · refine List.nodup_cons.mpr ⟨fun member => ?_, Keyed.nodup_keys_put ?_ _ _⟩
      · rcases Keyed.mem_keys_put.mp member with same | left
        · exact apart same
        · obtain ⟨other, isLeft, same⟩ := List.mem_map.mp left
          exact of_decide_eq_true (List.mem_filter.mp isLeft).2 same
      · exact (Keyed.keys_filter_sublist _ _).nodup others
    · refine List.forall_mem_cons.mpr ⟨rest _ (Keyed.mem_of_get? found), fun slot member => ?_⟩
      rcases Keyed.mem_put member with rfl | left
      · exact current
      · exact rest slot (List.mem_filter.mp left).1

/-- The brain in any slot but the one named stays as it is. -/
theorem slot?_of_ne (moves : session.Moves target next) (untouched : target ≠ some name) :
    next.slot? name = session.slot? name := by
  cases moves with
  | stay => rfl
  | edit =>
    have elsewhere : name ≠ session.slot := fun same => untouched (congrArg some same.symm)
    rw [slot?, slot?, withBrain, if_neg elsewhere, if_neg elsewhere]
  | copy =>
    have elsewhere := fun same => untouched (congrArg some same)
    rw [slot?, slot?, Keyed.get?_put, if_neg elsewhere]
  | @use slot brain apart found =>
    by_cases entered : name = slot
    · subst entered
      rw [slot?, slot?, if_pos rfl, if_neg apart, found]
    · have left : decide (name ≠ slot) = true := decide_eq_true entered
      rw [slot?, slot?, if_neg entered, Keyed.get?_put, if_congr eq_comm rfl rfl,
        Keyed.get?_filter_key fun other => decide (other ≠ slot), if_pos left]

/-- No slot goes away. -/
theorem isSome_slot? (moves : session.Moves target next)
    (isThere : (session.slot? name).isSome = true) : (next.slot? name).isSome = true := by
  by_cases untouched : target = some name
  · subst untouched
    cases moves with
    | stay => exact isThere
    | edit => simp [slot?, withBrain]
    | copy apart => simp [slot?, Keyed.get?_put, apart]
  · rw [moves.slot?_of_ne untouched]
    exact isThere

end Moves

section Runs

variable (commands : List Command)

theorem catalog_run (session : Session) : (session.run commands).catalog = session.catalog := by
  induction commands generalizing session with
  | nil => rfl
  | cons command rest ih => exact (ih (session.after command)).trans (moves_after _ _).catalog_eq

/-- Whatever is carried out, a session that was well kept still is. -/
theorem WellKept.run (kept : session.WellKept) : (session.run commands).WellKept := by
  induction commands generalizing session with
  | nil => exact kept
  | cons command rest ih => exact ih ((moves_after session command).wellKept kept)

theorem isSome_slot?_run {name : String} (isThere : (session.slot? name).isSome = true) :
    ((session.run commands).slot? name).isSome = true := by
  induction commands generalizing session with
  | nil => exact isThere
  | cons command rest ih => exact ih ((moves_after session command).isSome_slot? isThere)

/-- A slot that no command of a run is about has the same brain after the run. -/
theorem slot?_run_of_untouched {commands : List Command} {name : String}
    (untouched : ∀ before command, before ++ [command] <+: commands →
      (session.run before).target? command ≠ some name) :
    (session.run commands).slot? name = session.slot? name := by
  induction commands generalizing session with
  | nil => rfl
  | cons command rest ih =>
    have first := untouched [] command ⟨rest, rfl⟩
    have later : ∀ before another, before ++ [another] <+: rest →
        ((session.after command).run before).target? another ≠ some name := by
      intro before another isPart
      exact untouched (command :: before) another (List.prefix_cons_inj command |>.mpr isPart)
    exact (ih later).trans ((moves_after session command).slot?_of_ne first)

end Runs

/-- In every run from the start, the brain in each slot is over the catalog, comes back from each of
its texts, and has an audit. -/
theorem serves_run {catalog : Catalog} (typed : catalog.WellTyped) (commands : List Command)
    {name : String} {brain : Brain}
    (found : ((start catalog).run commands).slot? name = some brain) :
    brain.TakenFrom catalog ∧
      (∀ indent, ((DecodeOptions.mk catalog .strict .raise).decodeBrain
        (.str (brain.render indent))).outcome = .ok brain) ∧
      (brain.audit catalog).outcome = .ok (brain.issues catalog) := by
  have kept := (wellKept_start catalog).run commands
  have taken := kept.takenFrom_of_slot? found
  rw [catalog_run] at taken
  exact ⟨taken, Brain.outcome_decodeBrain_render typed.hasTextIds taken, taken.outcome_audit typed⟩

/-- Decoding what the session answers as its text changes nothing, so that the commands may follow
each other at any point of a run. -/
theorem outcome_decode_render (kept : session.WellKept) (texts : session.catalog.HasTextIds)
    (indent : Option Int) :
    (session.step (.decode (.str (session.brain.render indent)) .strict .raise)).outcome =
      .ok (session, .done) := by
  have taken := (List.forall_mem_cons.mp kept.taken).1
  have decoded := Reported.outcome_mapError_of_ok
    (Brain.outcome_decodeBrain_render texts taken indent) SessionError.decode
  rw [step, Reported.outcome_bind_of_ok decoded]
  rfl

end Session

end TileBrain
