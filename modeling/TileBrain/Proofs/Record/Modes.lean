import TileBrain.Proofs.Record.Reading
import TileBrain.Proofs.Reported

/-! # Strict and lenient reading

Both modes come upon the same faults in the same order. Strict reading ends with the first of them,
and lenient reading reports them all and takes what is faulty as absent. `InStep` says so of a step
that is taken in either mode, and sequences of steps keep it. What lenient reading makes of a value
is what strict reading makes of the mended one, from which the faulty parts have been taken out.
-/

namespace TileBrain

namespace Record

variable {α β : Type}

/-- Lenient mode reports faults and has a value. Strict mode ends with the first of these faults,
and has that value if there is none. -/
def InStep (step : Mode → Reported RecordFault α) : Prop :=
  ∃ (faults : List RecordFault) (value : α), step .lenient = ⟨faults.map .recovered, .ok value⟩ ∧
    step .strict = ⟨[], match faults.head? with
      | none => .ok value
      | some fault => .error fault⟩

section InStep

variable {step : Mode → Reported RecordFault α}

private theorem inStep_pure (value : α) : InStep fun _ => pure value := ⟨[], value, rfl, rfl⟩

private theorem inStep_reject (fault : RecordFault) (substitute : α) :
    InStep fun mode => reject mode fault substitute :=
  ⟨[fault], substitute, rfl, rfl⟩

theorem InStep.bind (first : InStep step) {next : Mode → α → Reported RecordFault β}
    (others : ∀ value, InStep fun mode => next mode value) :
    InStep fun mode => step mode >>= next mode := by
  obtain ⟨faults, value, lenient, strict⟩ := first
  obtain ⟨more, result, lenientNext, strictNext⟩ := others value
  refine ⟨faults ++ more, result, ?_, ?_⟩
  · change next .lenient value = _ at lenientNext
    change step .lenient >>= next .lenient = _
    rw [lenient, Reported.ok_bind, lenientNext, List.map_append]
  · change step .strict >>= next .strict = _
    rw [strict]
    cases faults with
    | nil => exact strictNext
    | cons fault rest => rfl

variable {each : Mode → α → Reported RecordFault β}

theorem InStep.mapM (inStep : ∀ element, InStep fun mode => each mode element)
    (elements : List α) : InStep fun mode => elements.mapM (each mode) := by
  induction elements with
  | nil => exact inStep_pure []
  | cons element rest ih =>
    simp only [List.mapM_cons]
    exact (inStep element).bind fun result => ih.bind fun results => inStep_pure (result :: results)

theorem InStep.traverse (inStep : ∀ element, InStep fun mode => each mode element)
    (elements : List α) : InStep fun mode => Pages.traverse (each mode) elements := by
  induction elements with
  | nil => exact inStep_pure _
  | cons element rest ih =>
    exact (inStep element).bind fun result => ih.bind fun results => inStep_pure _

theorem InStep.pages_mapM (inStep : ∀ element, InStep fun mode => each mode element)
    (pages : Pages α) : InStep fun mode => pages.mapM (each mode) :=
  (InStep.traverse inStep pages.toList).bind fun _ => inStep_pure _

/-- Faults that were recovered are all warned about. -/
private theorem noticesFrom_recovered (faults : List RecordFault) (outcome : Except RecordFault α) :
    (Reported.mk (faults.map .recovered) outcome).noticesFrom .warning =
      faults.map .recovered := by
  apply List.filter_eq_self.mpr
  intro notice member
  obtain ⟨fault, _, rfl⟩ := List.mem_map.mp member
  rfl

theorem InStep.recovers (inStep : InStep step) : ∃ value, (step .lenient).outcome = .ok value := by
  obtain ⟨_, value, lenient, _⟩ := inStep
  exact ⟨value, congrArg Reported.outcome lenient⟩

/-- The fault that strict mode ends with is the first that lenient mode reports. -/
theorem InStep.fails_iff (inStep : InStep step) (fault : RecordFault) :
    (step .strict).outcome = .error fault ↔
      ((step .lenient).noticesFrom .warning).head? = some (.recovered fault) := by
  obtain ⟨faults, value, lenient, strict⟩ := inStep
  rw [lenient, strict, noticesFrom_recovered]
  cases faults with
  | nil => simp
  | cons first rest => simp

theorem InStep.head?_noticesFrom (inStep : InStep step) {notice : Notice}
    (first : ((step .lenient).noticesFrom .warning).head? = some notice) :
    ∃ fault, notice = .recovered fault := by
  obtain ⟨faults, value, lenient, strict⟩ := inStep
  rw [lenient, noticesFrom_recovered, List.head?_map] at first
  obtain ⟨fault, _, rfl⟩ := Option.map_eq_some_iff.mp first
  exact ⟨fault, rfl⟩

/-- Without a fault there is nothing to report in either mode. -/
theorem InStep.eq_pure (inStep : InStep step) {value : α}
    (ok : (step .strict).outcome = .ok value) (mode : Mode) : step mode = pure value := by
  obtain ⟨faults, result, lenient, strict⟩ := inStep
  rw [strict] at ok
  cases faults with
  | nil =>
    obtain rfl := Except.ok.inj ok
    cases mode with
    | strict => exact strict
    | lenient => exact lenient
  | cons fault rest => exact nomatch ok

/-- Whatever comes without a warning comes without a fault. -/
theorem InStep.of_yields (inStep : InStep step) {mode : Mode} {value : α}
    (yields : (step mode).Yields .warning value) : (step .strict).outcome = .ok value := by
  cases mode with
  | strict => exact yields.outcome
  | lenient =>
    obtain ⟨faults, result, lenient, strict⟩ := inStep
    have silent := yields.silent
    have outcome := yields.outcome
    rw [lenient] at outcome
    rw [lenient, noticesFrom_recovered, List.map_eq_nil_iff] at silent
    obtain rfl := Except.ok.inj outcome
    rw [strict, silent]
    rfl

end InStep

private theorem inStep_readMapping (part : RecordPart) (json : Json) :
    InStep fun mode => readMapping mode part json := by
  cases json with
  | obj members => exact inStep_pure members
  | _ => exact inStep_reject _ _

private theorem inStep_checkKeys (part : RecordPart) (members : List (String × Json)) :
    InStep fun mode => checkKeys mode part members := by
  unfold checkKeys
  split
  · exact inStep_pure ()
  · exact inStep_reject _ _

private theorem inStep_readCondition (field : Option Json) :
    InStep fun mode => readCondition mode field := by
  unfold readCondition
  split
  · exact inStep_pure _
  · split
    · exact inStep_pure _
    · exact inStep_reject _ _
  · exact inStep_reject _ _

private theorem inStep_readId (key : String) (field : Option Json) :
    InStep fun mode => readId mode key field := by
  unfold readId
  split
  · exact inStep_pure _
  · exact inStep_pure _
  · exact inStep_reject _ _

private theorem inStep_readIds (key : String) (field : Option Json) :
    InStep fun mode => readIds mode key field := by
  unfold readIds
  split
  · exact inStep_pure _
  · split
    · exact inStep_pure _
    · exact inStep_reject _ _

private theorem inStep_readPages (field : Option Json) :
    InStep fun mode => readPages mode field := by
  unfold readPages
  split
  · exact inStep_pure _
  · exact inStep_reject _ _

private theorem inStep_fitPages (pages : List Json) : InStep fun mode => fitPages mode pages := by
  unfold fitPages
  split
  · exact inStep_pure _
  · exact inStep_reject _ _

end Record

open Record

theorem RuleRecord.inStep_read (json : Json) : InStep fun mode => RuleRecord.read mode json := by
  refine (inStep_readMapping .rule json).bind fun members => ?_
  refine (inStep_checkKeys .rule members).bind fun _ => ?_
  refine (inStep_readCondition _).bind fun condition => ?_
  refine (inStep_readId _ _).bind fun sensor => ?_
  refine (inStep_readId _ _).bind fun actuator => ?_
  refine (inStep_readIds _ _).bind fun filters => ?_
  refine (inStep_readIds _ _).bind fun modifiers => ?_
  exact inStep_pure _

theorem PageRecord.inStep_read (json : Json) : InStep fun mode => PageRecord.read mode json := by
  refine (inStep_readMapping .page json).bind fun members => ?_
  refine (inStep_checkKeys .page members).bind fun _ => ?_
  split
  · exact inStep_pure _
  · exact (InStep.mapM RuleRecord.inStep_read _).bind fun rules => inStep_pure _
  · exact inStep_reject _ _

theorem BrainRecord.inStep_read (json : Json) : InStep fun mode => BrainRecord.read mode json := by
  refine (inStep_readMapping .brain json).bind fun members => ?_
  refine (inStep_checkKeys .brain members).bind fun _ => ?_
  refine (inStep_readPages _).bind fun raw => ?_
  refine (inStep_fitPages raw).bind fun pages => ?_
  exact (InStep.pages_mapM PageRecord.inStep_read pages).bind fun pages => inStep_pure _

end TileBrain
