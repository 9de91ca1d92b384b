import Mathlib.Data.List.Forall2
import TileBrain.Notice

/-! # Outcomes of reporting steps

A sequence of steps succeeds if each of its steps does, whatever they report on the way. `Yields`
says that a step succeeds and reports nothing from a level on; it is passed on in the same way.

Inversion lemmas take sequences, traversals and loops apart by their outcomes and leave the notices
aside, which a failure keeps. For notices that matter, `Yields.exists_of_bind` does the same with
silence from a level on.
-/

namespace TileBrain

/-- A computation that succeeds has passed its first step. -/
theorem exists_of_bind_eq_ok {ε α β : Type} {first : Except ε α} {next : α → Except ε β}
    {result : β} (ok : first >>= next = .ok result) :
    ∃ value, first = .ok value ∧ next value = .ok result := by
  cases first with
  | ok value => exact ⟨value, rfl, ok⟩
  | error => exact nomatch ok

namespace Reported

variable {ε ε' α β : Type}

theorem map_mk_ok (f : α → β) (notices : List Notice) (value : α) :
    f <$> (⟨notices, .ok value⟩ : Reported ε α) = ⟨notices, .ok (f value)⟩ := by
  rw [map_eq_pure_bind, ok_bind, pure_eq, List.append_nil]

theorem mapError_map (f : α → β) (g : ε → ε') (reported : Reported ε α) :
    (f <$> reported).mapError g = f <$> reported.mapError g := by
  obtain ⟨notices, outcome⟩ := reported
  cases outcome with
  | error error => rfl
  | ok value => rw [map_mk_ok, mapError, mapError, Except.mapError, Except.mapError, map_mk_ok]

theorem outcome_mapError_of_ok {reported : Reported ε α} {value : α}
    (ok : reported.outcome = .ok value) (f : ε → ε') :
    (reported.mapError f).outcome = .ok value :=
  congrArg (Except.mapError f) ok

theorem outcome_mapError_of_error {reported : Reported ε α} {error : ε}
    (failed : reported.outcome = .error error) (f : ε → ε') :
    (reported.mapError f).outcome = .error (f error) :=
  congrArg (Except.mapError f) failed

/-- Outcomes are bound like the steps that they are of. -/
theorem outcome_bind (first : Reported ε α) (next : α → Reported ε β) :
    (first >>= next).outcome = first.outcome.bind fun value => (next value).outcome := by
  obtain ⟨notices, outcome⟩ := first
  cases outcome <;> rfl

/-- A step that succeeds hands its value on. -/
theorem outcome_bind_of_ok {first : Reported ε α} {value : α} (ok : first.outcome = .ok value)
    (next : α → Reported ε β) : (first >>= next).outcome = (next value).outcome := by
  obtain ⟨notices, outcome⟩ := first
  change outcome = .ok value at ok
  rw [ok]
  rfl

/-- A sequence that succeeds has passed its first step. -/
theorem exists_of_outcome_bind_eq_ok {first : Reported ε α} {next : α → Reported ε β} {result : β}
    (ok : (first >>= next).outcome = .ok result) :
    ∃ value, first.outcome = .ok value ∧ (next value).outcome = .ok result := by
  obtain ⟨notices, outcome⟩ := first
  cases outcome with
  | ok value => exact ⟨value, rfl, ok⟩
  | error => exact nomatch ok

theorem outcome_bind_eq_ok_iff {first : Reported ε α} {next : α → Reported ε β} {result : β} :
    (first >>= next).outcome = .ok result ↔
      ∃ value, first.outcome = .ok value ∧ (next value).outcome = .ok result := by
  constructor
  · exact exists_of_outcome_bind_eq_ok
  · rintro ⟨value, ok, found⟩
    rw [outcome_bind_of_ok ok, found]

/-- Behind a step that has nothing to hand on. -/
theorem outcome_seq_eq_ok_iff {first : Reported ε PUnit} {next : PUnit → Reported ε β}
    {result : β} :
    (first >>= next).outcome = .ok result ↔
      first.outcome = .ok ⟨⟩ ∧ (next ⟨⟩).outcome = .ok result := by
  rw [outcome_bind_eq_ok_iff]
  constructor
  · rintro ⟨⟨⟩, ok, found⟩
    exact ⟨ok, found⟩
  · rintro ⟨ok, found⟩
    exact ⟨⟨⟩, ok, found⟩

theorem outcome_mapError_eq_ok_iff {reported : Reported ε α} {f : ε → ε'} {value : α} :
    (reported.mapError f).outcome = .ok value ↔ reported.outcome = .ok value := by
  obtain ⟨notices, outcome⟩ := reported
  cases outcome with
  | error error => exact ⟨nofun, nofun⟩
  | ok found => simp [mapError, Except.mapError]

theorem outcome_pure_eq_ok_iff {value result : α} :
    (Pure.pure value : Reported ε α).outcome = .ok result ↔ value = result := by
  change Except.ok value = Except.ok result ↔ _
  rw [Except.ok.injEq]

/-- A traversal that succeeds has one result for each element, in order. -/
theorem outcome_mapM_eq_ok_iff {step : α → Reported ε β} {elements : List α} {results : List β} :
    (elements.mapM step).outcome = .ok results ↔
      List.Forall₂ (fun element result => (step element).outcome = .ok result)
        elements results := by
  induction elements generalizing results with
  | nil => rw [List.mapM_nil, outcome_pure_eq_ok_iff, List.forall₂_nil_left_iff, eq_comm]
  | cons element rest ih =>
    simp only [List.mapM_cons, outcome_bind_eq_ok_iff, outcome_pure_eq_ok_iff, ih,
      List.forall₂_cons_left_iff]
    constructor
    · rintro ⟨result, first, others, follow, rfl⟩
      exact ⟨result, others, first, follow, rfl⟩
    · rintro ⟨result, others, first, follow, rfl⟩
      exact ⟨result, first, others, follow, rfl⟩

theorem outcome_pages_mapM_eq_ok_iff {step : α → Reported ε β} {pages : Pages α}
    {results : Pages β} :
    (pages.mapM step).outcome = .ok results ↔
      List.Forall₂ (fun element result => (step element).outcome = .ok result)
        pages.toList results.toList := by
  rw [← outcome_mapM_eq_ok_iff, ← Pages.toList_mapM, ← bind_pure_comp, outcome_bind_eq_ok_iff]
  simp only [outcome_pure_eq_ok_iff]
  constructor
  · intro ok
    exact ⟨results, ok, rfl⟩
  · rintro ⟨⟨found, length⟩, ok, same⟩
    cases same
    exact ok

/-- A sequence fails in its first step or behind it. -/
theorem outcome_bind_eq_error {first : Reported ε α} {next : α → Reported ε β} {error : ε}
    (failed : (first >>= next).outcome = .error error) :
    first.outcome = .error error ∨
      ∃ value, first.outcome = .ok value ∧ (next value).outcome = .error error := by
  obtain ⟨notices, outcome⟩ := first
  cases outcome with
  | ok value => exact .inr ⟨value, rfl, failed⟩
  | error found =>
    obtain rfl := Except.error.inj failed
    exact .inl rfl

theorem exists_of_outcome_mapError_eq_error {reported : Reported ε α} {f : ε → ε'} {error : ε'}
    (failed : (reported.mapError f).outcome = .error error) :
    ∃ cause, reported.outcome = .error cause ∧ error = f cause := by
  obtain ⟨notices, outcome⟩ := reported
  cases outcome with
  | ok value => exact nomatch failed
  | error cause => exact ⟨cause, rfl, (Except.error.inj failed).symm⟩

/-- A loop succeeds if all of its steps do. -/
theorem outcome_forM_eq_ok_iff {step : α → Reported ε PUnit} {elements : List α} :
    (elements.forM step).outcome = .ok ⟨⟩ ↔
      ∀ element ∈ elements, (step element).outcome = .ok ⟨⟩ := by
  induction elements with
  | nil => exact ⟨fun _ => nofun, fun _ => rfl⟩
  | cons element rest ih =>
    change (step element >>= fun _ => rest.forM step).outcome = _ ↔ _
    rw [outcome_seq_eq_ok_iff, List.forall_mem_cons, ih]

theorem outcome_forM_of_ok {step : α → Reported ε PUnit} {elements : List α}
    (ok : ∀ element ∈ elements, (step element).outcome = .ok ⟨⟩) :
    (elements.forM step).outcome = .ok ⟨⟩ :=
  outcome_forM_eq_ok_iff.mpr ok

/-- Elements whose steps do nothing may be left out of a loop. -/
theorem forM_filter {keeps : α → Bool} {step : α → Reported ε PUnit} {elements : List α}
    (idle : ∀ element ∈ elements, keeps element = false → step element = pure ⟨⟩) :
    (elements.filter keeps).forM step = elements.forM step := by
  simp only [List.forM_eq_forM]
  induction elements with
  | nil => rfl
  | cons element rest ih =>
    obtain ⟨first, others⟩ := List.forall_mem_cons.mp idle
    cases kept : keeps element with
    | true => rw [List.filter_cons_of_pos kept, List.forM_cons, List.forM_cons, ih others]
    | false =>
      have dropped : ¬ keeps element = true := Bool.eq_false_iff.mp kept
      have nothing : step element = Pure.pure ⟨⟩ := first kept
      rw [List.filter_cons_of_neg dropped, List.forM_cons, nothing, pure_bind, ih others]

/-- The outcome is a value, and nothing was reported at a level or above it. -/
structure Yields (reported : Reported ε α) (level : Level) (value : α) : Prop where
  outcome : reported.outcome = .ok value
  silent : reported.noticesFrom level = []

section Yields

variable {level : Level}

theorem yields_pure (level : Level) (value : α) : (pure value : Reported ε α).Yields level value :=
  ⟨rfl, rfl⟩

theorem Yields.bind {first : Reported ε α} {value : α} (yields : first.Yields level value)
    {next : α → Reported ε β} {result : β} (yieldsNext : (next value).Yields level result) :
    (first >>= next).Yields level result := by
  obtain ⟨notices, outcome⟩ := first
  obtain ⟨rfl, silent⟩ := yields
  refine ⟨yieldsNext.outcome, ?_⟩
  have both := congr (congrArg HAppend.hAppend silent) yieldsNext.silent
  simpa only [noticesFrom, ok_bind, List.filter_append, List.append_nil] using both

theorem Yields.mapError {reported : Reported ε α} {value : α} (yields : reported.Yields level value)
    (f : ε → ε') : (reported.mapError f).Yields level value := by
  obtain ⟨notices, outcome⟩ := reported
  obtain ⟨rfl, silent⟩ := yields
  exact ⟨rfl, silent⟩

theorem Yields.exists_of_bind {first : Reported ε α} {next : α → Reported ε β} {result : β}
    (yields : (first >>= next).Yields level result) :
    ∃ value, first.Yields level value ∧ (next value).Yields level result := by
  obtain ⟨value, ok, found⟩ := exists_of_outcome_bind_eq_ok yields.outcome
  obtain ⟨notices, outcome⟩ := first
  obtain rfl := ok
  have silent := yields.silent
  simp only [noticesFrom, ok_bind, List.filter_append, List.append_eq_nil_iff] at silent
  exact ⟨value, ⟨rfl, silent.1⟩, found, silent.2⟩

theorem Yields.of_mapError {reported : Reported ε α} {f : ε → ε'} {value : α}
    (yields : (reported.mapError f).Yields level value) : reported.Yields level value := by
  obtain ⟨notices, outcome⟩ := reported
  cases outcome with
  | ok found =>
    obtain rfl := Except.ok.inj yields.outcome
    exact ⟨rfl, yields.silent⟩
  | error => exact nomatch yields.outcome

variable {γ : Type} {encode : γ → α} {step : α → Reported ε β} {result : γ → β}

/-- Steps over encoded elements yield what each of the steps yields, in order. -/
theorem yields_traverse_map {elements : List γ}
    (each : ∀ element ∈ elements, (step (encode element)).Yields level (result element)) :
    (Pages.traverse step (elements.map encode)).Yields level
      ⟨elements.map result, by rw [List.length_map, List.length_map]⟩ := by
  induction elements with
  | nil => exact yields_pure level _
  | cons element rest ih =>
    obtain ⟨first, others⟩ := List.forall_mem_cons.mp each
    exact first.bind ((ih others).bind (yields_pure level _))

theorem yields_mapM_map {elements : List γ}
    (each : ∀ element ∈ elements, (step (encode element)).Yields level (result element)) :
    ((elements.map encode).mapM step).Yields level (elements.map result) := by
  rw [← Pages.val_traverse]
  exact (yields_traverse_map each).bind (yields_pure level _)

theorem yields_pages_mapM_map {pages : Pages γ}
    (each : ∀ page ∈ pages.toList, (step (encode page)).Yields level (result page)) :
    ((pages.map encode).mapM step).Yields level (pages.map result) :=
  (yields_traverse_map each).bind (yields_pure level _)

end Yields

end Reported

end TileBrain
