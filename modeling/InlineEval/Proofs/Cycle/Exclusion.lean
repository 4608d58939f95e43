import InlineEval.Cycle.Evaluator
import InlineEval.Cycle.Run

/-! # One cycle at a time

The flag of an evaluator is taken exactly while some cycle waits, and no two
cycles wait at the same time. So a request is turned away while a cycle runs
and leaves no trace in it, and once the cycle has ended, in whatever way, the
next request starts from nothing.
-/

namespace InlineEval

open Text

namespace Cycle

/-! ## How a cycle starts -/

/-- A run calls for what the cycle waits for first, and then for the rest. -/
theorem calls_runFrom (answerer : Answerer) (k : Nat) (cycle : Cycle) :
    (runFrom answerer k cycle).calls =
      match cycle.advance.2 with
      | .waits (.calling call next) =>
          call :: (runFrom answerer (k + 1) (next (answerer k call))).calls
      | .waits (.pausing _ next) => (runFrom answerer k next).calls
      | _ => [] := by
  induction cycle with
  | report progress next ih => exact ih
  | pause ms next => rfl
  | ask call next => rfl
  | complete annotations => rfl
  | abort cause => rfl

/-- No pause stands before the first segment that runs. -/
theorem advance_ofSegments (frame : Frame) {past : Progressed} (hbegun : past.begun = false)
    (numbered : List (Nat × Segment)) :
    (∃ annotations, (ofSegments frame past numbered).advance.2 = .completed annotations) ∨
      ∃ segment next, (ofSegments frame past numbered).advance.2 =
        .waits (.calling (callFor past.session segment) next) := by
  induction numbered with
  | nil => exact .inl ⟨past.annotations, rfl⟩
  | cons entry rest ih =>
      obtain ⟨index, segment⟩ := entry
      simp only [ofSegments, hbegun, Bool.false_and, Bool.false_eq_true, if_false]
      split
      next hblank => exact ih
      next hblank => exact .inr ⟨segment, _, rfl⟩

theorem advance_ofText (settings : Settings) (text : Text) :
    (∃ annotations, (ofText settings text).advance.2 = .completed annotations) ∨
      ∃ segment next, (ofText settings text).advance.2 =
        .waits (.calling (callFor .fresh segment) next) := by
  simp only [ofText]
  split
  next hnone => exact .inl ⟨[], rfl⟩
  next hsome => exact advance_ofSegments _ rfl _

end Cycle

namespace Evaluator

/-- The cycle of this request waits, and so has the flag. -/
def Holds (evaluator : Evaluator) (request : Nat) : Prop :=
  ∃ waiting, (request, waiting) ∈ evaluator.waiting

/-- The cycle of this request ends in a step: it is dropped, it panics or it
completes. -/
def Ends (request : Nat) (label : Label) (shown : List Event) : Prop :=
  label = .drop request ∨ .panicked request ∈ shown ∨
    ∃ annotations, .completed request annotations ∈ shown

/-- The call that an event makes. -/
def Event.call? : Event → Option Call
  | called _ call => some call
  | _ => none

/-- The event is that a request is turned away. -/
def Event.isSkipped : Event → Bool
  | skipped _ => true
  | _ => false

/-- A request starts its cycle, and starts it from nothing: its first call runs
the code of one segment and nothing before it. -/
def Admits (evaluator : Evaluator) : Prop :=
  ∀ request settings text, ∃ next shown,
    evaluator.step (.request request settings text) = some (next, shown) ∧
      (∀ event ∈ shown, event.isSkipped = false) ∧
      (∀ answerer, shown.filterMap Event.call? =
        (Cycle.run answerer (.ofText settings text)).calls.take 1) ∧
      ∀ call ∈ shown.filterMap Event.call?, call.program = call.code

/-- What holds of an evaluator at any time. -/
structure Guarded (evaluator : Evaluator) : Prop where
  single : evaluator.waiting.length ≤ 1
  evaluating_iff : evaluator.isEvaluating = true ↔ ∃ request, evaluator.Holds request
  /-- While a cycle has the flag, a request does nothing but to be turned away. -/
  turned_away : evaluator.isEvaluating = true → ∀ request settings text,
    evaluator.step (.request request settings text) = some (evaluator, [.skipped request])
  /-- Wherever a cycle waits it can go on, when its pause is over or its call is
  answered. -/
  can_go_on : ∀ request answer, evaluator.Holds request → ∃ label result,
    (label = .wake request ∨ label = .answer request answer) ∧ evaluator.step label = some result
  /-- Wherever a cycle waits it can be dropped, and it can panic. -/
  can_end : ∀ request, evaluator.Holds request →
    evaluator.step (.drop request) = some (idle, []) ∧
      evaluator.step (.panic request) = some (idle, [.panicked request])
  /-- A cycle keeps the flag until it ends, and then the next request starts. -/
  kept_until_end : ∀ request label next shown, evaluator.Holds request →
    evaluator.step label = some (next, shown) →
      next.Holds request ∧ ¬ Ends request label shown ∨
        Ends request label shown ∧ next.isEvaluating = false ∧ next.Admits
  admits : evaluator.isEvaluating = false → evaluator.Admits

/-! ## What one step does -/

/-- The cycle of this request waits, and no other one. -/
def heldBy (request : Nat) (waiting : Waiting) : Evaluator := ⟨true, [(request, waiting)]⟩

/-- The one cycle that has the flag is between two points at which it waits. -/
def running : Evaluator := ⟨true, []⟩

/-- A cycle that goes on comes to wait again, or it ends and leaves the
evaluator idle. -/
theorem goOn_running (request : Nat) (cycle : Cycle) {label : Label}
    (hlabel : label ≠ .drop request) :
    let result := running.goOn request cycle
    (∃ waiting, result.1 = heldBy request waiting) ∧ ¬ Ends request label result.2 ∨
      result.1 = idle ∧ Ends request label result.2 := by
  intro result
  simp only [result, goOn]
  cases cycle.advance.2 with
  | waits waiting =>
      refine .inl ⟨⟨waiting, rfl⟩, ?_⟩
      cases waiting <;> simp [Ends, Event.ofHalt, hlabel]
  | completed annotations => exact .inr ⟨rfl, by simp [Ends, Event.ofHalt]⟩
  | aborted cause => exact .inr ⟨rfl, by simp [Ends, Event.ofHalt]⟩

theorem isSkipped_of_mem_ofHalt {request : Nat} {halt : Halt} {event : Event}
    (hevent : event ∈ Event.ofHalt request halt) : event.isSkipped = false := by
  unfold Event.ofHalt at hevent
  split at hevent
  · cases hevent
  all_goals
    rw [List.mem_singleton.mp hevent]
    rfl

theorem isSkipped_of_mem_goOn {evaluator : Evaluator} {request : Nat} {cycle : Cycle}
    {event : Event} (hevent : event ∈ (evaluator.goOn request cycle).2) :
    event.isSkipped = false := by
  rcases List.mem_append.mp hevent with hreported | hhalt
  · obtain ⟨progress, -, rfl⟩ := List.mem_map.mp hreported
    rfl
  · exact isSkipped_of_mem_ofHalt hhalt

/-- What a cycle calls for when it goes on is what it waits for then. -/
theorem filterMap_call?_goOn (evaluator : Evaluator) (request : Nat) (cycle : Cycle) :
    (evaluator.goOn request cycle).2.filterMap Event.call? =
      (Event.ofHalt request cycle.advance.2).filterMap Event.call? := by
  have hreports : (cycle.advance.1.map (Event.reported request)).filterMap Event.call? = [] := by
    simp [Event.call?]
  rw [goOn, List.filterMap_append, hreports, List.nil_append]

/-- An idle evaluator admits any request. -/
theorem idle_admits : idle.Admits := by
  intro request settings text
  let result := running.goOn request (.ofText settings text)
  have hkept : ∀ event ∈ result.2, event.isSkipped = false := fun _ => isSkipped_of_mem_goOn
  have hcalls : result.2.filterMap Event.call? = _ := filterMap_call?_goOn running request _
  rcases Cycle.advance_ofText settings text with ⟨annotations, hhalt⟩ | ⟨segment, next, hhalt⟩
  · rw [hhalt] at hcalls
    refine ⟨result.1, result.2, rfl, hkept, ?_, ?_⟩
    · intro answerer
      rw [hcalls, Cycle.run, Cycle.calls_runFrom, hhalt]
      rfl
    · rw [hcalls]
      exact nofun
  · rw [hhalt] at hcalls
    refine ⟨result.1, result.2, rfl, hkept, ?_, ?_⟩
    · intro answerer
      rw [hcalls, Cycle.run, Cycle.calls_runFrom, hhalt]
      rfl
    · intro call hcall
      rw [hcalls] at hcall
      rw [List.mem_singleton.mp hcall]
      exact Session.program_fresh segment.code

/-- There is no other cycle to be taken than the one that waits. -/
theorem take?_heldBy_iff {request other : Nat} {waiting taken : Waiting} {others : Evaluator} :
    (heldBy request waiting).take? other = some (taken, others) ↔
      other = request ∧ taken = waiting ∧ others = running := by
  by_cases hother : other = request
  · simp [take?, heldBy, running, hother, eq_comm]
  · have hnone : [(request, waiting)].lookup other = none :=
      List.lookup_eq_none_iff.mpr (by simp [hother])
    simp [take?, heldBy, hnone, hother]

@[simp]
theorem take?_heldBy (request : Nat) (waiting : Waiting) :
    (heldBy request waiting).take? request = some (waiting, running) :=
  take?_heldBy_iff.mpr ⟨rfl, rfl, rfl⟩

theorem step_wake_heldBy (request ms : Nat) (next : Cycle) :
    (heldBy request (.pausing ms next)).step (.wake request) =
      some (running.goOn request next) := by
  simp [step]

theorem step_answer_heldBy (request : Nat) (call : Call) (next : Answer → Cycle)
    (answer : Answer) :
    (heldBy request (.calling call next)).step (.answer request answer) =
      some (running.goOn request (next answer)) := by
  simp [step]

theorem step_drop_heldBy (request : Nat) (waiting : Waiting) :
    (heldBy request waiting).step (.drop request) = some (idle, []) := by
  simp [step, running, release, idle]

theorem step_panic_heldBy (request : Nat) (waiting : Waiting) :
    (heldBy request waiting).step (.panic request) = some (idle, [.panicked request]) := by
  simp [step, running, release, idle]

/-- An idle evaluator takes no step but to start a cycle. -/
theorem step_idle {label : Label} {next : Evaluator} {shown : List Event}
    (hstep : idle.step label = some (next, shown)) :
    ∃ request settings text, label = .request request settings text ∧
      running.goOn request (.ofText settings text) = (next, shown) := by
  cases label with
  | request request settings text => exact ⟨request, settings, text, rfl, Option.some.inj hstep⟩
  | wake request => cases hstep
  | answer request answer => cases hstep
  | drop request => cases hstep
  | panic request => cases hstep

/-- The cycle that waits keeps waiting, or it ends and leaves the evaluator
idle. -/
theorem step_heldBy {request : Nat} {waiting : Waiting} {label : Label} {next : Evaluator}
    {shown : List Event} (hstep : (heldBy request waiting).step label = some (next, shown)) :
    (∃ later, next = heldBy request later) ∧ ¬ Ends request label shown ∨
      next = idle ∧ Ends request label shown := by
  cases label with
  | request other settings text =>
      rw [step_request_of_busy rfl] at hstep
      cases hstep
      exact .inl ⟨⟨waiting, rfl⟩, by simp [Ends]⟩
  | wake other =>
      simp only [step] at hstep
      split at hstep
      next ms after others htake =>
        obtain ⟨rfl, -, rfl⟩ := take?_heldBy_iff.mp htake
        cases hstep
        exact goOn_running other after (by simp)
      next => cases hstep
  | answer other answer =>
      simp only [step] at hstep
      split at hstep
      next call after others htake =>
        obtain ⟨rfl, -, rfl⟩ := take?_heldBy_iff.mp htake
        cases hstep
        exact goOn_running other (after answer) (by simp)
      next => cases hstep
  | drop other =>
      obtain ⟨⟨taken, others⟩, htake, hnext⟩ := Option.map_eq_some_iff.mp hstep
      obtain ⟨rfl, -, rfl⟩ := take?_heldBy_iff.mp htake
      cases hnext
      exact .inr ⟨rfl, .inl rfl⟩
  | panic other =>
      obtain ⟨⟨taken, others⟩, htake, hnext⟩ := Option.map_eq_some_iff.mp hstep
      obtain ⟨rfl, -, rfl⟩ := take?_heldBy_iff.mp htake
      cases hnext
      exact .inr ⟨rfl, .inr (.inl List.mem_cons_self)⟩

/-! ## What a run leads to -/

/-- The states that an evaluator comes to. -/
inductive Exclusive : Evaluator → Prop where
  | idle : Exclusive idle
  | heldBy (request : Nat) (waiting : Waiting) : Exclusive (heldBy request waiting)

variable {evaluator next : Evaluator} {label : Label} {shown events : List Event}

theorem Exclusive.step (hexclusive : Exclusive evaluator)
    (hstep : evaluator.step label = some (next, shown)) : Exclusive next := by
  cases hexclusive with
  | idle =>
      obtain ⟨request, settings, text, rfl, hnext⟩ := step_idle hstep
      have hlabel : Label.request request settings text ≠ .drop request := nofun
      have hgoOn := goOn_running request (.ofText settings text) hlabel
      rw [hnext] at hgoOn
      rcases hgoOn with ⟨⟨waiting, rfl⟩, -⟩ | ⟨rfl, -⟩
      · exact .heldBy request waiting
      · exact .idle
  | heldBy request waiting =>
      rcases step_heldBy hstep with ⟨⟨later, rfl⟩, -⟩ | ⟨rfl, -⟩
      · exact .heldBy request later
      · exact .idle

theorem Exclusive.steps (hexclusive : Exclusive evaluator) (hsteps : Steps evaluator events next) :
    Exclusive next := by
  induction hsteps with
  | nil => exact hexclusive
  | cons hstep _ ih => exact ih (hexclusive.step hstep)

theorem Exclusive.guarded (hexclusive : Exclusive evaluator) : evaluator.Guarded := by
  cases hexclusive with
  | idle =>
      exact
        { single := Nat.zero_le 1
          evaluating_iff := by simp [isEvaluating, Holds, Evaluator.idle]
          turned_away := nofun
          can_go_on := fun _ _ hholds => nomatch hholds.choose_spec
          can_end := fun _ hholds => nomatch hholds.choose_spec
          kept_until_end := fun _ _ _ _ hholds => nomatch hholds.choose_spec
          admits := fun _ => idle_admits }
  | heldBy request waiting =>
      exact
        { single := Nat.le_refl 1
          evaluating_iff := by simp [isEvaluating, Holds, Evaluator.heldBy]
          turned_away := step_request_of_busy
          can_go_on := by
            rintro holder answer ⟨_, hmem⟩
            cases List.mem_singleton.mp hmem
            cases waiting with
            | pausing ms next => exact ⟨_, _, .inl rfl, step_wake_heldBy request ms next⟩
            | calling call next =>
                exact ⟨_, _, .inr rfl, step_answer_heldBy request call next answer⟩
          can_end := by
            rintro holder ⟨_, hmem⟩
            cases List.mem_singleton.mp hmem
            exact ⟨step_drop_heldBy request waiting, step_panic_heldBy request waiting⟩
          kept_until_end := by
            rintro holder label next shown ⟨_, hmem⟩ hstep
            cases List.mem_singleton.mp hmem
            rcases step_heldBy hstep with ⟨⟨later, rfl⟩, hgoes⟩ | ⟨rfl, hends⟩
            · exact .inl ⟨⟨later, List.mem_cons_self⟩, hgoes⟩
            · exact .inr ⟨hends, rfl, idle_admits⟩
          admits := nofun }

/-- Whatever is requested, answered, dropped or panics, and in whatever order,
no two cycles run at once, and no cycle that has ended keeps another out. -/
theorem guarded_of_steps (hsteps : Steps idle events evaluator) : evaluator.Guarded :=
  (Exclusive.idle.steps hsteps).guarded

/-- A second request comes while the first one waits for its answer. -/
theorem guarded_of_steps_turned_away :
    let text := "a = 1 # ?".toList
    let segment : Segment := ⟨0, 0, text⟩
    ∃ evaluator,
      Steps idle [.reported 0 (.started 0 1 segment (some (.waiting 0))),
        .called 0 ⟨text, text, 0⟩, .skipped 1] evaluator ∧
      evaluator.Holds 0 ∧ evaluator.Guarded := by
  intro text segment
  let first := (running.goOn 0 (.ofText .default text)).1
  have hfirst : idle.step (.request 0 .default text) = some (first,
      [.reported 0 (.started 0 1 segment (some (.waiting 0))), .called 0 ⟨text, text, 0⟩]) := rfl
  have hsecond : first.step (.request 1 .default text) = some (first, [.skipped 1]) := rfl
  have hsteps := Steps.cons hfirst (Steps.cons hsecond (Steps.nil first))
  exact ⟨first, hsteps, ⟨_, List.mem_cons_self⟩, guarded_of_steps hsteps⟩

end Evaluator

end InlineEval
