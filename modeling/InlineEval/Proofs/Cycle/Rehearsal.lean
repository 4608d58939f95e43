import InlineEval.Cycle.Rehearsal
import InlineEval.Proofs.Cycle.Exclusion

/-! # Rehearsals are runs of the evaluator

A rehearsal plays a cycle in stretches, each over many points at which the
cycle waits. Stretches expand into steps of the evaluator, and what a rehearsal
records is what these steps show. So what holds of an evaluator at any time
holds of it in every rehearsal.
-/

namespace InlineEval.Rehearsal

open Evaluator (Steps heldBy running)

/-- The evaluator while this cycle sleeps, or none. -/
def evaluatorOf : Option Sleeper → Evaluator
  | none => .idle
  | some sleeper => heldBy sleeper.request sleeper.waiting

def State.evaluator (state : State) : Evaluator := evaluatorOf state.active

theorem State.isEvaluating_evaluator (state : State) :
    state.evaluator.isEvaluating = state.isEvaluating := by
  obtain ⟨now, active, started, next⟩ := state
  cases active <;> rfl

/-- How a rehearsal records what can be seen of an evaluator. -/
def Event.ofEvaluator : Evaluator.Event → Event
  | .reported _ progress => told progress
  | .called _ call => called call
  | .completed _ annotations => completed annotations
  | .panicked _ => panicked
  | .skipped _ => skipped

/-- A cycle that a rule asked for is recorded in a way of its own. -/
def Event.plain : Event → Event
  | reentered true => skipped
  | event => event

/-- What a stretch records, and its panic if it ends in one. -/
def recorded (stretch : List Stamped × Rest) : List Event :=
  stretch.1.map (fun stamped => stamped.event.plain) ++
    match stretch.2 with
    | .panicked _ => [.panicked]
    | _ => []

/-- The stretch of a request is what the evaluator comes to by some steps, after
it has shown some events already. -/
def Expands (request : Nat) (start : Evaluator × List Evaluator.Event)
    (stretch : List Stamped × Rest) : Prop :=
  ∃ events, Steps start.1 events (evaluatorOf (stretch.2.sleeper? request)) ∧
    recorded stretch = (start.2 ++ events).map Event.ofEvaluator

namespace Expands

variable {request : Nat} {evaluator : Evaluator} {start : Evaluator × List Evaluator.Event}
  {stretch : List Stamped × Rest}

theorem step {label : Evaluator.Label} (hstep : evaluator.step label = some start)
    (hexpands : Expands request start stretch) : Expands request (evaluator, []) stretch := by
  obtain ⟨events, hsteps, hrecorded⟩ := hexpands
  exact ⟨start.2 ++ events, .cons hstep hsteps, hrecorded⟩

/-- What is shown before is recorded before. -/
theorem after (shown : List Evaluator.Event) (before : List Stamped)
    (hbefore : before.map (fun stamped => stamped.event.plain) = shown.map Event.ofEvaluator)
    (hexpands : Expands request start stretch) :
    Expands request (start.1, shown ++ start.2) (before ++ stretch.1, stretch.2) := by
  obtain ⟨events, hsteps, hrecorded⟩ := hexpands
  refine ⟨events, hsteps, ?_⟩
  rw [recorded] at hrecorded
  simp only [recorded, List.map_append, hbefore, List.append_assoc, hrecorded]

end Expands

/-- The cycle behind a wait, by the answer if it waits for one. -/
def afterWait (answer : Answer) : Waiting → Cycle
  | .pausing _ next => next
  | .calling _ next => next answer

/-- When a wait is over the cycle goes on, or it panics. -/
theorem resume_expands (script : List Rule) (limit : Option Nat) (request now : Nat) (rule : Rule)
    (waiting : Waiting)
    (hplay : Expands request (running.goOn request (afterWait rule.answer waiting))
      (play script limit now (afterWait rule.answer waiting))) :
    Expands request (heldBy request waiting, []) (resume script limit now rule waiting) := by
  cases waiting with
  | pausing ms next => exact hplay.step (Evaluator.step_wake_heldBy request ms next)
  | calling call next =>
      simp only [resume]
      split
      next hpanics =>
        exact .step (Evaluator.step_panic_heldBy request _) ⟨[], .nil _, rfl⟩
      next => exact hplay.step (Evaluator.step_answer_heldBy request call next rule.answer)

/-- A stretch starts where its cycle goes on. -/
theorem play_expands (script : List Rule) (limit : Option Nat) (request now : Nat)
    (cycle : Cycle) :
    Expands request (running.goOn request cycle) (play script limit now cycle) := by
  induction cycle generalizing now with
  | report progress next ih =>
      exact (ih now).after [.reported request progress] [⟨now, .told progress⟩] rfl
  | pause ms next ih =>
      simp only [play]
      split
      next hwithin =>
        exact resume_expands script limit request _ .silent (.pausing ms next) (ih _)
      next hbeyond => exact ⟨[], .nil _, rfl⟩
  | ask call next ih =>
      let rule := ruleFor script call
      let wake := now + rule.latency
      let held := heldBy request (.calling call next)
      let stretch : List Stamped × Rest :=
        if rule.latency = 0 ∨ within limit wake = true then
          resume script limit wake rule (.calling call next)
        else ([], .sleeping wake (.calling call next) rule)
      have hrest : Expands request (held, []) stretch := by
        simp only [stretch]
        split
        next hover =>
          exact resume_expands script limit request wake rule (.calling call next) (ih _ wake)
        next hbeyond => exact ⟨[], .nil _, rfl⟩
      have hasked : Expands request (held, [])
          ((if rule.reenter = true then [⟨now, .reentered true⟩] else []) ++ stretch.1,
            stretch.2) := by
        split
        next hreenter =>
          have hrefused : held.step (.request (request + 1) .default []) =
              some (held, [.skipped (request + 1)]) := Evaluator.step_request_of_busy rfl _ _ _
          exact (hrest.after [.skipped (request + 1)] [⟨now, .reentered true⟩] rfl).step hrefused
        next => exact hrest
      exact hasked.after [.called request call] [⟨now, .called call⟩] rfl
  | complete annotations => exact ⟨[], .nil _, rfl⟩
  | abort cause => exact ⟨[], .nil _, rfl⟩

/-! ## Steps of a rehearsal -/

/-- Without a limit a stretch goes on to the end of its cycle. -/
theorem sleeper?_play_none (script : List Rule) (request now : Nat) (cycle : Cycle) :
    (play script none now cycle).2.sleeper? request = none := by
  induction cycle generalizing now with
  | report progress next ih => exact ih now
  | pause ms next ih => exact ih _
  | ask call next ih =>
      simp only [play, within, or_true, if_true]
      split
      next hpanics => rfl
      next => exact ih _ _
  | complete annotations => rfl
  | abort cause => rfl

/-- A panic is recorded only behind a stretch, not inside it. -/
theorem ne_panicked_of_mem_play (script : List Rule) (limit : Option Nat) (now : Nat)
    (cycle : Cycle) :
    ∀ stamped ∈ (play script limit now cycle).1, stamped.event.plain ≠ .panicked := by
  induction cycle generalizing now with
  | report progress next ih =>
      simp only [play, List.forall_mem_cons]
      exact ⟨nofun, ih now⟩
  | pause ms next ih =>
      simp only [play]
      split
      next hwithin => exact ih _
      next hbeyond => exact List.forall_mem_nil _
  | ask call next ih =>
      simp only [play, List.forall_mem_cons, List.forall_mem_append]
      refine ⟨nofun, ?_, ?_⟩
      · split <;> simp [Event.plain]
      · split
        next hover =>
          split
          next hpanics => exact List.forall_mem_nil _
          next => exact ih _ _
        next hbeyond => exact List.forall_mem_nil _
  | complete annotations => simp [play, Event.plain]
  | abort cause => exact List.forall_mem_nil _

theorem ne_panicked_of_mem_resume (script : List Rule) (limit : Option Nat) (now : Nat)
    (rule : Rule) (waiting : Waiting) :
    ∀ stamped ∈ (resume script limit now rule waiting).1, stamped.event.plain ≠ .panicked := by
  cases waiting with
  | pausing ms next => exact ne_panicked_of_mem_play script limit now next
  | calling call next =>
      simp only [resume]
      split
      next hpanics => exact List.forall_mem_nil _
      next => exact ne_panicked_of_mem_play script limit now (next rule.answer)

/-- What a step of a rehearsal records of what can be seen. A quiet cycle does
not tell its progress, and in the background a panic goes unnoticed. -/
def Step.records : Step → Event → Bool
  | .evaluate _ quiet, .told _ => !quiet
  | .evaluate _ _, _ => true
  | _, event => event != .panicked

/-- A step of a rehearsal is a run of its evaluator. -/
def Step.IsRun (action : Step) (state : State) (result : State × List Stamped) : Prop :=
  ∃ events, Steps state.evaluator events result.1.evaluator ∧
    result.2.map (fun stamped => stamped.event.plain) =
      (events.map Event.ofEvaluator).filter action.records

theorem map_plain_hush (text : Text) (quiet : Bool) (events : List Stamped) :
    (if quiet = true then hush events else events).map (fun stamped => stamped.event.plain) =
      (events.map fun stamped => stamped.event.plain).filter
        (Step.evaluate text quiet).records := by
  cases quiet with
  | false =>
      refine (List.filter_eq_self.mpr fun event _ => ?_).symm
      cases event <;> rfl
  | true =>
      simp only [if_true, hush, List.filter_map]
      congr 1
      apply List.filter_congr
      rintro ⟨time, event⟩ -
      rcases event with _ | _ | ⟨_ | _⟩ | _ <;> rfl

/-- In the background a stretch records what is seen of it, but for its panic. -/
theorem Expands.map_plain {request : Nat} {start : Evaluator × List Evaluator.Event}
    {stretch : List Stamped × Rest} (hexpands : Expands request start stretch)
    (hpanicked : ∀ stamped ∈ stretch.1, stamped.event.plain ≠ .panicked) :
    ∃ events, Steps start.1 events (evaluatorOf (stretch.2.sleeper? request)) ∧
      stretch.1.map (fun stamped => stamped.event.plain) =
        ((start.2 ++ events).map Event.ofEvaluator).filter (· != .panicked) := by
  obtain ⟨events, hsteps, hrecorded⟩ := hexpands
  refine ⟨events, hsteps, ?_⟩
  rw [← hrecorded, recorded, List.filter_append]
  have hkept : (stretch.1.map fun stamped => stamped.event.plain).filter (· != .panicked) =
      stretch.1.map fun stamped => stamped.event.plain := by
    apply List.filter_eq_self.mpr
    intro event hevent
    obtain ⟨stamped, hstamped, rfl⟩ := List.mem_map.mp hevent
    exact bne_iff_ne.mpr (hpanicked stamped hstamped)
  rw [hkept]
  cases stretch.2 with
  | sleeping wake waiting rule => simp
  | completed time => simp
  | panicked time => simp

variable (script : List Rule) (settings : Settings) (state : State)

theorem evaluate_isRun (text : Text) (quiet : Bool) :
    (Step.evaluate text quiet).IsRun state (step script settings state (.evaluate text quiet)) := by
  obtain ⟨now, active, started, next⟩ := state
  cases active with
  | some sleeper =>
      have hskipped : (heldBy sleeper.request sleeper.waiting).step (.request 0 settings text) =
          some (_, [.skipped 0]) := Evaluator.step_request_of_busy rfl 0 settings text
      exact ⟨[.skipped 0], .cons hskipped (.nil _), rfl⟩
  | none =>
      have hrequest : Evaluator.idle.step (.request 0 settings text) =
          some (running.goOn 0 (.ofText settings text)) := rfl
      have hexpands := (play_expands script none 0 now (.ofText settings text)).step hrequest
      have hended := sleeper?_play_none script 0 now (.ofText settings text)
      rcases hplay : play script none now (.ofText settings text) with ⟨stamped, rest⟩
      rw [hplay] at hexpands hended
      obtain ⟨events, hsteps, hrecorded⟩ := hexpands
      simp only [hended] at hsteps
      simp only [recorded, List.nil_append] at hrecorded
      cases rest with
      | sleeping wake waiting rule => cases hended
      | completed time =>
          have hresult : step script settings ⟨now, none, started, next⟩ (.evaluate text quiet) =
              (⟨time, none, started, next⟩, if quiet = true then hush stamped else stamped) := by
            simp [step, State.isEvaluating, hplay]
          rw [hresult]
          refine ⟨events, hsteps, ?_⟩
          rw [← hrecorded, map_plain_hush text, List.append_nil]
      | panicked time =>
          have hresult : step script settings ⟨now, none, started, next⟩ (.evaluate text quiet) =
              (⟨time, none, started, next⟩,
                (if quiet = true then hush stamped else stamped) ++ [⟨time, .panicked⟩]) := by
            simp [step, State.isEvaluating, hplay]
          rw [hresult]
          refine ⟨events, hsteps, ?_⟩
          rw [← hrecorded, List.map_append, map_plain_hush text, List.filter_append]
          rfl

theorem start_isRun (text : Text) :
    (Step.start text).IsRun state (step script settings state (.start text)) := by
  obtain ⟨now, active, started, next⟩ := state
  cases active with
  | some sleeper =>
      have hskipped : (heldBy sleeper.request sleeper.waiting).step (.request next settings text) =
          some (_, [.skipped next]) := Evaluator.step_request_of_busy rfl next settings text
      exact ⟨[.skipped next], .cons hskipped (.nil _), rfl⟩
  | none =>
      have hexpands := play_expands script (some now) next now (.ofText settings text)
      obtain ⟨events, hsteps, hplain⟩ :=
        hexpands.map_plain (ne_panicked_of_mem_play script (some now) now _)
      have hrequest : Evaluator.idle.step (.request next settings text) =
          some (running.goOn next (.ofText settings text)) := rfl
      exact ⟨_, .cons hrequest hsteps, hplain⟩

theorem sleep_isRun (ms : Nat) :
    (Step.sleep ms).IsRun state (step script settings state (.sleep ms)) := by
  obtain ⟨now, active, started, next⟩ := state
  cases active with
  | none => exact ⟨[], .nil _, rfl⟩
  | some sleeper =>
      simp only [step]
      split
      next hwakes =>
        have hexpands := resume_expands script (some (now + ms)) sleeper.request
          sleeper.wake sleeper.rule sleeper.waiting
          (play_expands script _ sleeper.request sleeper.wake _)
        exact hexpands.map_plain
          (ne_panicked_of_mem_resume script _ sleeper.wake sleeper.rule sleeper.waiting)
      next hsleeps => exact ⟨[], .nil _, rfl⟩

/-- The cycle that is given up is dropped, if it still waits. -/
theorem cancel_isRun : Step.cancel.IsRun state (step script settings state .cancel) := by
  obtain ⟨now, active, started, next⟩ := state
  cases started with
  | nil => exact ⟨[], .nil _, rfl⟩
  | cons request earlier =>
      cases active with
      | none => exact ⟨[], .nil _, rfl⟩
      | some sleeper =>
          by_cases hrequest : sleeper.request = request
          · have hresult : step script settings ⟨now, some sleeper, request :: earlier, next⟩
                .cancel = (⟨now, none, earlier, next⟩, []) := by
              simp [step, Option.filter, hrequest]
            rw [hresult]
            exact ⟨[], .cons (Evaluator.step_drop_heldBy sleeper.request _) (.nil _), rfl⟩
          · have hresult : step script settings ⟨now, some sleeper, request :: earlier, next⟩
                .cancel = (⟨now, some sleeper, earlier, next⟩, []) := by
              simp [step, Option.filter, hrequest]
            rw [hresult]
            exact ⟨[], .nil _, rfl⟩

theorem step_isRun (action : Step) : action.IsRun state (step script settings state action) := by
  cases action with
  | evaluate text quiet => exact evaluate_isRun script settings state text quiet
  | start text => exact start_isRun script settings state text
  | sleep ms => exact sleep_isRun script settings state ms
  | cancel => exact cancel_isRun script settings state

theorem exclusive_of_mem_run (actions : List Step)
    (hexclusive : Evaluator.Exclusive state.evaluator) :
    ∀ entry ∈ run script settings state actions, Evaluator.Exclusive entry.1.evaluator := by
  induction actions generalizing state with
  | nil => exact List.forall_mem_nil _
  | cons action rest ih =>
      obtain ⟨events, hsteps, -⟩ := step_isRun script settings state action
      rcases hresult : step script settings state action with ⟨next, recorded⟩
      rw [hresult] at hsteps
      have hnext : Evaluator.Exclusive next.evaluator := hexclusive.steps hsteps
      simp only [run, hresult, List.forall_mem_cons]
      exact ⟨hnext, ih next hnext⟩

/-- However a rehearsal goes, each of its states is guarded, and tells the flag
of its evaluator. -/
theorem guarded_of_mem_run (actions : List Step) :
    ∀ entry ∈ run script settings .initial actions,
      entry.1.evaluator.Guarded ∧ entry.1.evaluator.isEvaluating = entry.1.isEvaluating := by
  intro entry hentry
  have hexclusive := exclusive_of_mem_run script settings .initial actions .idle entry hentry
  exact ⟨hexclusive.guarded, entry.1.isEvaluating_evaluator⟩

end InlineEval.Rehearsal
