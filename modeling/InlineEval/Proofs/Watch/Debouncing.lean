import Mathlib.Data.List.Induction
import InlineEval.Proofs.Watch.DebouncerRuns
import InlineEval.Proofs.Watch.Requests
import InlineEval.Proofs.Watch.Timers

/-! # Only the last request of a burst is carried out

What a debouncer holds is the request that waits by the steps taken so far,
and what fires is what they let fall due. Both are preserved by each step.
-/

namespace InlineEval.Watch.Debouncer.Rehearsal

/-! ## What a debouncer holds -/

/-- A debouncer holds the request that waits, if any, with its deadline. -/
structure Holds (wait : Nat) (steps : List Step) (debouncer : Debouncer Request) : Prop where
  delay_eq : debouncer.delay = wait
  pending_iff : ∀ deadline, debouncer.pending = some deadline ↔
    ∃ k, Waits wait steps k deadline.request ∧ deadline.time = due wait steps k

namespace Holds

variable {wait : Nat} {steps : List Step} {debouncer : Debouncer Request}

theorem isPending_iff (hholds : Holds wait steps debouncer) :
    debouncer.isPending = true ↔ ∃ k request, Waits wait steps k request := by
  rw [Debouncer.isPending, Option.isSome_iff_exists]
  constructor
  · rintro ⟨deadline, hdeadline⟩
    obtain ⟨k, hwaits, -⟩ := (hholds.pending_iff deadline).mp hdeadline
    exact ⟨k, deadline.request, hwaits⟩
  · rintro ⟨k, request, hwaits⟩
    exact ⟨⟨due wait steps k, request⟩, (hholds.pending_iff _).mpr ⟨k, hwaits, rfl⟩⟩

theorem schedule (hholds : Holds wait steps debouncer) (id : Nat) (takes : Option Nat) :
    Holds wait (steps ++ [.schedule id takes])
      (debouncer.schedule (clock steps) (id, takes)) where
  delay_eq := hholds.delay_eq
  pending_iff := by
    have hlast : ∀ ms, Step.schedule id takes ≠ .sleep ms := fun _ heq => nomatch heq
    have hdue : due wait (steps ++ [.schedule id takes]) steps.length =
        clock steps + debouncer.delay := by
      rw [due_concat (Nat.le_refl _), due, List.take_length, hholds.delay_eq]
    rintro ⟨time, request⟩
    constructor
    · intro hpending
      cases hpending
      exact ⟨steps.length, (waits_concat hlast).mpr ⟨rfl, rfl⟩, hdue.symm⟩
    · rintro ⟨k, hwaits, htime⟩
      obtain ⟨rfl, hschedule⟩ := (waits_concat hlast).mp hwaits
      cases hschedule
      rw [hdue] at htime
      cases htime
      rfl

theorem cancel (hholds : Holds wait steps debouncer) :
    Holds wait (steps ++ [.cancel]) debouncer.cancel where
  delay_eq := hholds.delay_eq
  pending_iff := by
    have hlast : ∀ ms, Step.cancel ≠ .sleep ms := fun _ heq => nomatch heq
    intro deadline
    constructor
    · intro hpending
      cases hpending
    · rintro ⟨k, hwaits, -⟩
      obtain ⟨-, hcancel⟩ := (waits_concat hlast).mp hwaits
      cases hcancel

theorem sleep (hholds : Holds wait steps debouncer) (ms : Nat) :
    Holds wait (steps ++ [.sleep ms])
      (debouncer.advance (clock (steps ++ [.sleep ms]))).2 where
  delay_eq := (advance_snd_delay _ _).trans hholds.delay_eq
  pending_iff := by
    intro deadline
    rw [advance_snd_pending_iff, hholds.pending_iff]
    constructor
    · rintro ⟨⟨k, hwaits, htime⟩, hlater⟩
      rw [htime] at hlater
      exact ⟨k, (waits_sleep ms).mpr ⟨hwaits, hlater⟩, htime.trans (hwaits.due_concat _).symm⟩
    · rintro ⟨k, hwaits, htime⟩
      obtain ⟨hwaits, hlater⟩ := (waits_sleep ms).mp hwaits
      rw [hwaits.due_concat] at htime
      exact ⟨⟨k, hwaits, htime⟩, htime ▸ hlater⟩

/-- What waits fires at its deadline. -/
theorem advance_eq_some_iff (hholds : Holds wait steps debouncer) (now : Nat)
    (deadline : Deadline Request) :
    (debouncer.advance now).1 = some deadline ↔
      ∃ k, Waits wait steps k deadline.request ∧ deadline.time = due wait steps k ∧
        due wait steps k ≤ now := by
  rw [advance_fst_eq_some_iff, hholds.pending_iff]
  constructor
  · rintro ⟨⟨k, hwaits, htime⟩, hcome⟩
    exact ⟨k, hwaits, htime, htime ▸ hcome⟩
  · rintro ⟨k, hwaits, htime, hcome⟩
    exact ⟨⟨k, hwaits, htime⟩, htime ▸ hcome⟩

theorem mem_endings_iff (hholds : Holds wait steps debouncer) (now time id : Nat) :
    ⟨time, id⟩ ∈ (debouncer.advance now).1.toList.filterMap ending? ↔
      ∃ k takes, Waits wait steps k (id, some takes) ∧ due wait steps k ≤ now ∧
        time = due wait steps k + takes := by
  simp only [List.mem_filterMap, Option.mem_toList, hholds.advance_eq_some_iff, ending?,
    Option.map_eq_some_iff]
  constructor
  · rintro ⟨⟨_, _, _⟩, ⟨k, hwaits, rfl, hcome⟩, takes, rfl, heq⟩
    cases heq
    exact ⟨k, takes, hwaits, hcome, rfl⟩
  · rintro ⟨k, takes, hwaits, hcome, rfl⟩
    exact ⟨⟨due wait steps k, (id, some takes)⟩, ⟨k, hwaits, rfl, hcome⟩, takes, rfl, rfl⟩

end Holds

/-! ## What has fired -/

/-- The requests that are carried out fire in the order in which they are
scheduled, each of them once and at its deadline. -/
def FireInOrder (wait : Nat) (steps : List Step) (events : List Stamped) : Prop :=
  ∃ log : List (Nat × Request), log.Pairwise (·.1 < ·.1) ∧
    (∀ k request, (k, request) ∈ log ↔ Fires wait steps k request) ∧
    fired events = log.map fun entry => ⟨due wait steps entry.1, .fired entry.2.1⟩

section Fired

variable {wait : Nat} {steps : List Step} {events : List Stamped}

/-- No step moves the deadline of what has fired. -/
theorem map_due_concat {log : List (Nat × Request)}
    (hlog : ∀ k request, (k, request) ∈ log → Fires wait steps k request) (last : Step) :
    (log.map fun entry => (⟨due wait (steps ++ [last]) entry.1, .fired entry.2.1⟩ : Stamped)) =
      log.map fun entry => ⟨due wait steps entry.1, .fired entry.2.1⟩ := by
  apply List.map_congr_left
  rintro ⟨k, request⟩ hentry
  rw [(hlog k request hentry).due_concat]

theorem FireInOrder.concat (hinOrder : FireInOrder wait steps events) {last : Step}
    (hlast : ∀ ms, last ≠ .sleep ms) : FireInOrder wait (steps ++ [last]) events := by
  obtain ⟨log, hascending, hmem, hfired⟩ := hinOrder
  refine ⟨log, hascending, fun k request => (hmem k request).trans (fires_concat hlast).symm, ?_⟩
  rw [hfired, map_due_concat fun k request => (hmem k request).mp]

/-- Whatever fires comes last, after all that has fired before. -/
theorem FireInOrder.sleep (hinOrder : FireInOrder wait steps events)
    {debouncer : Debouncer Request} (hholds : Holds wait steps debouncer) (ms : Nat)
    {stamps : List Stamped}
    (hstamps : fired stamps =
      (debouncer.advance (clock (steps ++ [.sleep ms]))).1.toList.map stamp) :
    FireInOrder wait (steps ++ [.sleep ms]) (events ++ stamps) := by
  obtain ⟨log, hascending, hmem, hfired⟩ := hinOrder
  have hlog := map_due_concat (fun k request => (hmem k request).mp) (.sleep ms)
  have hdue := hholds.advance_eq_some_iff (clock (steps ++ [.sleep ms]))
  cases hadvance : (debouncer.advance (clock (steps ++ [.sleep ms]))).1 with
  | none =>
      rw [hadvance] at hstamps hdue
      refine ⟨log, hascending, fun k request => ?_, ?_⟩
      · rw [hmem, fires_sleep, or_iff_left]
        rintro ⟨hwaits, hreached⟩
        cases (hdue ⟨due wait steps k, request⟩).mpr ⟨k, hwaits, rfl, hreached⟩
      · rw [fired_append, hstamps, hfired, hlog]
        exact List.append_nil _
  | some deadline =>
      rw [hadvance] at hstamps hdue
      obtain ⟨k, hwaits, htime, hreached⟩ := (hdue deadline).mp rfl
      refine ⟨log ++ [(k, deadline.request)], ?_, ?_, ?_⟩
      · apply List.pairwise_append.mpr
        refine ⟨hascending, List.pairwise_singleton _ _, ?_⟩
        rintro ⟨j, other⟩ hentry later hlater
        rw [List.mem_singleton.mp hlater]
        exact ((hmem j other).mp hentry).lt_of_waits hwaits
      · intro j other
        rw [List.mem_append, hmem, List.mem_singleton, fires_sleep, Prod.mk.injEq]
        refine or_congr_right ⟨?_, fun hother => hother.1.unique hwaits⟩
        rintro ⟨rfl, rfl⟩
        exact ⟨hwaits, hreached⟩
      · rw [fired_append, hstamps, hfired, List.map_append, hlog]
        simp [stamp, htime, hwaits.due_concat]

end Fired

/-! ## Every run -/

/-- What a run comes to is what its steps ask for. -/
structure Tracks (wait : Nat) (steps : List Step) (state : State) (events : List Stamped) :
    Prop where
  now_eq : state.now = clock steps
  holds : ∃ debouncer, state.debouncer = some debouncer ∧ Holds wait steps debouncer
  running : ∀ time id, ⟨time, id⟩ ∈ state.running ↔ Ends wait steps time id ∧ clock steps < time
  done : ∀ time id, ⟨time, .done id⟩ ∈ events ↔ Ends wait steps time id ∧ time ≤ clock steps
  inOrder : FireInOrder wait steps events

namespace Tracks

variable {wait : Nat} {steps : List Step} {state : State} {events : List Stamped}

/-- Without sleep nothing happens to what has fired. -/
theorem concat (htracks : Tracks wait steps state events) {last : Step}
    (hlast : ∀ ms, last ≠ .sleep ms) {debouncer : Debouncer Request}
    (hholds : Holds wait (steps ++ [last]) debouncer) :
    Tracks wait (steps ++ [last]) { state with debouncer := some debouncer } events := by
  have hstill : clock (steps ++ [last]) = clock steps := by
    rw [clock_concat]
    cases last with
    | sleep ms => exact absurd rfl (hlast ms)
    | _ => rfl
  refine ⟨?_, ⟨debouncer, rfl, hholds⟩, ?_, ?_, htracks.inOrder.concat hlast⟩
  · rw [hstill]
    exact htracks.now_eq
  · intro time id
    rw [ends_concat hlast, hstill]
    exact htracks.running time id
  · intro time id
    rw [ends_concat hlast, hstill]
    exact htracks.done time id

/-- What runs after a sleep or ends in it was running before, or fires. -/
theorem sleep (htracks : Tracks wait steps state events) (ms : Nat) :
    Tracks wait (steps ++ [.sleep ms]) (Rehearsal.sleep state ms).1
      (events ++ (Rehearsal.sleep state ms).2) := by
  obtain ⟨debouncer, hdebouncer, hholds⟩ := htracks.holds
  have hnow : state.now + ms = clock (steps ++ [.sleep ms]) := by
    rw [clock_concat, htracks.now_eq]
    rfl
  have hclock : clock steps ≤ clock (steps ++ [.sleep ms]) := by
    rw [clock_concat]
    exact Nat.le_add_right _ _
  rw [sleep_fst hdebouncer ms hnow]
  constructor
  · rfl
  · exact ⟨_, rfl, hholds.sleep ms⟩
  · intro time id
    rw [List.mem_filter, List.mem_append, htracks.running, hholds.mem_endings_iff, ends_sleep,
      decide_eq_true_iff, or_and_right, or_and_right]
    refine or_congr_left ⟨fun h => ⟨h.1.1, h.2⟩, fun h => ⟨⟨h.1, ?_⟩, h.2⟩⟩
    exact Nat.lt_of_le_of_lt hclock h.2
  · intro time id
    rw [List.mem_append, htracks.done, done_mem_sleep hdebouncer ms hnow, List.mem_append,
      htracks.running, hholds.mem_endings_iff, ends_sleep, or_and_right, or_and_right, ← or_assoc]
    refine or_congr_left ⟨?_, fun h => ?_⟩
    · rintro (⟨hends, hle⟩ | ⟨⟨hends, -⟩, hle⟩)
      · exact ⟨hends, Nat.le_trans hle hclock⟩
      · exact ⟨hends, hle⟩
    · rcases Nat.lt_or_ge (clock steps) time with hlt | hle
      · exact .inr ⟨⟨h.1, hlt⟩, h.2⟩
      · exact .inl ⟨h.1, hle⟩
  · exact htracks.inOrder.sleep hholds ms (fired_sleep hdebouncer ms hnow)

end Tracks

/-- Nothing has been asked for, so nothing waits and nothing fires. -/
theorem tracks_nil (delay : Nat) : Tracks delay [] (State.initial delay) [] := by
  have hnone : ∀ {k request}, ¬ Scheduled [] k request := by
    intro k request hscheduled
    cases hscheduled.lt_length
  have hends : ∀ time id, ¬ Ends delay [] time id := by
    rintro time id ⟨k, takes, hfires, -⟩
    exact hnone hfires.scheduled
  refine ⟨rfl, ⟨_, rfl, rfl, fun deadline => ?_⟩, fun time id => ?_, fun time id => ?_, [],
    List.Pairwise.nil, fun k request => ?_, rfl⟩
  · refine iff_of_false (fun hpending => nomatch hpending) ?_
    rintro ⟨k, hwaits, -⟩
    exact hnone hwaits.scheduled
  · exact iff_of_false List.not_mem_nil fun h => hends time id h.1
  · exact iff_of_false List.not_mem_nil fun h => hends time id h.1
  · exact iff_of_false List.not_mem_nil fun hfires => hnone hfires.scheduled

/-- By induction on the steps from the end, as long as the debouncer is not
dropped. -/
theorem tracks (delay : Nat) {steps : List Step} (hkept : .drop ∉ steps) :
    Tracks delay steps ((State.initial delay).after steps) ((State.initial delay).events steps) := by
  induction steps using List.reverseRecOn with
  | nil => exact tracks_nil delay
  | append_singleton steps last ih =>
      rw [List.mem_append, List.mem_singleton, not_or] at hkept
      have htracks := ih hkept.1
      obtain ⟨debouncer, hdebouncer, hholds⟩ := htracks.holds
      rw [State.after_concat, State.events_concat]
      cases last with
      | schedule id takes =>
          have hholds := hholds.schedule id takes
          rw [← htracks.now_eq] at hholds
          simp only [step, hdebouncer, Option.map_some, List.append_nil]
          exact htracks.concat (by simp) hholds
      | cancel =>
          simp only [step, hdebouncer, Option.map_some, List.append_nil]
          exact htracks.concat (by simp) hholds.cancel
      | drop => exact absurd rfl hkept.2
      | sleep ms => exact htracks.sleep ms

/-- The timers of a run hold the same deadline as its debouncer, and the same
requests fire. -/
theorem timers_serve (delay : Nat) {steps : List Step} (hkept : .drop ∉ steps) :
    ∃ debouncer, ((State.initial delay).after steps).debouncer = some debouncer ∧
      (Timers.run delay steps).Serve debouncer ∧
      (Timers.run delay steps).now = ((State.initial delay).after steps).now ∧
      (Timers.run delay steps).fired.map stamp = fired ((State.initial delay).events steps) := by
  induction steps using List.reverseRecOn with
  | nil => exact ⟨_, rfl, Timers.serve_fresh _, rfl, rfl⟩
  | append_singleton steps last ih =>
      rw [List.mem_append, List.mem_singleton, not_or] at hkept
      obtain ⟨debouncer, hdebouncer, hserve, hnow, hfired⟩ := ih hkept.1
      have hrun : Timers.run delay (steps ++ [last]) = (Timers.run delay steps).step last := by
        simp [Timers.run]
      rw [hrun, State.after_concat, State.events_concat]
      cases last with
      | schedule id takes =>
          simp only [step, Timers.step, hdebouncer, Option.map_some, List.append_nil, ← hnow]
          exact ⟨_, rfl, hserve.schedule (id, takes), Timers.cancel_now _,
            (congrArg (List.map stamp) (Timers.cancel_fired _)).trans hfired⟩
      | cancel =>
          simp only [step, Timers.step, hdebouncer, Option.map_some, List.append_nil]
          refine ⟨_, rfl, hserve.cancel, (Timers.cancel_now _).trans hnow, ?_⟩
          rw [Timers.cancel_fired, hfired]
      | drop => exact absurd rfl hkept.2
      | sleep ms =>
          obtain ⟨hserve, hgone⟩ := hserve.sleep ms
          rw [hnow] at hserve hgone
          simp only [step, Timers.step]
          rw [sleep_fst hdebouncer ms rfl]
          refine ⟨_, rfl, hserve, ?_, ?_⟩
          · rw [Timers.sleep, hnow]
          · rw [hgone, List.map_append, hfired, fired_append, fired_sleep hdebouncer ms rfl]

/-- Of all the requests those fire, in order, each once and at its deadline,
whose deadline a sleep reaches before anything else is asked for. They go on to
their end whatever is asked for then. Something is pending as long as the last
request has neither fired nor been given up, and there is never more than one
timer. No step takes back what has happened before. -/
theorem requests_debounced (delay : Nat) {steps : List Step} (hkept : .drop ∉ steps) :
    let state := (State.initial delay).after steps
    let events := (State.initial delay).events steps
    let timers := Timers.run delay steps
    FireInOrder delay steps events ∧
      (∀ time id, ⟨time, .done id⟩ ∈ events ↔ Ends delay steps time id ∧ time ≤ clock steps) ∧
      (state.isPending = true ↔ ∃ k request, Waits delay steps k request) ∧
      (timers.alive.length ≤ 1 ∧ timers.isPending = state.isPending ∧
        timers.fired.map stamp = fired events) ∧
      ∀ more, events <+: (State.initial delay).events (steps ++ more) := by
  intro state events timers
  have htracks : Tracks delay steps state events := tracks delay hkept
  refine ⟨htracks.inOrder, htracks.done, ?_, ?_, ?_⟩
  · obtain ⟨debouncer, hdebouncer, hholds⟩ := htracks.holds
    rw [State.isPending, hdebouncer]
    exact hholds.isPending_iff
  · obtain ⟨debouncer, hdebouncer, hserve, -, hfired⟩ := timers_serve delay hkept
    refine ⟨hserve.length_alive_le, ?_, hfired⟩
    rw [State.isPending, hdebouncer]
    exact hserve.isPending_eq
  · intro more
    rw [State.events_append]
    exact List.prefix_append _ _

/-- The first request is replaced, the second fires and takes its time, the
third is given up, and the fourth waits. -/
theorem requests_debounced_burst :
    let steps : List Step := [.schedule 0 none, .sleep 100, .schedule 1 (some 1000), .sleep 400,
      .schedule 2 none, .cancel, .sleep 1000, .schedule 3 none]
    .drop ∉ steps ∧ FireInOrder 300 steps [⟨400, .fired 1⟩, ⟨1400, .done 1⟩] ∧
      Ends 300 steps 1400 1 ∧ (∃ k request, Waits 300 steps k request) ∧
      (Timers.run 300 steps).alive.length ≤ 1 ∧ (Timers.run 300 steps).isPending = true := by
  intro steps
  have hkept : .drop ∉ steps := by simp [steps]
  have hevents : (State.initial 300).events steps = [⟨400, .fired 1⟩, ⟨1400, .done 1⟩] := by decide
  have hpending : ((State.initial 300).after steps).isPending = true := by decide
  obtain ⟨hinOrder, hdone, hwaits, ⟨hone, htimers, -⟩, -⟩ := requests_debounced 300 hkept
  rw [hevents] at hinOrder hdone
  refine ⟨hkept, hinOrder, ?_, hwaits.mp hpending, hone, htimers.trans hpending⟩
  exact ((hdone 1400 1).mp (by decide)).1

end InlineEval.Watch.Debouncer.Rehearsal
