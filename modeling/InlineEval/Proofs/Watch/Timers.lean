import InlineEval.Watch.Timers

/-! # The timers of a debouncer

Of the timers that are started for a debouncer at most one is there at any
time, and it is the one whose handle is kept. What goes off, and whether
something is pending, can therefore be told from a single deadline.
-/

namespace InlineEval.Watch.Timers

variable {α : Type}

/-- The timers hold the deadline that a debouncer holds, and no timer is there
whose handle is not kept. -/
structure Serve (timers : Timers α) (debouncer : Debouncer α) : Prop where
  delay_eq : timers.delay = debouncer.delay
  alive_eq : timers.alive.map Timer.deadline = debouncer.pending.toList
  kept_eq : ∀ timer ∈ timers.alive, timers.kept = some timer.handle

@[simp]
theorem cancel_delay (timers : Timers α) : timers.cancel.delay = timers.delay := by
  unfold cancel
  split <;> rfl

@[simp]
theorem cancel_now (timers : Timers α) : timers.cancel.now = timers.now := by
  unfold cancel
  split <;> rfl

@[simp]
theorem cancel_fired (timers : Timers α) : timers.cancel.fired = timers.fired := by
  unfold cancel
  split <;> rfl

theorem serve_fresh (delay : Nat) : (fresh delay : Timers α).Serve (.fresh delay) where
  delay_eq := rfl
  alive_eq := rfl
  kept_eq := fun _ htimer => absurd htimer List.not_mem_nil

namespace Serve

variable {timers : Timers α} {debouncer : Debouncer α}

/-- There is no timer, or the one for the deadline. -/
theorem alive_cases (hserve : timers.Serve debouncer) :
    (debouncer.pending = none ∧ timers.alive = []) ∨
      ∃ handle deadline, debouncer.pending = some deadline ∧
        timers.alive = [⟨handle, deadline⟩] ∧ timers.kept = some handle := by
  have halive := hserve.alive_eq
  cases hpending : debouncer.pending with
  | none =>
      rw [hpending] at halive
      exact .inl ⟨rfl, List.map_eq_nil_iff.mp halive⟩
  | some deadline =>
      rw [hpending] at halive
      obtain ⟨timer, htimer, rfl⟩ := List.map_eq_singleton_iff.mp halive
      refine .inr ⟨timer.handle, timer.deadline, rfl, htimer, hserve.kept_eq timer ?_⟩
      rw [htimer]
      exact List.mem_singleton_self timer

theorem length_alive_le (hserve : timers.Serve debouncer) : timers.alive.length ≤ 1 := by
  obtain ⟨-, halive⟩ | ⟨handle, deadline, -, halive, -⟩ := hserve.alive_cases <;> simp [halive]

theorem isPending_eq (hserve : timers.Serve debouncer) :
    timers.isPending = debouncer.isPending := by
  obtain ⟨hpending, halive⟩ | ⟨handle, deadline, hpending, halive, hkept⟩ := hserve.alive_cases
  · simp [Timers.isPending, Debouncer.isPending, hpending, halive]
  · simp [Timers.isPending, Debouncer.isPending, hpending, halive, hkept]

/-- Once the last timer has been given up there is none. -/
theorem alive_cancel (hserve : timers.Serve debouncer) : timers.cancel.alive = [] := by
  obtain ⟨-, halive⟩ | ⟨handle, deadline, -, halive, hkept⟩ := hserve.alive_cases
  · unfold Timers.cancel
    split <;> simp [abort, halive]
  · simp [Timers.cancel, abort, halive, hkept]

theorem cancel (hserve : timers.Serve debouncer) : timers.cancel.Serve debouncer.cancel where
  delay_eq := (cancel_delay timers).trans hserve.delay_eq
  alive_eq := by
    rw [hserve.alive_cancel]
    rfl
  kept_eq := by
    intro timer htimer
    rw [hserve.alive_cancel] at htimer
    cases htimer

theorem schedule (hserve : timers.Serve debouncer) (request : α) :
    (timers.schedule request).Serve (debouncer.schedule timers.now request) := by
  have halive : (timers.schedule request).alive =
      [⟨timers.cancel.started, ⟨timers.now + debouncer.delay, request⟩⟩] := by
    simp [Timers.schedule, start, hserve.alive_cancel, hserve.delay_eq]
  constructor
  · exact (cancel_delay timers).trans hserve.delay_eq
  · rw [halive]
    rfl
  · intro timer htimer
    rw [halive] at htimer
    rw [List.mem_singleton.mp htimer]
    rfl

/-- What goes off is what the debouncer lets go of. -/
theorem sleep (hserve : timers.Serve debouncer) (ms : Nat) :
    (timers.sleep ms).Serve (debouncer.advance (timers.now + ms)).2 ∧
      (timers.sleep ms).fired =
        timers.fired ++ (debouncer.advance (timers.now + ms)).1.toList := by
  obtain ⟨hpending, halive⟩ | ⟨handle, deadline, hpending, halive, hkept⟩ := hserve.alive_cases
  · refine ⟨⟨?_, ?_, ?_⟩, ?_⟩ <;>
      simp [Timers.sleep, Debouncer.advance, hpending, halive, hserve.delay_eq]
  · by_cases hdue : deadline.time ≤ timers.now + ms
    · refine ⟨⟨?_, ?_, ?_⟩, ?_⟩ <;>
        simp [Timers.sleep, Debouncer.advance, Debouncer.cancel, hpending, halive, hdue,
          hserve.delay_eq]
    · have hlater := Nat.lt_of_not_le hdue
      refine ⟨⟨?_, ?_, ?_⟩, ?_⟩ <;>
        simp [Timers.sleep, Debouncer.advance, hpending, halive, hkept, hdue, hlater,
          hserve.delay_eq]

end Serve

end InlineEval.Watch.Timers
