import InlineEval.Proofs.Watch.DebouncerRuns

/-! # What the steps of a rehearsal ask for

Whether a request is carried out can be read off the steps alone: nothing but
sleep may follow it, until a sleep that reaches its deadline. For each of the
facts about some steps there is one about those steps and one more.
-/

namespace InlineEval.Watch.Debouncer.Rehearsal

/-! ## Time -/

/-- The milliseconds that a step takes. -/
def Step.elapsed : Step → Nat
  | .sleep ms => ms
  | _ => 0

/-- The time after some steps. -/
def clock (steps : List Step) : Nat := steps.foldl (fun time step => time + step.elapsed) 0

theorem clock_concat (steps : List Step) (last : Step) :
    clock (steps ++ [last]) = clock steps + last.elapsed := by
  simp [clock]

theorem clock_take_concat {steps : List Step} {k : Nat} (hk : k ≤ steps.length) (last : Step) :
    clock ((steps ++ [last]).take k) = clock (steps.take k) := by
  rw [List.take_append_of_le_length hk]

/-! ## What steps ask for -/

/-- The step at `k` schedules a request. -/
def Scheduled (steps : List Step) (k : Nat) (request : Request) : Prop :=
  steps[k]? = some (.schedule request.1 request.2)

/-- There is nothing but sleep between the steps at `k` and `m`. -/
def Undisturbed (steps : List Step) (k m : Nat) : Prop :=
  ∀ j, k < j → j < m → ∃ ms, steps[j]? = some (.sleep ms)

/-- The deadline of what the step at `k` schedules. -/
def due (wait : Nat) (steps : List Step) (k : Nat) : Nat := clock (steps.take k) + wait

/-- A sleep reaches the deadline of what the step at `k` schedules, and nothing
else is asked for before. -/
def FallsDue (wait : Nat) (steps : List Step) (k : Nat) : Prop :=
  ∃ m ms, k < m ∧ steps[m]? = some (.sleep ms) ∧ Undisturbed steps k m ∧
    due wait steps k ≤ clock (steps.take (m + 1))

/-- The step at `k` schedules a request that is carried out. -/
structure Fires (wait : Nat) (steps : List Step) (k : Nat) (request : Request) : Prop where
  scheduled : Scheduled steps k request
  fallsDue : FallsDue wait steps k

/-- The step at `k` schedules a request that still waits: it is the last one,
it has not been given up, and it has not been carried out. -/
structure Waits (wait : Nat) (steps : List Step) (k : Nat) (request : Request) : Prop where
  scheduled : Scheduled steps k request
  undisturbed : Undisturbed steps k steps.length
  not_fallsDue : ¬ FallsDue wait steps k

/-- A request that has fired and takes its time ends at a given time. -/
def Ends (wait : Nat) (steps : List Step) (time id : Nat) : Prop :=
  ∃ k takes, Fires wait steps k (id, some takes) ∧ time = due wait steps k + takes

theorem getElem?_concat_eq_some_iff (steps : List Step) (last step : Step) (k : Nat) :
    (steps ++ [last])[k]? = some step ↔ steps[k]? = some step ∨ k = steps.length ∧ last = step := by
  rcases Nat.lt_trichotomy k steps.length with hk | rfl | hk
  · rw [List.getElem?_append_left hk, or_iff_left]
    exact fun h => Nat.ne_of_lt hk h.1
  · simp
  · have hlength : (steps ++ [last]).length ≤ k := by simpa using Nat.succ_le_of_lt hk
    rw [List.getElem?_eq_none hlength, List.getElem?_eq_none (Nat.le_of_lt hk)]
    simp [Nat.ne_of_gt hk]

section Steps

variable {wait k m : Nat} {steps : List Step} {request : Request}

theorem Scheduled.lt_length (hscheduled : Scheduled steps k request) : k < steps.length :=
  (List.getElem?_eq_some_iff.mp hscheduled).1

theorem scheduled_concat_of_lt (hk : k < steps.length) (last : Step) :
    Scheduled (steps ++ [last]) k request ↔ Scheduled steps k request := by
  unfold Scheduled
  rw [List.getElem?_append_left hk]

theorem scheduled_concat (last : Step) :
    Scheduled (steps ++ [last]) k request ↔
      Scheduled steps k request ∨ k = steps.length ∧ last = .schedule request.1 request.2 :=
  getElem?_concat_eq_some_iff steps last _ k

theorem undisturbed_concat_of_le (hm : m ≤ steps.length) (last : Step) :
    Undisturbed (steps ++ [last]) k m ↔ Undisturbed steps k m := by
  refine forall_congr' fun j => forall_congr' fun _ => forall_congr' fun hj => ?_
  rw [List.getElem?_append_left (Nat.lt_of_lt_of_le hj hm)]

theorem undisturbed_concat (hk : k < steps.length) (last : Step) :
    Undisturbed (steps ++ [last]) k (steps ++ [last]).length ↔
      Undisturbed steps k steps.length ∧ ∃ ms, last = .sleep ms := by
  rw [← undisturbed_concat_of_le (Nat.le_refl steps.length) last, List.length_append,
    List.length_singleton]
  constructor
  · intro hall
    refine ⟨fun j hkj hj => hall j hkj (Nat.lt_succ_of_lt hj), ?_⟩
    obtain ⟨ms, hms⟩ := hall steps.length hk (Nat.lt_succ_self _)
    rw [List.getElem?_concat_length] at hms
    exact ⟨ms, Option.some_inj.mp hms⟩
  · rintro ⟨hall, ms, rfl⟩ j hkj hj
    rcases Nat.lt_succ_iff_lt_or_eq.mp hj with hlt | rfl
    · exact hall j hkj hlt
    · exact ⟨ms, List.getElem?_concat_length⟩

theorem due_concat (hk : k ≤ steps.length) (last : Step) :
    due wait (steps ++ [last]) k = due wait steps k := by
  rw [due, clock_take_concat hk, due]

/-- The last step carries out what waits if it is a sleep that reaches the
deadline. -/
theorem fallsDue_concat (hk : k < steps.length) (last : Step) :
    FallsDue wait (steps ++ [last]) k ↔
      FallsDue wait steps k ∨
        (Undisturbed steps k steps.length ∧ (∃ ms, last = .sleep ms) ∧
          due wait steps k ≤ clock (steps ++ [last])) := by
  constructor
  · rintro ⟨m, ms, hkm, hsleep, hundisturbed, hdue⟩
    rw [due_concat (Nat.le_of_lt hk)] at hdue
    rcases (getElem?_concat_eq_some_iff steps last _ m).mp hsleep with hsleep | ⟨rfl, rfl⟩
    · have hm := (List.getElem?_eq_some_iff.mp hsleep).1
      rw [undisturbed_concat_of_le (Nat.le_of_lt hm)] at hundisturbed
      rw [clock_take_concat hm] at hdue
      exact .inl ⟨m, ms, hkm, hsleep, hundisturbed, hdue⟩
    · rw [undisturbed_concat_of_le (Nat.le_refl _)] at hundisturbed
      rw [List.take_of_length_le (by simp)] at hdue
      exact .inr ⟨hundisturbed, ⟨ms, rfl⟩, hdue⟩
  · rintro (⟨m, ms, hkm, hsleep, hundisturbed, hdue⟩ | ⟨hundisturbed, ⟨ms, rfl⟩, hdue⟩)
    · have hm := (List.getElem?_eq_some_iff.mp hsleep).1
      refine ⟨m, ms, hkm, ?_, ?_, ?_⟩
      · rwa [List.getElem?_append_left hm]
      · rwa [undisturbed_concat_of_le (Nat.le_of_lt hm)]
      · rwa [due_concat (Nat.le_of_lt hk), clock_take_concat hm]
    · refine ⟨steps.length, ms, hk, List.getElem?_concat_length, ?_, ?_⟩
      · rwa [undisturbed_concat_of_le (Nat.le_refl _)]
      · rwa [due_concat (Nat.le_of_lt hk), List.take_of_length_le (by simp)]

theorem FallsDue.lt_length (hdue : FallsDue wait steps k) : k + 1 < steps.length := by
  obtain ⟨m, ms, hkm, hsleep, -, -⟩ := hdue
  have hm := (List.getElem?_eq_some_iff.mp hsleep).1
  omega

theorem Undisturbed.not_scheduled (hundisturbed : Undisturbed steps k steps.length) {j : Nat}
    (hj : k < j) : ¬ Scheduled steps j request := by
  intro hscheduled
  obtain ⟨ms, hms⟩ := hundisturbed j hj hscheduled.lt_length
  cases hms.symm.trans hscheduled

/-- What fires has been asked for before what waits. -/
theorem Fires.lt_of_waits {j : Nat} {other : Request} (hfires : Fires wait steps j other)
    (hwaits : Waits wait steps k request) : j < k := by
  apply Nat.lt_of_not_le
  intro hle
  rcases Nat.lt_or_eq_of_le hle with hlt | rfl
  · exact hwaits.undisturbed.not_scheduled hlt hfires.scheduled
  · exact hwaits.not_fallsDue hfires.fallsDue

theorem Waits.unique {j : Nat} {other : Request} (hother : Waits wait steps j other)
    (hwaits : Waits wait steps k request) : j = k ∧ other = request := by
  rcases Nat.lt_trichotomy j k with hlt | rfl | hlt
  · exact absurd hwaits.scheduled (hother.undisturbed.not_scheduled hlt)
  · have heq := hother.scheduled.symm.trans hwaits.scheduled
    rw [Option.some_inj, Step.schedule.injEq] at heq
    exact ⟨rfl, Prod.ext heq.1 heq.2⟩
  · exact absurd hother.scheduled (hwaits.undisturbed.not_scheduled hlt)

/-! ## One more step -/

/-- Nothing fires but in sleep. -/
theorem fires_concat {last : Step} (hlast : ∀ ms, last ≠ .sleep ms) :
    Fires wait (steps ++ [last]) k request ↔ Fires wait steps k request := by
  constructor
  · rintro ⟨hscheduled, hdue⟩
    have hk : k < steps.length := by simpa using hdue.lt_length
    refine ⟨(scheduled_concat_of_lt hk last).mp hscheduled, ?_⟩
    rcases (fallsDue_concat hk last).mp hdue with hbefore | ⟨-, ⟨ms, hms⟩, -⟩
    · exact hbefore
    · exact absurd hms (hlast ms)
  · rintro ⟨hscheduled, hdue⟩
    have hk := hscheduled.lt_length
    exact ⟨(scheduled_concat_of_lt hk last).mpr hscheduled, (fallsDue_concat hk last).mpr (.inl hdue)⟩

theorem fires_sleep (ms : Nat) :
    Fires wait (steps ++ [.sleep ms]) k request ↔
      Fires wait steps k request ∨
        Waits wait steps k request ∧ due wait steps k ≤ clock (steps ++ [.sleep ms]) := by
  constructor
  · rintro ⟨hscheduled, hdue⟩
    have hk : k < steps.length := by simpa using hdue.lt_length
    rw [scheduled_concat_of_lt hk] at hscheduled
    by_cases hbefore : FallsDue wait steps k
    · exact .inl ⟨hscheduled, hbefore⟩
    · rcases (fallsDue_concat hk _).mp hdue with hdue | ⟨hundisturbed, -, hreached⟩
      · exact absurd hdue hbefore
      · exact .inr ⟨⟨hscheduled, hundisturbed, hbefore⟩, hreached⟩
  · rintro (⟨hscheduled, hdue⟩ | ⟨⟨hscheduled, hundisturbed, -⟩, hreached⟩)
    · have hk := hscheduled.lt_length
      exact ⟨(scheduled_concat_of_lt hk _).mpr hscheduled, (fallsDue_concat hk _).mpr (.inl hdue)⟩
    · have hk := hscheduled.lt_length
      exact ⟨(scheduled_concat_of_lt hk _).mpr hscheduled,
        (fallsDue_concat hk _).mpr (.inr ⟨hundisturbed, ⟨ms, rfl⟩, hreached⟩)⟩

/-- After any step but sleep, only what that step schedules waits. -/
theorem waits_concat {last : Step} (hlast : ∀ ms, last ≠ .sleep ms) :
    Waits wait (steps ++ [last]) k request ↔
      k = steps.length ∧ last = .schedule request.1 request.2 := by
  constructor
  · rintro ⟨hscheduled, hundisturbed, -⟩
    rcases (scheduled_concat last).mp hscheduled with hbefore | hnew
    · obtain ⟨-, ms, hms⟩ := (undisturbed_concat hbefore.lt_length last).mp hundisturbed
      exact absurd hms (hlast ms)
    · exact hnew
  · rintro ⟨rfl, hschedule⟩
    refine ⟨(scheduled_concat last).mpr (.inr ⟨rfl, hschedule⟩), ?_, ?_⟩
    · intro j hj hlt
      rw [List.length_append, List.length_singleton] at hlt
      omega
    · intro hdue
      simpa using hdue.lt_length

theorem waits_sleep (ms : Nat) :
    Waits wait (steps ++ [.sleep ms]) k request ↔
      Waits wait steps k request ∧ clock (steps ++ [.sleep ms]) < due wait steps k := by
  constructor
  · rintro ⟨hscheduled, hundisturbed, hnot⟩
    rcases (scheduled_concat _).mp hscheduled with hbefore | ⟨-, hschedule⟩
    · have hk := hbefore.lt_length
      obtain ⟨hundisturbed, -⟩ := (undisturbed_concat hk _).mp hundisturbed
      rw [fallsDue_concat hk, not_or] at hnot
      refine ⟨⟨hbefore, hundisturbed, hnot.1⟩, Nat.lt_of_not_le fun hreached => ?_⟩
      exact hnot.2 ⟨hundisturbed, ⟨ms, rfl⟩, hreached⟩
    · cases hschedule
  · rintro ⟨⟨hscheduled, hundisturbed, hnot⟩, hlater⟩
    have hk := hscheduled.lt_length
    refine ⟨(scheduled_concat_of_lt hk _).mpr hscheduled,
      (undisturbed_concat hk _).mpr ⟨hundisturbed, ms, rfl⟩, ?_⟩
    rintro hdue
    rcases (fallsDue_concat hk _).mp hdue with hdue | ⟨-, -, hreached⟩
    · exact hnot hdue
    · exact Nat.not_le_of_lt hlater hreached

theorem Fires.due_concat (hfires : Fires wait steps k request) (last : Step) :
    due wait (steps ++ [last]) k = due wait steps k :=
  Rehearsal.due_concat (Nat.le_of_lt hfires.scheduled.lt_length) last

theorem Waits.due_concat (hwaits : Waits wait steps k request) (last : Step) :
    due wait (steps ++ [last]) k = due wait steps k :=
  Rehearsal.due_concat (Nat.le_of_lt hwaits.scheduled.lt_length) last

theorem ends_concat {last : Step} (hlast : ∀ ms, last ≠ .sleep ms) (time id : Nat) :
    Ends wait (steps ++ [last]) time id ↔ Ends wait steps time id := by
  refine exists_congr fun k => exists_congr fun takes => ?_
  rw [fires_concat hlast]
  refine and_congr_right fun hfires => ?_
  rw [hfires.due_concat]

theorem ends_sleep (ms time id : Nat) :
    Ends wait (steps ++ [.sleep ms]) time id ↔
      Ends wait steps time id ∨ ∃ k takes, Waits wait steps k (id, some takes) ∧
        due wait steps k ≤ clock (steps ++ [.sleep ms]) ∧
        time = due wait steps k + takes := by
  constructor
  · rintro ⟨k, takes, hfires, htime⟩
    rcases (fires_sleep ms).mp hfires with hbefore | ⟨hwaits, hdue⟩
    · rw [hbefore.due_concat] at htime
      exact .inl ⟨k, takes, hbefore, htime⟩
    · rw [hwaits.due_concat] at htime
      exact .inr ⟨k, takes, hwaits, hdue, htime⟩
  · rintro (⟨k, takes, hfires, htime⟩ | ⟨k, takes, hwaits, hdue, htime⟩)
    · refine ⟨k, takes, (fires_sleep ms).mpr (.inl hfires), ?_⟩
      rwa [hfires.due_concat]
    · refine ⟨k, takes, (fires_sleep ms).mpr (.inr ⟨hwaits, hdue⟩), ?_⟩
      rwa [hwaits.due_concat]

end Steps

end InlineEval.Watch.Debouncer.Rehearsal
