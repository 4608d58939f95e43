import InlineEval.Watch.DebouncerRehearsal

/-! # Runs of a debouncer

The state that a run ends in and all that happens in it, step by step. In a
sleep at most one request fires, however much else ends in it.
-/

namespace InlineEval.Watch.Debouncer.Rehearsal

/-- A request, and the time it takes once it has fired. -/
abbrev Request := Nat × Option Nat

/-! ## Runs -/

/-- The state after some steps. -/
def State.after (state : State) (steps : List Step) : State :=
  ((run state steps).getLast?.map Prod.fst).getD state

/-- All that happens during some steps. -/
def State.events (state : State) (steps : List Step) : List Stamped :=
  (run state steps).flatMap Prod.snd

/-- There is a debouncer, and a request waits in it. -/
def State.isPending (state : State) : Bool := state.debouncer.any (·.isPending)

def Event.isFired : Event → Bool
  | .fired _ => true
  | .done _ => false

/-- What fires among some events. -/
def fired (events : List Stamped) : List Stamped := events.filter (·.event.isFired)

theorem fired_append (events more : List Stamped) :
    fired (events ++ more) = fired events ++ fired more := List.filter_append events more

theorem run_cons (state : State) (first : Step) (rest : List Step) :
    run state (first :: rest) = step state first :: run (step state first).1 rest := rfl

theorem State.after_cons (state : State) (first : Step) (rest : List Step) :
    state.after (first :: rest) = (step state first).1.after rest := by
  unfold State.after
  rw [run_cons, List.getLast?_cons]
  cases (run (step state first).1 rest).getLast? <;> rfl

theorem run_append (state : State) (steps more : List Step) :
    run state (steps ++ more) = run state steps ++ run (state.after steps) more := by
  induction steps generalizing state with
  | nil => rfl
  | cons first rest ih =>
      rw [List.cons_append, run_cons, ih, run_cons, State.after_cons, List.cons_append]

theorem State.after_concat (state : State) (steps : List Step) (last : Step) :
    state.after (steps ++ [last]) = (step (state.after steps) last).1 := by
  rw [State.after, run_append]
  simp [run]

theorem State.events_append (state : State) (steps more : List Step) :
    state.events (steps ++ more) = state.events steps ++ (state.after steps).events more := by
  rw [State.events, run_append, List.flatMap_append]
  rfl

theorem State.events_concat (state : State) (steps : List Step) (last : Step) :
    state.events (steps ++ [last]) = state.events steps ++ (step (state.after steps) last).2 := by
  rw [State.events_append]
  simp [State.events, run]

/-! ## What a sleep does -/

/-- How a deadline that has come is told. -/
def stamp (deadline : Deadline Request) : Stamped := ⟨deadline.time, .fired deadline.request.1⟩

/-- When a request ends that has fired, if it takes its time. -/
def ending? (deadline : Deadline Request) : Option (Deadline Nat) :=
  deadline.request.2.map fun takes => ⟨deadline.time + takes, deadline.request.1⟩

theorem mem_insertByTime (stamped next : Stamped) (events : List Stamped) :
    next ∈ insertByTime stamped events ↔ next = stamped ∨ next ∈ events := by
  induction events with
  | nil => simp [insertByTime]
  | cons first rest ih =>
      unfold insertByTime
      split
      · exact List.mem_cons
      · rw [List.mem_cons, ih, List.mem_cons]
        exact or_left_comm

theorem fired_insertByTime {stamped : Stamped} (hstamped : stamped.event.isFired = false)
    (events : List Stamped) : fired (insertByTime stamped events) = fired events := by
  induction events with
  | nil => simp [insertByTime, fired, hstamped]
  | cons first rest ih =>
      unfold insertByTime
      split
      · simp [fired, hstamped]
      · unfold fired at ih ⊢
        rw [List.filter_cons, List.filter_cons, ih]

theorem mem_foldl_insertByTime (next : Stamped) (stamps events : List Stamped) :
    next ∈ stamps.foldl (fun events stamped => insertByTime stamped events) events ↔
      next ∈ stamps ∨ next ∈ events := by
  induction stamps generalizing events with
  | nil => simp
  | cons stamped rest ih =>
      rw [List.foldl_cons, ih, mem_insertByTime, List.mem_cons]
      exact or_left_comm.trans or_assoc.symm

theorem fired_foldl_insertByTime {stamps : List Stamped}
    (hstamps : ∀ stamped ∈ stamps, stamped.event.isFired = false) (events : List Stamped) :
    fired (stamps.foldl (fun events stamped => insertByTime stamped events) events) =
      fired events := by
  induction stamps generalizing events with
  | nil => rfl
  | cons stamped rest ih =>
      obtain ⟨hfirst, hrest⟩ := List.forall_mem_cons.mp hstamps
      rw [List.foldl_cons, ih hrest, fired_insertByTime hfirst]

section Sleep

variable {state : State} {debouncer : Debouncer Request}
  (hdebouncer : state.debouncer = some debouncer) (ms : Nat)
include hdebouncer

theorem sleep_fst {now : Nat} (hnow : state.now + ms = now) :
    (sleep state ms).1 = ⟨now, some (debouncer.advance now).2,
      (state.running ++ (debouncer.advance now).1.toList.filterMap ending?).filter
        (now < ·.time)⟩ := by
  simp only [sleep, hdebouncer, hnow]
  rfl

theorem done_mem_sleep {now : Nat} (hnow : state.now + ms = now) (time id : Nat) :
    ⟨time, .done id⟩ ∈ (sleep state ms).2 ↔
      ⟨time, id⟩ ∈ state.running ++ (debouncer.advance now).1.toList.filterMap ending? ∧
        time ≤ now := by
  simp only [sleep, hdebouncer, hnow]
  rw [mem_foldl_insertByTime, List.mem_append]
  constructor
  · rintro ((hstart | hend) | hnil)
    · obtain ⟨deadline, -, heq⟩ := List.mem_map.mp hstart
      cases heq
    · obtain ⟨⟨wake, request⟩, hmem, heq⟩ := List.mem_map.mp hend
      cases heq
      obtain ⟨hmem, hcome⟩ := List.mem_filter.mp hmem
      exact ⟨hmem, of_decide_eq_true hcome⟩
    · cases hnil
  · rintro ⟨hmem, hcome⟩
    exact .inl (.inr (List.mem_map.mpr
      ⟨⟨time, id⟩, List.mem_filter.mpr ⟨hmem, decide_eq_true hcome⟩, rfl⟩))

/-- At most one request fires in a sleep. -/
theorem fired_sleep {now : Nat} (hnow : state.now + ms = now) :
    fired (sleep state ms).2 = (debouncer.advance now).1.toList.map stamp := by
  simp only [sleep, hdebouncer, hnow]
  rw [List.foldl_append, fired_foldl_insertByTime]
  · cases (debouncer.advance now).1 <;> rfl
  · intro stamped hstamped
    obtain ⟨deadline, -, rfl⟩ := List.mem_map.mp hstamped
    rfl

end Sleep

end InlineEval.Watch.Debouncer.Rehearsal
