import InlineEval.Watch.Debouncer

/-!
# Rehearsing a debouncer

A debouncer under a virtual clock. Time passes only in sleep, and a request
that has fired may go on for some time of its own.
-/

namespace InlineEval.Watch

namespace Debouncer.Rehearsal

/-- What is done with a debouncer. A request may take its time once it has
fired. -/
inductive Step where
  | schedule (id : Nat) (takes : Option Nat)
  | cancel
  /-- The debouncer itself goes away, and the waiting request with it. -/
  | drop
  | sleep (ms : Nat)

inductive Event where
  | fired (id : Nat)
  | done (id : Nat)
  deriving DecidableEq, Repr

/-- An event and when it happens. -/
structure Stamped where
  time : Nat
  event : Event
  deriving DecidableEq, Repr

/-- A debouncer under a virtual clock, with the times at which the requests
that have fired will be done. -/
structure State where
  now : Nat
  debouncer : Option (Debouncer (Nat × Option Nat))
  running : List (Deadline Nat)

def State.initial (delay : Nat) : State := ⟨0, some (.fresh delay), []⟩

def insertByTime (stamped : Stamped) : List Stamped → List Stamped
  | [] => [stamped]
  | next :: rest =>
      if stamped.time < next.time then stamped :: next :: rest
      else next :: insertByTime stamped rest

/-- The clock goes on. The waiting request may fire, and whatever is running
may end. -/
def sleep (state : State) (ms : Nat) : State × List Stamped :=
  let time := state.now + ms
  let (fired, debouncer) := match state.debouncer with
    | none => (none, none)
    | some debouncer =>
        let (fired, next) := debouncer.advance time
        (fired, some next)
  let starts := fired.toList.map fun deadline =>
    (⟨deadline.time, .fired deadline.request.1⟩ : Stamped)
  let begun := fired.toList.filterMap fun deadline =>
    deadline.request.2.map fun takes =>
      (⟨deadline.time + takes, deadline.request.1⟩ : Deadline Nat)
  let running := state.running ++ begun
  let ends := (running.filter (·.time ≤ time)).map fun deadline =>
    (⟨deadline.time, .done deadline.request⟩ : Stamped)
  let events := (starts ++ ends).foldl (fun events stamped => insertByTime stamped events) []
  (⟨time, debouncer, running.filter fun deadline => time < deadline.time⟩, events)

def step (state : State) : Step → State × List Stamped
  | .schedule id takes =>
      ({ state with debouncer := state.debouncer.map (·.schedule state.now (id, takes)) }, [])
  | .cancel => ({ state with debouncer := state.debouncer.map (·.cancel) }, [])
  | .drop => ({ state with debouncer := none }, [])
  | .sleep ms => sleep state ms

/-- The state after each of the steps, with the events of that step. -/
def run : State → List Step → List (State × List Stamped)
  | _, [] => []
  | state, first :: rest =>
      let (next, events) := step state first
      (next, events) :: run next rest

end Debouncer.Rehearsal

end InlineEval.Watch
