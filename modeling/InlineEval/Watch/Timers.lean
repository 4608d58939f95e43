import InlineEval.Watch.DebouncerRehearsal

/-!
# The timers behind a debouncer

A debouncer has no deadline of its own. It starts a timer for each request and
keeps the timer's handle. A timer that is replaced has to be aborted through
the handle; one that has gone off leaves its handle behind.
-/

namespace InlineEval.Watch

/-- A timer that has been started, and has neither gone off nor been aborted. -/
structure Timer (α : Type) where
  handle : Nat
  deadline : Deadline α
  deriving DecidableEq, Repr

/-- The timers that have been started for a debouncer. -/
structure Timers (α : Type) where
  delay : Nat
  now : Nat
  /-- How many have been started. The next one gets this for its handle. -/
  started : Nat
  alive : List (Timer α)
  /-- The handle of the last timer, unless it has been given up. -/
  kept : Option Nat
  /-- What has gone off, in this order. -/
  fired : List (Deadline α)
  deriving DecidableEq, Repr

namespace Timers

variable {α : Type}

/-- No timer has been started. -/
def fresh (delay : Nat) : Timers α := ⟨delay, 0, 0, [], none, []⟩

/-- A timer that is no longer there cannot be aborted. -/
def abort (timers : Timers α) (handle : Nat) : Timers α :=
  { timers with alive := timers.alive.filter (·.handle != handle) }

/-- The handle is taken, and its timer aborted. -/
def cancel (timers : Timers α) : Timers α :=
  match timers.kept with
  | some handle => { timers.abort handle with kept := none }
  | none => timers

/-- One more timer is started, and its handle kept. -/
def start (timers : Timers α) (request : α) : Timers α :=
  { timers with
    started := timers.started + 1
    alive := timers.alive ++ [⟨timers.started, ⟨timers.now + timers.delay, request⟩⟩]
    kept := some timers.started }

def schedule (timers : Timers α) (request : α) : Timers α := timers.cancel.start request

/-- The clock goes on, and every timer goes off whose deadline has come. -/
def sleep (timers : Timers α) (ms : Nat) : Timers α :=
  let time := timers.now + ms
  { timers with
    now := time
    alive := timers.alive.filter (time < ·.deadline.time)
    fired := timers.fired ++ (timers.alive.map (·.deadline)).filter (·.time ≤ time) }

/-- The timer of the handle has not ended. -/
def isPending (timers : Timers α) : Bool :=
  timers.kept.any fun handle => timers.alive.any (·.handle == handle)

open Debouncer.Rehearsal in
def step (timers : Timers (Nat × Option Nat)) : Step → Timers (Nat × Option Nat)
  | .schedule id takes => timers.schedule (id, takes)
  | .cancel => timers.cancel
  | .drop => timers.cancel
  | .sleep ms => timers.sleep ms

/-- The timers after some steps. -/
def run (delay : Nat) (steps : List Debouncer.Rehearsal.Step) : Timers (Nat × Option Nat) :=
  steps.foldl step (fresh delay)

end Timers

end InlineEval.Watch
