import InlineEval.Cycle.Basic

/-!
# One cycle at a time

An evaluator carries out one cycle at a time. It has a flag, which a request
takes before its cycle starts; a request that finds the flag taken is turned
away. The cycle keeps the flag while it waits, for a pause to end or for the
answer to a call, and gives it back when it ends, by itself, by being dropped
or by a panic.

The evaluator is a transition system: a step is what happens between two
points at which a cycle waits. Nothing but the flag keeps several cycles from
waiting at the same time.
-/

namespace InlineEval

/-- A cycle at a point where it waits. -/
inductive Waiting where
  | pausing (ms : Nat) (next : Cycle)
  | calling (call : Call) (next : Answer → Cycle)

/-- What a cycle comes to when it goes on: it waits, or it has ended. -/
inductive Halt where
  | waits (waiting : Waiting)
  | completed (annotations : List Annotation)
  | aborted (cause : InvertedRange)

/-- Runs a cycle to the next point where it waits or ends; on its way it only
reports. -/
def Cycle.advance : Cycle → List Progress × Halt
  | .report progress next =>
      let (reports, halt) := advance next
      (progress :: reports, halt)
  | .pause ms next => ([], .waits (.pausing ms next))
  | .ask call next => ([], .waits (.calling call next))
  | .complete annotations => ([], .completed annotations)
  | .abort cause => ([], .aborted cause)

/-- The flag of an evaluator, and the cycles that wait, each with the request
that it is for. -/
structure Evaluator where
  taken : Bool
  waiting : List (Nat × Waiting)

namespace Evaluator

/-- What can be seen of an evaluator; requests are told apart by a number. -/
inductive Event where
  | reported (request : Nat) (progress : Progress)
  | called (request : Nat) (call : Call)
  | completed (request : Nat) (annotations : List Annotation)
  | panicked (request : Nat)
  /-- The request was turned away. -/
  | skipped (request : Nat)
  deriving DecidableEq, Repr

/-- What can happen to an evaluator. -/
inductive Label where
  | request (request : Nat) (settings : Settings) (text : Text)
  /-- The pause of the cycle is over. -/
  | wake (request : Nat)
  /-- The call of the cycle is answered. -/
  | answer (request : Nat) (answer : Answer)
  /-- The cycle is given up where it waits. -/
  | drop (request : Nat)
  /-- The cycle panics where it waits. -/
  | panic (request : Nat)

/-- No cycle runs. -/
def idle : Evaluator := ⟨false, []⟩

/-- Some cycle runs. -/
def isEvaluating (evaluator : Evaluator) : Bool := evaluator.taken

/-- Takes the flag, if it is free. -/
def acquire (evaluator : Evaluator) : Option Evaluator :=
  if evaluator.taken then none else some { evaluator with taken := true }

/-- Gives the flag back. -/
def release (evaluator : Evaluator) : Evaluator := { evaluator with taken := false }

/-- A cycle that has the flag waits, or it gives the flag back with its end. -/
def settle (evaluator : Evaluator) (request : Nat) : Halt → Evaluator
  | .waits waiting => { evaluator with waiting := (request, waiting) :: evaluator.waiting }
  | .completed _ => evaluator.release
  | .aborted _ => evaluator.release

/-- What can be seen of a cycle that waits or ends. -/
def Event.ofHalt (request : Nat) : Halt → List Event
  | .waits (.pausing _ _) => []
  | .waits (.calling call _) => [called request call]
  | .completed annotations => [completed request annotations]
  | .aborted _ => [panicked request]

/-- A cycle that has the flag goes on, to the next point where it waits or to
its end. -/
def goOn (evaluator : Evaluator) (request : Nat) (cycle : Cycle) : Evaluator × List Event :=
  let (reports, halt) := cycle.advance
  (evaluator.settle request halt, reports.map (Event.reported request) ++ Event.ofHalt request halt)

/-- Takes the cycle of a request from where it waits, and leaves the others. -/
def take? (evaluator : Evaluator) (request : Nat) : Option (Waiting × Evaluator) :=
  (evaluator.waiting.lookup request).map fun waiting =>
    (waiting,
      { evaluator with waiting := evaluator.waiting.eraseP fun entry => entry.1 == request })

def step (evaluator : Evaluator) : Label → Option (Evaluator × List Event)
  | .request request settings text =>
      match evaluator.acquire with
      | some held => some (held.goOn request (.ofText settings text))
      | none => some (evaluator, [.skipped request])
  | .wake request =>
      match evaluator.take? request with
      | some (.pausing _ next, others) => some (others.goOn request next)
      | _ => none
  | .answer request answer =>
      match evaluator.take? request with
      | some (.calling _ next, others) => some (others.goOn request (next answer))
      | _ => none
  | .drop request =>
      (evaluator.take? request).map fun (_, others) => (others.release, [])
  | .panic request =>
      (evaluator.take? request).map fun (_, others) => (others.release, [.panicked request])

/-- A sequence of steps leads from one state to another, and shows these
events. -/
inductive Steps : Evaluator → List Event → Evaluator → Prop where
  | nil (evaluator : Evaluator) : Steps evaluator [] evaluator
  | cons {evaluator next last : Evaluator} {label : Label} {shown events : List Event} :
      evaluator.step label = some (next, shown) → Steps next events last →
        Steps evaluator (shown ++ events) last

/-- A request that finds the flag taken changes nothing. -/
theorem step_request_of_busy {evaluator : Evaluator} (hbusy : evaluator.isEvaluating = true)
    (request : Nat) (settings : Settings) (text : Text) :
    evaluator.step (.request request settings text) = some (evaluator, [.skipped request]) := by
  have htaken : evaluator.taken = true := hbusy
  simp [step, acquire, htaken]

end Evaluator

end InlineEval
