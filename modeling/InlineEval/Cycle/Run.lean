import InlineEval.Cycle.Basic

/-!
# Runs of a cycle

A run answers every call of a cycle and waits for every pause. Answers are
given by the number of the call, counted from zero, and the call itself; this
covers interpreters that answer equal calls differently as well as those that
do not.
-/

namespace InlineEval.Cycle

/-- Anything that answers calls. -/
abbrev Answerer := Nat → Call → Answer

def Answerer.ofFunction (f : Call → Answer) : Answerer := fun _ call => f call

/-- What happens in a run. -/
inductive Event where
  | told (progress : Progress)
  | waited (ms : Nat)
  | called (call : Call) (answer : Answer)
  deriving DecidableEq, Repr

/-- All that happened in a run, and how it ended. -/
structure Run where
  events : List Event
  ending : Except InvertedRange (List Annotation)

/-- An event before all others. -/
def Run.after (event : Event) (run : Run) : Run := { run with events := event :: run.events }

def runFrom (answerer : Answerer) : Nat → Cycle → Run
  | k, .report progress next => (runFrom answerer k next).after (.told progress)
  | k, .pause ms next => (runFrom answerer k next).after (.waited ms)
  | k, .ask call next =>
      (runFrom answerer (k + 1) (next (answerer k call))).after
        (.called call (answerer k call))
  | _, .complete annotations => ⟨[], .ok annotations⟩
  | _, .abort cause => ⟨[], .error cause⟩

def run (answerer : Answerer) (cycle : Cycle) : Run := runFrom answerer 0 cycle

def Event.call? : Event → Option Call
  | called call _ => some call
  | _ => none

def Event.progress? : Event → Option Progress
  | told progress => some progress
  | _ => none

def Run.calls (run : Run) : List Call := run.events.filterMap Event.call?

def Run.reports (run : Run) : List Progress := run.events.filterMap Event.progress?

end InlineEval.Cycle
