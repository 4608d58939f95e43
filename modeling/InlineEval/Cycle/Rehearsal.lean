import InlineEval.Cycle.Evaluator

/-!
# Rehearsals

A rehearsal carries cycles out against a script and a virtual clock. The
script answers the calls of the interpreter by rules; a rule may take its
time, ask the same evaluator for another cycle while it runs, or panic. Time
passes only while something waits for it. Cycles run in the foreground, to
their end, or in the background while the foreground sleeps.
-/

namespace InlineEval

open Text

namespace Rehearsal

/-- A rule of the script, for calls of segments in whose code a text occurs. -/
structure Rule where
  contains : Text
  outcome : Outcome
  latency : Nat
  /-- Asks for another cycle before it answers. -/
  reenter : Bool
  /-- Panics instead of answering. -/
  panics : Bool

/-- Success without delay. -/
def Rule.silent : Rule := ⟨[], .silent, 0, false, false⟩

def Rule.answer (rule : Rule) : Answer := ⟨rule.outcome, rule.latency⟩

/-- The first rule that fits, or success without delay. -/
def ruleFor (script : List Rule) (call : Call) : Rule :=
  (script.find? fun rule => occurs rule.contains call.code).getD .silent

inductive Event where
  | told (progress : Progress)
  | called (call : Call)
  /-- The cycle that a rule asked for was skipped, or not. -/
  | reentered (skipped : Bool)
  | completed (annotations : List Annotation)
  | skipped
  | panicked
  deriving DecidableEq, Repr

/-- An event and when it happens. -/
structure Stamped where
  time : Nat
  event : Event
  deriving DecidableEq, Repr

/-- How a stretch of a cycle ends: it waits for a later time, it has
completed, or it has panicked. -/
inductive Rest where
  | sleeping (wake : Nat) (waiting : Waiting) (rule : Rule)
  | completed (time : Nat)
  | panicked (time : Nat)

def within (limit : Option Nat) (time : Nat) : Bool :=
  match limit with
  | none => true
  | some limit => time ≤ limit

/-- The stretch of a cycle up to a time, or to its end if there is no limit.
While a call runs the cycle holds the evaluator, so whatever a rule asks for
is skipped. -/
def play (script : List Rule) (limit : Option Nat) : Nat → Cycle → List Stamped × Rest
  | now, .report progress next =>
      let (events, rest) := play script limit now next
      (⟨now, .told progress⟩ :: events, rest)
  | now, .pause ms next =>
      let wake := now + ms
      if within limit wake then play script limit wake next
      else ([], .sleeping wake (.pausing ms next) .silent)
  | now, .ask call next =>
      let rule := ruleFor script call
      let wake := now + rule.latency
      let (events, rest) :=
        if rule.latency = 0 ∨ within limit wake then
          if rule.panics then ([], .panicked wake)
          else play script limit wake (next rule.answer)
        else ([], .sleeping wake (.calling call next) rule)
      let asked := if rule.reenter then [⟨now, .reentered true⟩] else []
      (⟨now, .called call⟩ :: (asked ++ events), rest)
  | now, .complete annotations => ([⟨now, .completed annotations⟩], .completed now)
  | now, .abort _ => ([], .panicked now)

/-- The stretch after a wait that is over. -/
def resume (script : List Rule) (limit : Option Nat) (now : Nat) (rule : Rule) :
    Waiting → List Stamped × Rest
  | .pausing _ next => play script limit now next
  | .calling _ next =>
      if rule.panics then ([], .panicked now)
      else play script limit now (next rule.answer)

/-- A background cycle that waits. -/
structure Sleeper where
  request : Nat
  wake : Nat
  waiting : Waiting
  rule : Rule

/-- What is done in a rehearsal. -/
inductive Step where
  /-- Runs a cycle to its end; a quiet one does not tell its progress. -/
  | evaluate (text : Text) (quiet : Bool)
  /-- Starts a cycle in the background. -/
  | start (text : Text)
  | sleep (ms : Nat)
  /-- Gives up the background cycle started last. -/
  | cancel

/-- A rehearsal between two steps. -/
structure State where
  now : Nat
  /-- The cycle that holds the evaluator. -/
  active : Option Sleeper
  /-- Requests that were started and not given up, the last one first. -/
  started : List Nat
  /-- The number of the next request. -/
  next : Nat

def State.initial : State := ⟨0, none, [], 0⟩

def State.isEvaluating (state : State) : Bool := state.active.isSome

/-- The cycle that remains active after a stretch. -/
def Rest.sleeper? (request : Nat) : Rest → Option Sleeper
  | sleeping wake waiting rule => some ⟨request, wake, waiting, rule⟩
  | _ => none

/-- Events without those of progress. -/
def hush (events : List Stamped) : List Stamped :=
  events.filter fun stamped => match stamped.event with
    | .told _ => false
    | _ => true

def step (script : List Rule) (settings : Settings) (state : State) :
    Step → State × List Stamped
  | .evaluate text quiet =>
      if state.isEvaluating then (state, [⟨state.now, .skipped⟩])
      else
        let (events, rest) := play script none state.now (.ofText settings text)
        let events := if quiet then hush events else events
        match rest with
        | .completed time => ({ state with now := time }, events)
        | .panicked time => ({ state with now := time }, events ++ [⟨time, .panicked⟩])
        | .sleeping .. => (state, events)
  | .start text =>
      let state := { state with started := state.next :: state.started, next := state.next + 1 }
      if state.isEvaluating then (state, [⟨state.now, .skipped⟩])
      else
        let (events, rest) := play script (some state.now) state.now (.ofText settings text)
        ({ state with active := rest.sleeper? (state.next - 1) }, events)
  | .sleep ms =>
      let time := state.now + ms
      match state.active with
      | none => ({ state with now := time }, [])
      | some sleeper =>
          if sleeper.wake ≤ time then
            let (events, rest) :=
              resume script (some time) sleeper.wake sleeper.rule sleeper.waiting
            ({ state with now := time, active := rest.sleeper? sleeper.request }, events)
          else ({ state with now := time }, [])
  | .cancel =>
      match state.started with
      | [] => (state, [])
      | request :: earlier =>
          let active := state.active.filter (·.request != request)
          ({ state with active, started := earlier }, [])

/-- The state after each of the steps, with the events of that step. -/
def run (script : List Rule) (settings : Settings) : State → List Step →
    List (State × List Stamped)
  | _, [] => []
  | state, first :: rest =>
      let (next, events) := step script settings state first
      (next, events) :: run script settings next rest

end Rehearsal

end InlineEval
