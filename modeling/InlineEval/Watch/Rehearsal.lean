import InlineEval.Host.Scripted
import InlineEval.Program
import InlineEval.Watch.Loop

/-!
# Rehearsing a watched file

The watch loop on a scripted host and a virtual clock. The file is polled at
fixed intervals. It is edited from outside, and after each edit the rehearsal
goes on until something is seen or some time has passed. Of all orders in
which the loop may take its steps, this is the one in which nothing takes time
but sleeping, timers and the interpreters.
-/

namespace InlineEval.Watch.Rehearsal

open Text Scripted

/-- The milliseconds between two polls. -/
def pollInterval : Nat := 200

/-- What the rehearsal waits for after an edit. -/
inductive Until where
  /-- The new content has been evaluated and printed. -/
  | output
  /-- The next interpreter has been started. -/
  | running
  /-- A quarter of a second has passed. -/
  | quiet

/-- The milliseconds of a quiet wait. -/
def quietTime : Nat := 250

/-- The file gets a new content, or goes away. -/
structure Edit where
  content : Option Text
  waitUntil : Until

/-- The settings of a rehearsal. -/
structure Frame where
  settings : Settings
  json : Bool

/-- The cycle that runs, and when its wait is over. -/
structure Sleeper where
  wake : Nat
  text : Text
  cycle : Cycle

structure State where
  now : Nat
  /-- The time of the next poll. -/
  nextPoll : Nat
  content : Option Text
  loop : Loop
  sleeper : Option Sleeper
  world : World

/-- How a stretch of a cycle ends. -/
inductive Rest where
  | sleeping (wake : Nat) (cycle : Cycle)
  | completed (annotations : List Annotation)
  | aborted

/-- The stretch of a cycle up to its next wait that takes time. -/
def play (settings : Settings) (now : Nat) : World → Cycle → World × Rest
  | world, .report progress next =>
      let ((), world) := (host.tell progress).run world
      play settings now world next
  | world, .pause ms next => (world, .sleeping (now + ms) next)
  | world, .ask call next =>
      let (answer, world) := (host.answer settings call).run world
      if answer.elapsed = 0 then play settings now world (next answer)
      else (world, .sleeping (now + answer.elapsed) (next answer))
  | world, .complete annotations => (world, .completed annotations)
  | world, .abort _ => (world, .aborted)

def State.take (state : State) (label : Loop.Label) : State :=
  { state with loop := (state.loop.step label).getD state.loop }

/-- The cycle that runs goes on; if it completes, its annotations are printed. -/
def goOn (frame : Frame) (state : State) (text : Text) (cycle : Cycle) : State :=
  let (world, rest) := play frame.settings state.now state.world cycle
  match rest with
  | .sleeping wake cycle => { state with world, sleeper := some ⟨wake, text, cycle⟩ }
  | .completed annotations =>
      let printed := Program.present frame.json host.terminals.output text annotations
      { state with world := { world with output := world.output ++ printed }, sleeper := none }.take
        .finish
  | .aborted => { state with world, sleeper := none }.take .finish

def startSpawned (frame : Frame) (state : State) : State :=
  state.loop.spawned.foldl (fun state text =>
    if state.loop.running.isSome then state.take .start
    else goOn frame (state.take .start) text (.ofText frame.settings text)) state

def State.nextTime (state : State) : Nat :=
  let timers := (state.sleeper.map (·.wake)).toList ++
    (state.loop.debouncer.pending.map (·.time)).toList
  timers.foldl min state.nextPoll

/-- The clock goes on to a time at which a wait ends, a timer fires or the
file is polled. -/
def tick (frame : Frame) (time : Nat) (state : State) : State :=
  let state := { state with now := max state.now time }
  let state := match state.sleeper with
    | some sleeper =>
        if sleeper.wake ≤ state.now then goOn frame state sleeper.text sleeper.cycle else state
    | none => state
  let state := match state.loop.debouncer.pending with
    | some deadline => if deadline.time ≤ state.now then state.take .fire else state
    | none => state
  let state := startSpawned frame state
  if state.nextPoll ≤ state.now then
    let state := { state with nextPoll := state.nextPoll + pollInterval }
    match state.content with
    | some text => startSpawned frame (state.take (.poll state.now text))
    | none => state
  else state

/-- What has been seen when a wait begins. -/
structure Seen where
  time : Nat
  output : Nat
  payloads : Nat

def State.seen (state : State) : Seen :=
  ⟨state.now, state.world.output.length, state.world.payloads.length⟩

/-- What a wait is for has come. -/
def isOver (seen : Seen) (state : State) : Until → Bool
  | .output =>
      seen.output < state.world.output.length && state.loop.completed == state.content
  | .running => seen.payloads < state.world.payloads.length
  | .quiet => seen.time + quietTime ≤ state.now

/-- Lets the clock run until a wait is over, or patience is. -/
def waitFor (frame : Frame) (seen : Seen) (goal : Until) : Nat → State → State
  | 0, state => state
  | patience + 1, state =>
      if isOver seen state goal then state
      else
        let time := match goal with
          | .quiet => min state.nextTime (seen.time + quietTime)
          | _ => state.nextTime
        waitFor frame seen goal patience (tick frame time state)

/-- The number of events that a wait lasts at most. -/
def patience : Nat := 10000

def edit (frame : Frame) (state : State) (edit : Edit) : State :=
  waitFor frame state.seen edit.waitUntil patience { state with content := edit.content }

/-- The world after a sequence of edits; the first one is made before the
program starts. -/
def run (settings : Settings) (json : Bool) (world : World) (edits : List Edit) : World :=
  (edits.foldl (edit ⟨settings, json⟩)
    ⟨0, 0, none, .initial settings.debounce, none, world⟩).world

end InlineEval.Watch.Rehearsal
