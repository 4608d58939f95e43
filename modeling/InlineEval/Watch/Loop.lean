import InlineEval.Watch.Debouncer
import InlineEval.Watch.Tracker

/-!
# The watch loop

Watching a file joins four parts: polls that look for changes, a debouncer, a
queue of tasks that have been spawned and not yet started, and the one cycle
that may run. Each step is what happens between two points at which the
program waits, and the steps may come in any order that their guards allow.
A task that starts while a cycle runs is turned away and marks the content as
stale, so that a later poll hands it out again.
-/

namespace InlineEval.Watch

/-- The state of watching; tasks and cycles are known by the content that they
evaluate. -/
structure Loop where
  tracker : Tracker
  debouncer : Debouncer Text
  /-- Tasks that have not taken their first step, in the order of spawning. -/
  spawned : List Text
  running : Option Text
  /-- What the cycle that completed last evaluated. -/
  completed : Option Text
  deriving DecidableEq, Repr

namespace Loop

/-- What can happen. -/
inductive Label where
  /-- The file is looked at and has this content. -/
  | poll (now : Nat) (text : Text)
  /-- The timer of the debouncer fires. -/
  | fire
  /-- The first of the spawned tasks takes its first step. -/
  | start
  /-- The cycle that runs completes. -/
  | finish
  deriving DecidableEq, Repr

/-- Before the first poll. -/
def initial (delay : Nat) : Loop := ⟨.fresh, .fresh delay, [], none, none⟩

/-- A poll. The first content is evaluated at once, later ones when they have
settled. -/
def poll (loop : Loop) (now : Nat) (text : Text) : Loop :=
  let (change, tracker) := loop.tracker.poll text
  match change with
  | none => { loop with tracker }
  | some change =>
      if change.first then { loop with tracker, spawned := loop.spawned ++ [change.text] }
      else { loop with tracker, debouncer := loop.debouncer.schedule now change.text }

def step (loop : Loop) : Label → Option Loop
  | .poll now text => some (loop.poll now text)
  | .fire =>
      loop.debouncer.pending.map fun deadline =>
        { loop with
          debouncer := loop.debouncer.cancel
          spawned := loop.spawned ++ [deadline.request] }
  | .start =>
      match loop.spawned with
      | [] => none
      | text :: spawned =>
          match loop.running with
          | some _ => some { loop with spawned, tracker := loop.tracker.mark }
          | none => some { loop with spawned, running := some text }
  | .finish =>
      loop.running.map fun text => { loop with running := none, completed := some text }

/-- A sequence of steps leads from one state to another. -/
inductive Steps : Loop → List Label → Loop → Prop where
  | nil (loop : Loop) : Steps loop [] loop
  | cons {loop next last : Loop} {label : Label} {labels : List Label} :
      loop.step label = some next → Steps next labels last → Steps loop (label :: labels) last

@[simp]
theorem poll_last (loop : Loop) (now : Nat) (text : Text) :
    (loop.poll now text).tracker.last = some text := by
  have h := Tracker.poll_last loop.tracker text
  rcases hpoll : loop.tracker.poll text with ⟨change, tracker⟩
  rw [hpoll] at h
  cases change with
  | none => simpa [poll, hpoll] using h
  | some change => cases hfirst : change.first <;> simpa [poll, hpoll, hfirst] using h

end Loop

end InlineEval.Watch
