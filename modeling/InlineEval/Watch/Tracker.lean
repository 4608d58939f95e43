import InlineEval.Text.Basic

/-!
# Tracking changes

The tracker remembers the content that was seen last and hands out a content
only if it is another one, or if somebody found that the last one still needs
to be evaluated. Several marks between two polls are as good as one.
-/

namespace InlineEval.Watch

/-- Content that needs a cycle. -/
structure Change where
  text : Text
  /-- It is the first content ever seen. -/
  first : Bool
  deriving DecidableEq, Repr

/-- The content of the last poll, and whether it still needs a cycle. -/
structure Tracker where
  last : Option Text
  stale : Bool
  deriving DecidableEq, Repr

namespace Tracker

/-- Nothing has been seen. -/
def fresh : Tracker := ⟨none, false⟩

/-- The last content still needs a cycle. -/
def mark (tracker : Tracker) : Tracker := { tracker with stale := true }

/-- The content is looked at. -/
def poll (tracker : Tracker) (text : Text) : Option Change × Tracker :=
  if !tracker.stale && tracker.last == some text then (none, { tracker with stale := false })
  else (some ⟨text, tracker.last.isNone⟩, ⟨some text, false⟩)

@[simp]
theorem poll_last (tracker : Tracker) (text : Text) : (tracker.poll text).2.last = some text := by
  unfold poll
  split
  next h =>
    simp only [Bool.and_eq_true, beq_iff_eq] at h
    exact h.2
  next => rfl

@[simp]
theorem poll_stale (tracker : Tracker) (text : Text) : (tracker.poll text).2.stale = false := by
  unfold poll
  split <;> rfl

/-- What happens to a tracker. -/
inductive Action where
  | poll (text : Text)
  | mark
  deriving DecidableEq, Repr

/-- What an action gives: the change that a poll hands out, if any. -/
inductive Reply where
  | polled (change : Option Change)
  | marked
  deriving DecidableEq, Repr

def act (tracker : Tracker) : Action → Reply × Tracker
  | .poll text =>
      let (change, next) := tracker.poll text
      (.polled change, next)
  | .mark => (.marked, tracker.mark)

/-- The replies to a sequence of actions. -/
def run (tracker : Tracker) : List Action → List Reply
  | [] => []
  | action :: rest => (tracker.act action).1 :: run (tracker.act action).2 rest

end Tracker

end InlineEval.Watch
