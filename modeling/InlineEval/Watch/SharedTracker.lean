import InlineEval.Watch.Tracker

/-!
# A tracker and the handles on its flag

Whether the last content still needs a cycle is kept in a flag, outside the
tracker. The tracker hands out handles on the flag, and handles are copied.
Whoever holds one marks the content through it, with no word to the tracker.
-/

namespace InlineEval.Watch

/-- A tracker, with all the flags and handles there are. A flag is known by its
place, and so is a handle. -/
structure SharedTracker where
  last : Option Text
  flags : List Bool
  /-- The flag of the tracker. -/
  own : Nat
  own_lt : own < flags.length
  /-- The flag behind each handle. Handles are never taken back. -/
  handles : List Nat
  deriving DecidableEq, Repr

namespace SharedTracker

/-- Nothing has been seen, and nobody has a handle. -/
def fresh : SharedTracker := ⟨none, [false], 0, Nat.zero_lt_one, []⟩

/-- The tracker, as it would be if its flag were part of it. -/
def tracker (shared : SharedTracker) : Tracker :=
  ⟨shared.last, shared.flags.get ⟨shared.own, shared.own_lt⟩⟩

/-- A flag gets a value. -/
def setFlag (shared : SharedTracker) (flag : Nat) (value : Bool) : SharedTracker :=
  { shared with
    flags := shared.flags.set flag value
    own_lt := by simpa only [List.length_set] using shared.own_lt }

/-- The flag of the tracker is read and lowered, at once. -/
def take (shared : SharedTracker) : Bool × SharedTracker :=
  (shared.tracker.stale, shared.setFlag shared.own false)

/-- The rest of a poll, which knows of the flag only what has been read. -/
def compare (shared : SharedTracker) (stale : Bool) (text : Text) :
    Option Change × SharedTracker :=
  let (change, tracker) := (Tracker.mk shared.last stale).poll text
  (change, { shared with last := tracker.last })

/-- The content is looked at. -/
def poll (shared : SharedTracker) (text : Text) : Option Change × SharedTracker :=
  let (stale, taken) := shared.take
  taken.compare stale text

/-- The tracker hands out a handle on its flag. -/
def give (shared : SharedTracker) : SharedTracker :=
  { shared with handles := shared.handles ++ [shared.own] }

/-- There is one more handle on the flag behind a handle. -/
def copy (shared : SharedTracker) (handle : Nat) : SharedTracker :=
  { shared with handles := shared.handles ++ shared.handles[handle]?.toList }

/-- There is a handle on a flag that has nothing to do with the tracker. -/
def make (shared : SharedTracker) : SharedTracker :=
  { shared with
    flags := shared.flags ++ [false]
    own_lt := by
      rw [List.length_append]
      exact Nat.lt_add_right _ shared.own_lt
    handles := shared.handles ++ [shared.flags.length] }

/-- The flag behind a handle is raised. -/
def mark (shared : SharedTracker) (handle : Nat) : SharedTracker :=
  match shared.handles[handle]? with
  | some flag => shared.setFlag flag true
  | none => shared

/-- What happens to a tracker, its flag and the handles on it. -/
inductive Action where
  | poll (text : Text)
  | give
  | copy (handle : Nat)
  | make
  | mark (handle : Nat)
  deriving DecidableEq, Repr

def next (shared : SharedTracker) : Action → SharedTracker
  | .poll text => (shared.poll text).2
  | .give => shared.give
  | .copy handle => shared.copy handle
  | .make => shared.make
  | .mark handle => shared.mark handle

/-- What a sequence of actions leaves of a fresh tracker. -/
def after (history : List Action) : SharedTracker := history.foldl next fresh

end SharedTracker

end InlineEval.Watch
