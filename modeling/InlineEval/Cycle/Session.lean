import InlineEval.Outcome.Basic
import InlineEval.Segment.Basic

/-!
# Sessions

A segment is run as the last part of a program that repeats all segments
before it that succeeded. The session remembers those for the time of one
cycle.
-/

namespace InlineEval

open Text

/-- The code of the segments that succeeded, in their order. -/
structure Session where
  committed : List Text
  deriving DecidableEq, Repr

namespace Session

/-- No segment has succeeded yet. -/
def fresh : Session := ⟨[]⟩

/-- The program that runs some code after everything that succeeded. -/
def program (session : Session) (code : Text) : Text := joinLines (session.committed ++ [code])

/-- Some code succeeded. -/
def commit (session : Session) (code : Text) : Session := ⟨session.committed ++ [code]⟩

/-- The session after a segment, which leaves a trace only if it succeeded. -/
def record (session : Session) (segment : Segment) (outcome : Outcome) : Session :=
  if outcome.success then session.commit segment.code else session

@[simp]
theorem program_fresh (code : Text) : fresh.program code = code := by
  simp [program, fresh, joinLines, join, List.intercalate]

end Session

end InlineEval
