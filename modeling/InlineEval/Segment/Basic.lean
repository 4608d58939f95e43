import InlineEval.Text.Basic

/-!
# Segments

A segment is a run of neighbouring source lines that is evaluated as one step.
-/

namespace InlineEval

open Text

/-- Source lines from `first` to `last`, both included, joined by newlines. -/
structure Segment where
  first : Nat
  last : Nat
  code : Text
  deriving DecidableEq, Repr

namespace Segment

def texts (segment : Segment) : List Text := split '\n' segment.code

def lines (segment : Segment) : List (Nat × Text) :=
  segment.texts.zipIdx segment.first |>.map Prod.swap

def line? (segment : Segment) (i : Nat) : Option Text :=
  if i < segment.first ∨ segment.last < i then none else segment.texts[i - segment.first]?

/-- A segment of white space only. -/
def isBlank (segment : Segment) : Bool := Text.isBlank segment.code

/-- The segment that a list of lines forms from a given index on. -/
def ofLines (first : Nat) (lines : List Text) : Segment :=
  ⟨first, first + lines.length - 1, joinLines lines⟩

/-- The segment with its line numbers raised. -/
def shift (n : Nat) (segment : Segment) : Segment :=
  { segment with first := segment.first + n, last := segment.last + n }

end Segment

end InlineEval
