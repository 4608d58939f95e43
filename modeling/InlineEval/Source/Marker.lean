import InlineEval.Text.Basic

/-!
# Markers

A marker is a text that flags every line in which it occurs, wherever in the
line that is. The empty text would flag all lines and is never a marker.
-/

namespace InlineEval

open Text

/-- Markers in the order in which they were given, repetitions included. -/
structure MarkerSet where
  toList : List Text
  ne_nil : ∀ marker ∈ toList, marker ≠ []
  deriving DecidableEq

namespace MarkerSet

/-- The markers of a list, without empty ones. -/
def ofList (markers : List Text) : MarkerSet where
  toList := markers.filter (!·.isEmpty)
  ne_nil marker h := by
    intro heq
    subst heq
    simp at h

/-- A list written with commas; white space around a marker does not count. -/
def read (t : Text) : MarkerSet := ofList ((split ',' t).map trim)

/-- The markers in force when none are chosen. -/
def default : MarkerSet := ofList ["# ?".toList, "# /".toList]

def isEmpty (markers : MarkerSet) : Bool := markers.toList.isEmpty

def marks (markers : MarkerSet) (line : Text) : Bool := markers.toList.any (occurs · line)

end MarkerSet

end InlineEval
