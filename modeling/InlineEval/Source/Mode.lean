import InlineEval.Text.Basic

/-!
# Annotation modes

The mode decides which lines receive annotations, and with it whether a marked
line is evaluated as a segment of its own.
-/

namespace InlineEval

open Text

/-- Which lines get annotated. -/
inductive Mode where
  /-- Only lines that carry a marker. -/
  | explicit
  /-- The last line of every segment. -/
  | auto
  deriving DecidableEq, Repr, Inhabited

namespace Mode

/-- The mode in force when none is chosen. -/
def default : Mode := .explicit

def name : Mode → Text
  | explicit => "explicit".toList
  | auto => "auto".toList

def ofName? (t : Text) : Option Mode :=
  if t = explicit.name then some explicit
  else if t = auto.name then some auto
  else none

/-- A word that names no mode. -/
structure Unknown where
  word : Text
  deriving DecidableEq, Repr

def Unknown.message (e : Unknown) : Text :=
  "unknown evaluation mode '".toList ++ e.word ++ "' (expected explicit or auto)".toList

/-- The mode that a word names, whatever its case and the white space around
it. -/
def read (t : Text) : Except Unknown Mode :=
  let word := lower (trim t)
  match ofName? word with
  | some mode => .ok mode
  | none => .error ⟨word⟩

theorem ofName?_eq_some_iff {t : Text} {mode : Mode} :
    ofName? t = some mode ↔ t = mode.name := by
  unfold ofName?
  cases mode <;> split
  next h => simp [h]
  next h => simp [h]
  next h => subst h; decide
  next h => simp

/-- What is read is the name of the mode, but for case and the white space
around it. -/
theorem read_eq_ok_iff {t : Text} {mode : Mode} :
    read t = .ok mode ↔ lower (trim t) = mode.name := by
  rw [← ofName?_eq_some_iff]
  dsimp only [read]
  cases ofName? (lower (trim t)) <;> simp

end Mode

end InlineEval
