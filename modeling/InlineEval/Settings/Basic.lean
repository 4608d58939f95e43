import InlineEval.Interpreter.Basic
import InlineEval.Source.Marker
import InlineEval.Source.Mode

/-!
# Settings

The settings of a run are fixed before it starts. All times are in
milliseconds.
-/

namespace InlineEval

/-- Everything that a cycle of evaluation is told. -/
structure Settings where
  mode : Mode
  markers : MarkerSet
  /-- The pause between two segments. -/
  pause : Nat
  /-- The quiet time after a change before it is evaluated. -/
  debounce : Nat
  /-- The time limit of one segment. -/
  timeout : Nat
  python : Interpreter
  /-- Tell what is being evaluated. -/
  showWaiting : Bool
  /-- Tell how long each segment took. -/
  showTimings : Bool
  debug : Bool
  deriving DecidableEq

namespace Settings

/-- The time limit when none is chosen. -/
def defaultTimeout : Nat := 5000

/-- The settings when nothing is chosen. -/
def default : Settings where
  mode := .default
  markers := .default
  pause := 0
  debounce := 300
  timeout := defaultTimeout
  python := .default
  showWaiting := true
  showTimings := false
  debug := false

end Settings

end InlineEval
