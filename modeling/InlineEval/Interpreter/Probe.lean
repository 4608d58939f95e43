import InlineEval.Interpreter.Basic

/-!
# What an interpreter is

The probe script prints two lines. The version is the rest of the line that
starts with its label; the lock counts as disabled wherever the output says
so.
-/

namespace InlineEval.Interpreter

open Text

/-- What an interpreter says about itself. -/
structure Info where
  version : Text
  /-- It was built without its global lock. -/
  lockFree : Bool
  deriving DecidableEq, Repr

namespace Info

/-- The information that the output of the probe script gives. -/
def read (output : Text) : Info where
  version :=
    match (lines output).findSome? (dropPrefix? "VERSION:".toList) with
    | some version => trim version
    | none => "Unknown".toList
  lockFree := occurs "GIL_DISABLED:1".toList output

/-- One line that tells what the interpreter can do. -/
def status (info : Info) : Text :=
  (if info.lockFree then
    "Free-threaded Python (GIL disabled), true parallelism enabled: ".toList
  else
    "Standard Python (GIL enabled), threading limited to I/O parallelism: ".toList) ++
    info.version

end Info

end InlineEval.Interpreter
