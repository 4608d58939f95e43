import InlineEval.Outcome.Basic

/-!
# Failures of the process

An interpreter may fail to start, its streams may break, it may run for too
long, or what it writes may be no report. Each of these is turned into a
failed outcome whose class no program can forge.
-/

namespace InlineEval

open Text

/-- Why a process gave no report. -/
inductive ProcessError where
  /-- It did not start. -/
  | launch (reason : Text)
  /-- Its streams failed. -/
  | stream (reason : Text)
  /-- It was stopped after `micros` microseconds. -/
  | timeout (micros : Nat)
  /-- It wrote something else. -/
  | protocol (message : Text)
  deriving DecidableEq, Repr

namespace ProcessError

/-- A time limit in whole seconds if it has no part of one, otherwise in
milliseconds. -/
def formatLimit (micros : Nat) : Text :=
  let ms := micros / 1000
  if ms % 1000 = 0 then ofNat (ms / 1000) ++ ['s'] else ofNat ms ++ "ms".toList

def message : ProcessError → Text
  | launch reason => "Python process error: ".toList ++ reason
  | stream reason => "Python process I/O error: ".toList ++ reason
  | timeout micros => "Evaluation timeout (".toList ++ formatLimit micros ++ [')']
  | protocol message => message

def errorClass : ProcessError → ErrorClass
  | launch _ => .launch
  | stream _ => .launch
  | timeout _ => .timeout
  | protocol _ => .protocol

def outcome (e : ProcessError) : Outcome :=
  { Outcome.failure e.message with fault := some e.errorClass }

end ProcessError

end InlineEval
