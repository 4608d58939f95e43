import InlineEval.Cycle.Basic
import InlineEval.Host.Error
import InlineEval.Interpreter.Probe
import InlineEval.Listing

/-!
# Hosts

A host is what the program runs on: it reads files and the standard input,
writes to the two output streams, and runs interpreters. The program is the
same for every host.
-/

namespace InlineEval

open Text

/-- Which of the two output streams go to a terminal, which shows colours. -/
structure Terminals where
  output : Bool
  error : Bool
  deriving DecidableEq, Repr

def Terminals.none : Terminals := ⟨false, false⟩

/-- What the program can ask of its surroundings. -/
structure Host (m : Type → Type) where
  terminals : Terminals
  readFile : Text → m (Except SystemError (List UInt8))
  readInput : m (List UInt8)
  writeOutput : Text → m Unit
  writeError : Text → m Unit
  /-- Waits for a number of milliseconds. -/
  wait : Nat → m Unit
  /-- Runs a script with a text as its standard input, for `limit` milliseconds
  at most. Gives the reply and the milliseconds that passed. -/
  interpret : Interpreter → (script input : Text) → (limit : Option Nat) →
    m (Except ProcessError Interpreter.Reply × Nat)

namespace Host

variable {m : Type → Type} [Monad m] (host : Host m)

/-- Runs the program of a call and reads the report. -/
def answer (settings : Settings) (call : Call) : m Answer := do
  let (reply, elapsed) ← host.interpret settings.python Interpreter.bootstrapScript
    (Interpreter.payloadFor call.program call.code) (some settings.timeout)
  return ⟨Interpreter.outcomeOf (reply.bind Interpreter.Reply.read), elapsed⟩

/-- Asks an interpreter about itself. -/
def probe (python : Interpreter) : m (Except ProcessError Interpreter.Info) := do
  let (reply, _) ← host.interpret python Interpreter.probeScript [] none
  return reply.map fun reply => .read (Utf8.decodeLossy reply.stdout)

def progressLine (index total : Nat) (segment : Segment) (waiting : Annotation) : Text :=
  "[".toList ++ ofNat (index + 1) ++ "/".toList ++ ofNat total ++ "] line ".toList ++
    ofNat (segment.last + 1) ++ ":".toList ++ waiting.text

/-- One line on the error stream for each segment that starts, if wanted. -/
def tell : Progress → m Unit
  | .started index total segment (some waiting) =>
      host.writeError
        (paint (progressLine index total segment waiting) waiting.style host.terminals.error ++ ['\n'])
  | _ => pure ()

/-- Carries out the cycle of a text. -/
def evaluate (settings : Settings) (text : Text) :
    m (Except InvertedRange (List Annotation)) :=
  (Cycle.ofText settings text).perform host.tell host.wait (host.answer settings)

end Host

end InlineEval
