import InlineEval.Interpreter.Bootstrap
import InlineEval.Json.Printer
import InlineEval.Outcome.ProcessError
import InlineEval.Outcome.Report
import InlineEval.Source.Statement
import InlineEval.Text.Clip
import InlineEval.Text.Lines
import InlineEval.Text.Utf8

/-!
# Talking to the interpreter

Each segment runs in a fresh process. Its standard input is a payload with the
program and the line that may be evaluated as an expression; the report is the
last line of its standard output that is not blank. Where there is no report,
what the process left on its streams becomes the message of a protocol error.
-/

namespace InlineEval

open Text

/-- The executable that runs programs, by its path or name. -/
structure Interpreter where
  path : Text
  deriving DecidableEq, Repr

namespace Interpreter

/-- The interpreter in force when none is chosen. -/
def default : Interpreter := ⟨"python3".toList⟩

def arguments (script : Text) : List Text := ["-u".toList, "-c".toList, script]

/-- The encoding that the interpreter is told to use for its streams, in the
environment variable `PYTHONIOENCODING`. -/
def encoding : Text := "utf-8".toList

/-- What the interpreter reads: the program, and the expression to evaluate
after it. -/
def payload (program : Text) (expression : Option Text) : Text :=
  Json.render (Json.ofFields
    [("program".toList, .ofText program), ("expression".toList, .ofText? expression)])

/-- The payload for a program that ends in the code of a segment. -/
def payloadFor (program code : Text) : Text := payload program (trailingExpression? code)

/-- What a process wrote before it ended. -/
structure Reply where
  stdout : List UInt8
  stderr : List UInt8

/-- The last line that is not blank. -/
def lastLine? (stdout : Text) : Option Text := (lines stdout).reverse.find? (!isBlank ·)

/-- The line of the error stream that tells most: the first one that mentions
an error, else the first one that is not blank. -/
def complaint (stderr : Text) : Text :=
  trim (((lines stderr).find? (occurs "Error".toList)).or
    ((lines stderr).find? (!isBlank ·)) |>.getD [])

def protocolError (stdout stderr : Text) : ProcessError :=
  if !isBlank stderr then .protocol (complaint stderr)
  else if !isBlank stdout then .protocol ("Invalid output: ".toList ++ stdout.take 100)
  else .protocol "No output from evaluation".toList

def readStreams (stdout stderr : Text) : Except ProcessError Outcome :=
  match (lastLine? stdout).bind fun line => Outcome.parse? (trim line) with
  | some outcome => .ok outcome
  | none => .error (protocolError stdout stderr)

/-- The outcome that a reply reports. Octets that are no text are replaced. -/
def Reply.read (reply : Reply) : Except ProcessError Outcome :=
  readStreams (Utf8.decodeLossy reply.stdout) (Utf8.decodeLossy reply.stderr)

/-- The outcome of a run, failed if the process gave no report. -/
def outcomeOf : Except ProcessError Outcome → Outcome
  | .ok outcome => outcome
  | .error e => e.outcome

end Interpreter

end InlineEval
