import InlineEval.CommandLine.Reader
import InlineEval.Host.Basic
import InlineEval.Settings.Override

/-!
# The program

A command line, the environment and a settings file amount to a job, or to a
text and an exit code. A job is one evaluation, watching a file, or asking the
interpreter about itself.
-/

namespace InlineEval

open Text

namespace Program

/-- What the program is to do. -/
inductive Job where
  /-- Tell what the interpreter is. -/
  | probe (python : Interpreter)
  /-- Evaluate a file, or the standard input, once. -/
  | once (file : Option Text) (settings : Settings) (json : Bool)
  /-- Evaluate a file whenever it changes. -/
  | watch (file : Text) (settings : Settings) (json : Bool)
  deriving DecidableEq

/-- The end of the program before any job. -/
structure Exit where
  code : Nat
  output : Text
  error : Text
  deriving DecidableEq, Repr

/-- A failure: a message and its causes, the nearest one first. -/
abbrev Failure := List Text

/-- Lines of a cause after its first one stand below that. -/
def indented (indent first : Text) (cause : Text) : Text :=
  first ++ join ('\n' :: indent) (split '\n' cause) ++ ['\n']

/-- The causes of a failure; several of them are numbered. -/
def causes : List Text → Text
  | [] => []
  | [cause] => "\nCaused by:\n".toList ++ indented (blanks 4) (blanks 4) cause
  | several =>
      "\nCaused by:\n".toList ++ several.zipIdx.flatMap fun (cause, n) =>
        indented (blanks 7) (Listing.alignRight 5 n ++ ": ".toList) cause

/-- What the program says of a failure. -/
def report : Failure → Text
  | [] => []
  | message :: rest => "Error: ".toList ++ message ++ '\n' :: causes rest

/-- A failure ends the program with this code. -/
def failureCode : Nat := 1

def Exit.ofFailure (failure : Failure) : Exit := ⟨failureCode, [], report failure⟩

def forStream (terminal : Bool) (t : Text) : Text := if terminal then t else plainStream t

/-- The end of the program by a command line that is not carried out. -/
def Exit.ofStop (terminals : Terminals) (program : Text) (stop : CommandLine.Stop) : Exit :=
  if stop.isAnswer then ⟨0, forStream terminals.output (stop.text program), []⟩
  else ⟨2, [], forStream terminals.error (stop.text program)⟩

/-- The job of a run. The command line is read before the configuration, and
what it asks about the interpreter before what it asks to evaluate. -/
def job (terminals : Terminals) (program configPath : Text) (arguments : List Text)
    (env : Environment) (configFile : Option (List UInt8)) : Except Exit Job :=
  match CommandLine.read arguments with
  | .error stop => .error (.ofStop terminals program stop)
  | .ok options =>
      match Settings.resolve (.ofFile configFile) env options with
      | .error cause =>
          .error (.ofFailure (("invalid configuration in ".toList ++ configPath) :: cause.chain))
      | .ok settings =>
          if options.gilStatus then .ok (.probe settings.python)
          else match options.watch, options.file with
            | true, some file => .ok (.watch file settings options.json)
            | true, none => .error (.ofFailure ["--watch requires FILE".toList])
            | false, file => .ok (.once file settings options.json)

/-- Annotations as they are printed at the end of a cycle. -/
def present (json colour : Bool) (text : Text) (annotations : List Annotation) : Text :=
  if json then Annotation.renderList annotations ++ ['\n']
  else Listing.render colour (.ofText text) annotations

/-- Why an interpreter could not be asked about itself. -/
def probeFailure (python : Interpreter) : ProcessError → Failure
  | .launch reason => ["failed to start interpreter ".toList ++ python.path, reason]
  | .stream reason => ["failed to read from interpreter ".toList ++ python.path, reason]
  | e => ["failed to read from interpreter ".toList ++ python.path, e.message]

variable {m : Type → Type} [Monad m] (host : Host m)

def readSource (file : Option Text) : m (Except Failure Text) := do
  match file with
  | some path =>
      let failed (e : SystemError) : Failure := ["failed to read ".toList ++ path, e.message]
      match ← host.readFile path with
      | .error e => return .error (failed e)
      | .ok bytes =>
          match Utf8.decode? bytes with
          | some text => return .ok text
          | none => return .error (failed .notText)
  | none =>
      match Utf8.decode? (← host.readInput) with
      | some text => return .ok text
      | none => return .error [SystemError.notText.message]

def fail (failure : Failure) : m Nat := do
  host.writeError (report failure)
  return failureCode

def evaluateOnce (settings : Settings) (json : Bool) (text : Text) : m Nat := do
  match ← host.evaluate settings text with
  | .ok annotations =>
      host.writeOutput (present json host.terminals.output text annotations)
      return 0
  | .error cause => fail host [cause.message]

def tellStatus (python : Interpreter) : m Nat := do
  match ← host.probe python with
  | .ok info =>
      host.writeOutput (paint info.status .threading host.terminals.output ++ ['\n'])
      return 0
  | .error e => fail host (probeFailure python e)

def runOnce (file : Option Text) (settings : Settings) (json : Bool) : m Nat := do
  match ← readSource host file with
  | .ok text => evaluateOnce host settings json text
  | .error failure => fail host failure

end Program

end InlineEval
