import InlineEval.Program
import InlineEval.Watch.Loop

/-!
# The command

The program on a real host. It starts no process itself: interpreters run
behind a relay, which is reached through two named pipes, `request` and
`reply`, in the directory that the environment variable `PYLIVE_RELAY` names.
The relay reads what is to run as one line of JSON and answers with an object
whose members are what the interpreter wrote on its two streams, or `error` if
it did not start.
-/

namespace InlineEval.Command

open Text

def string (t : Text) : String := String.ofList t

def systemError : IO.Error → SystemError
  | .noFileOrDirectory .. => .notFound
  | .permissionDenied .. => .permissionDenied
  | .inappropriateType .. => .isDirectory
  | e => .other e.toString.toList

def readFile (path : Text) : IO (Except SystemError (List UInt8)) := do
  try
    return .ok (← IO.FS.readBinFile (string path)).toList
  catch e => return .error (systemError e)

/-- The rest of a stream, after the octets that have been read. -/
partial def readRest (stream : IO.FS.Stream) (before : ByteArray) : IO ByteArray := do
  let portion ← stream.read 65536
  if portion.isEmpty then return before
  readRest stream (before ++ portion)

def write (stream : IO.FS.Stream) (t : Text) : IO Unit := do
  stream.putStr (string t)
  stream.flush

/-- What the relay is to run. -/
def request (python : Interpreter) (script input : Text) : Text :=
  Json.render (Json.ofFields
    [("interpreter".toList, .ofText python.path),
      ("arguments".toList, .array ((Interpreter.arguments script).map .ofText)),
      ("encoding".toList, .ofText Interpreter.encoding), ("input".toList, .ofText input)])

/-- What the relay has answered. -/
def readReply (answer : Text) : Except ProcessError Interpreter.Reply :=
  let fields := match Json.parse? answer with
    | some (.object members) => (Json.named? members).getD []
    | _ => []
  let field (name : Text) : Option Text := Json.required name Json.text? fields
  match field "error".toList, field "stdout".toList, field "stderr".toList with
  | some reason, _, _ => .error (.launch reason)
  | none, some stdout, some stderr =>
      .ok ⟨(string stdout).toUTF8.toList, (string stderr).toUTF8.toList⟩
  | _, _, _ => .error (.stream "no answer from the relay".toList)

/-- The result of a task, unless the deadline comes first. -/
partial def await {α : Type} (task : Task α) (deadline : Option Nat) : IO (Option α) := do
  if ← IO.hasFinished task then return some task.get
  if let some time := deadline then
    if time ≤ (← IO.monoMsNow) then return none
  IO.sleep 5
  await task deadline

def interpret (python : Interpreter) (script input : Text) (limit : Option Nat) :
    IO (Except ProcessError Interpreter.Reply × Nat) := do
  let some directory ← IO.getEnv "PYLIVE_RELAY"
    | return (.error (.launch SystemError.notFound.message), 0)
  let start ← IO.monoMsNow
  let task ← IO.asTask do
    IO.FS.writeFile (directory ++ "/request") (string (request python script input) ++ "\n")
    IO.FS.readFile (directory ++ "/reply")
  let answer ← await task (limit.map (start + ·))
  let elapsed := (← IO.monoMsNow) - start
  let reply := match answer with
    | none => .error (.timeout (limit.getD 0 * 1000))
    | some (.error e) => .error (.stream (systemError e).message)
    | some (.ok answer) => readReply answer.toList
  return (reply, elapsed)

def host (input output error : IO.FS.Stream) (terminals : Terminals) : Host IO where
  terminals
  readFile
  readInput := return (← readRest input .empty).toList
  writeOutput := write output
  writeError := write error
  wait ms := IO.sleep (UInt32.ofNat ms)
  interpret

/-- The milliseconds between two polls of a watched file. -/
def pollInterval : Nat := 200

def take (loop : Watch.Loop) (label : Watch.Loop.Label) : Watch.Loop :=
  (loop.step label).getD loop

/-- Watches a file until the process is interrupted. Between two rounds it
sleeps for a moment. -/
partial def watch (host : Host IO) (file : Text) (settings : Settings) (json : Bool)
    (loop : Watch.Loop) (task : Option (Task (Except IO.Error Nat))) (nextPoll : Nat) :
    IO Unit := do
  let mut loop := loop
  let mut task := task
  let mut nextPoll := nextPoll
  let now ← IO.monoMsNow
  if let some running := task then
    if ← IO.hasFinished running then
      loop := take loop .finish
      task := none
  if let some deadline := loop.debouncer.pending then
    if deadline.time ≤ now then loop := take loop .fire
  for text in loop.spawned do
    if loop.running.isNone then
      task := some (← IO.asTask (Program.evaluateOnce host settings json text))
    loop := take loop .start
  if nextPoll ≤ now then
    nextPoll := nextPoll + pollInterval
    if let .ok bytes ← readFile file then
      if let some text := Utf8.decode? bytes then loop := take loop (.poll now text)
  IO.sleep 10
  watch host file settings json loop task nextPoll

/-- The settings file of the user. -/
def configPath : IO String := do
  let directory ← match ← IO.getEnv "XDG_CONFIG_HOME" with
    | some directory => pure directory
    | none => return ((← IO.getEnv "HOME").getD "~") ++ "/.config/pylive/.pyliverc"
  return directory ++ "/pylive/.pyliverc"

def environment : IO Environment := do
  let values ← Key.all.mapM fun key => do
    let name := environmentPrefix ++ key.name
    return (name, (← IO.getEnv (string name)).map String.toList)
  return fun name => (values.find? (·.1 == name)).bind (·.2)

/-- Does a job and gives the exit code. -/
def perform (host : Host IO) (inputIsTerminal : Bool) : Program.Job → IO Nat
  | .probe python => Program.tellStatus host python
  | .watch file settings json => do
      watch host file settings json (.initial settings.debounce) none (← IO.monoMsNow)
      return 0
  | .once none settings json =>
      if inputIsTerminal then
        Program.fail host ["no input: pass FILE or pipe Python source on stdin".toList]
      else Program.runOnce host none settings json
  | .once file settings json => Program.runOnce host file settings json

def run (arguments : List String) : IO Nat := do
  let input ← IO.getStdin
  let output ← IO.getStdout
  let error ← IO.getStderr
  let program := ((← IO.appPath).fileName.map String.toList).getD CommandLine.programName
  let path ← configPath
  let configFile := (← readFile path.toList).toOption
  let terminals : Terminals := ⟨← output.isTty, ← error.isTty⟩
  match Program.job terminals program path.toList (arguments.map String.toList) (← environment)
      configFile with
  | .error stop =>
      write output stop.output
      write error stop.error
      return stop.code
  | .ok job =>
      perform (host input output error terminals) (← input.isTty) job

end InlineEval.Command

def main (arguments : List String) : IO UInt32 :=
  return UInt32.ofNat (← InlineEval.Command.run arguments)
