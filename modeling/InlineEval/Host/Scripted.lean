import InlineEval.Host.Basic
import InlineEval.Host.FileTree

/-!
# A scripted host

A host whose files, streams and interpreters are data. Its interpreters read
their input to the end and write what the script says; everything that the
program does to it is recorded.
-/

namespace InlineEval.Scripted

open Text

/-- What an interpreter writes after it has read its input. -/
structure Reply where
  reply : Interpreter.Reply
  /-- The milliseconds that it takes. -/
  delay : Nat
  /-- It never ends. -/
  hangs : Bool

/-- An interpreter that writes nothing. -/
def Reply.silent : Reply := ⟨⟨[], []⟩, 0, false⟩

/-- What a machine has before a run. -/
structure Machine where
  directories : List Location
  /-- The directory in which the program is started. -/
  working : Location
  /-- The names under which an interpreter is found. -/
  interpreters : List Text

/-- The host and what it has recorded. -/
structure World where
  machine : Machine
  /-- The files in the working directory. -/
  files : List (Text × List UInt8)
  input : List UInt8
  /-- Replies of the interpreters that have not run yet. -/
  replies : List Reply
  output : Text
  error : Text
  /-- What the interpreters have read. -/
  payloads : List Text

/-- The paths of the standard input. -/
def inputPaths : List Text :=
  ["/dev/stdin".toList, "/dev/fd/0".toList, "/proc/self/fd/0".toList]

/-- The files of a world: its own ones in the working directory, the devices
for nothing and for the standard input, and the directories of the machine. -/
def World.tree (world : World) : FileTree where
  files :=
    (FileTree.namesOf "/dev/null".toList, []) ::
      inputPaths.map (fun path => (FileTree.namesOf path, world.input)) ++
      world.files.map fun (name, bytes) => (world.machine.working ++ FileTree.namesOf name, bytes)
  directories := world.machine.directories
  working := world.machine.working

/-- Why a path cannot be run as an interpreter, if it cannot. A path with a
slash leads to a file, and no file may be run; a single name is looked for
among those of the interpreters, and the directory itself and the one above it
are found there too. -/
def World.launchError? (world : World) (path : Text) : Option SystemError :=
  if path.contains '\x00' then some .embeddedZero
  else if path.contains '/' then some (world.tree.launchError path)
  else if path = ['.'] ∨ path = "..".toList then some .permissionDenied
  else if FileTree.maxNameSize < byteSize path then some .nameTooLong
  else if world.machine.interpreters.contains path then none
  else some .notFound

/-- What an interpreter with a reply gives within a limit, and the time it
takes. -/
def Reply.within (reply : Reply) (limit : Option Nat) :
    Except ProcessError Interpreter.Reply × Nat :=
  match limit with
  | some ms =>
      if reply.hangs || ms < reply.delay then (.error (.timeout (ms * 1000)), ms)
      else (.ok reply.reply, reply.delay)
  | none => (.ok reply.reply, reply.delay)

/-- Runs an interpreter, which uses up a reply. -/
def World.interpret (world : World) (python : Interpreter) (input : Text) (limit : Option Nat) :
    (Except ProcessError Interpreter.Reply × Nat) × World :=
  match world.launchError? python.path with
  | some e => ((.error (.launch e.message), 0), world)
  | none =>
      let reply := world.replies.headD .silent
      (reply.within limit,
        { world with replies := world.replies.tail, payloads := world.payloads ++ [input] })

def host : Host (StateM World) where
  terminals := .none
  readFile path := return (← get).tree.read path
  readInput := return (← get).input
  writeOutput text := modify fun world => { world with output := world.output ++ text }
  writeError text := modify fun world => { world with error := world.error ++ text }
  wait _ := pure ()
  interpret python _ input limit := modifyGet fun world => world.interpret python input limit

end InlineEval.Scripted
