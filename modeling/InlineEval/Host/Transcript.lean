import InlineEval.Program
import InlineEval.Watch.Rehearsal

/-!
# Transcripts

A run of the whole program on a scripted host, from its command line to its
exit code, with everything that it has written.
-/

namespace InlineEval.Scripted

/-- All that a run of the program shows. -/
structure Transcript where
  code : Nat
  output : Text
  error : Text
  /-- What each of the interpreters has read. -/
  payloads : List Text

/-- What the program is called with. -/
structure Invocation where
  /-- The name by which the program is called. -/
  program : Text
  arguments : List Text
  env : Environment
  configPath : Text
  configFile : Option (List UInt8)

/-- Runs a job in a world. Watching goes on until the last of the edits has
been waited for. -/
def runJob (world : World) (edits : List Watch.Rehearsal.Edit) : Program.Job → Nat × World
  | .probe python => (Program.tellStatus host python).run world
  | .once file settings json => (Program.runOnce host file settings json).run world
  | .watch _ settings json => (0, Watch.Rehearsal.run settings json world edits)

/-- Runs the program in a world; a watched file is edited meanwhile. -/
def run (invocation : Invocation) (world : World) (edits : List Watch.Rehearsal.Edit) :
    Transcript :=
  match Program.job .none invocation.program invocation.configPath invocation.arguments
      invocation.env invocation.configFile with
  | .error stop => ⟨stop.code, stop.output, stop.error, []⟩
  | .ok job =>
      let (code, world) := runJob world edits job
      ⟨code, world.output, world.error, world.payloads⟩

end InlineEval.Scripted
