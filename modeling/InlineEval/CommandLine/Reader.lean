import InlineEval.CommandLine.Basic
import InlineEval.Text.Natural

/-!
# Reading command lines

Arguments are read from the left. An option with a value of its own argument,
and the file, stay pending until the next argument that is known to the
program, or the end; only then is their value checked. So an argument that
cannot be understood is refused before the value in front of it is.
-/

namespace InlineEval.CommandLine

open Text

/-- What has been given and not yet checked. -/
inductive Pending where
  | option (option : ValueOption) (value : Option Text)
  | file (path : Text)
  deriving DecidableEq, Repr

/-- The reader between two arguments. -/
structure State where
  options : Options
  pending : Option Pending
  /-- Everything that follows is a file. -/
  filesOnly : Bool
  /-- Which of the two flags that exclude each other came first. -/
  output : Option Flag
  deriving DecidableEq, Repr

def State.initial : State := ⟨.none, none, false, none⟩

def readMillis (option : ValueOption) (value : Text) : Except Stop Nat :=
  match readNatural value with
  | .ok n => .ok n
  | .error cause => .error (.invalidValue value option.display cause.message)

/-- An option gets its value. Only markers may be given more than once. -/
def setValue (options : Options) (option : ValueOption) (value : Text) : Except Stop Options := do
  let once (given : Bool) : Except Stop Unit :=
    if given then .error (.repeated option.display) else .ok ()
  match option with
  | .marker => return { options with markers := options.markers ++ [value] }
  | .mode =>
      once options.mode.isSome
      match Mode.read value with
      | .ok mode => return { options with mode := some mode }
      | .error cause => throw (.invalidValue value option.display cause.message)
  | .delay =>
      once options.delay.isSome
      return { options with delay := some (← readMillis option value) }
  | .timeout =>
      once options.timeout.isSome
      return { options with timeout := some (← readMillis option value) }
  | .debounce =>
      once options.debounce.isSome
      return { options with debounce := some (← readMillis option value) }
  | .python =>
      once options.python.isSome
      return { options with python := some value }

/-- What is pending is checked and takes effect. -/
def settle (state : State) : Except Stop State :=
  match state.pending with
  | none => .ok state
  | some (.option option none) => .error (.valueMissing option.display)
  | some (.option option (some value)) =>
      (setValue state.options option value).map fun options =>
        { state with options, pending := none }
  | some (.file path) =>
      if path.isEmpty then .error (.valueMissing fileDisplay)
      else .ok { state with options := { state.options with file := some path }, pending := none }

def setFlag (state : State) (flag : Flag) : Except Stop State :=
  let options := state.options
  let once (given : Bool) (options : Options) : Except Stop State :=
    if given then .error (.repeated flag.display) else .ok { state with options }
  let output := state.output.or (some flag)
  match flag with
  | .watch => once options.watch { options with watch := true }
  | .json =>
      (once options.json { options with json := true }).map ({ · with output })
  | .timings => once options.timings { options with timings := true }
  | .noWaiting => once options.noWaiting { options with noWaiting := true }
  | .gilStatus =>
      (once options.gilStatus { options with gilStatus := true }).map ({ · with output })
  | .debug => once options.debug { options with debug := true }
  | .help => .error .help
  | .version => .error .version

/-- An argument that starts with two dashes. The value of an option may follow
an equals sign. -/
def readLong (state : State) (name : Text) (attached : Option Text) : Except Stop State :=
  match Flag.all.find? (·.name == name) with
  | some flag =>
      match attached with
      | some value => .error (.surplusValue value flag.display)
      | none => (settle state).bind (setFlag · flag)
  | none =>
      match ValueOption.all.find? (·.name == name) with
      | some option =>
          (settle state).bind fun state =>
            match attached with
            | some value => settle { state with pending := some (.option option (some value)) }
            | none => .ok { state with pending := some (.option option none) }
      | none => .error (.unknownArgument ("--".toList ++ name))

def readLetters (state : State) : Text → Except Stop State
  | [] => .ok state
  | letter :: rest =>
      match Flag.all.find? (·.letter? == some letter) with
      | some flag => ((settle state).bind (setFlag · flag)).bind (readLetters · rest)
      | none => .error (.unknownArgument ['-', letter])

/-- The file that is named, whether checked or pending. -/
def State.hasFile (state : State) : Bool :=
  state.options.file.isSome || match state.pending with | some (.file _) => true | _ => false

/-- An argument that is no option: a file. There is only one. -/
def readFile (state : State) (argument : Text) : Except Stop State :=
  if state.hasFile then .error (.unknownArgument argument)
  else (settle state).map ({ · with pending := some (.file argument) })

/-- One argument. -/
def step (state : State) (argument : Text) : Except Stop State :=
  if state.filesOnly then readFile state argument
  else match argument with
    | ['-', '-'] => .ok { state with filesOnly := true }
    | '-' :: '-' :: long =>
        match splitOnce '=' long with
        | some (name, value) => readLong state name (some value)
        | none => readLong state long none
    | '-' :: letter :: letters => readLetters state (letter :: letters)
    | _ =>
        match state.pending with
        | some (.option option none) =>
            .ok { state with pending := some (.option option (some argument)) }
        | _ => readFile state argument

/-- What can only be checked at the end. -/
def validate (state : State) : Except Stop Options :=
  let options := state.options
  if options.json && options.gilStatus then
    match state.output with
    | some .gilStatus => .error (.conflict Flag.gilStatus.display Flag.json.display)
    | _ => .error (.conflict Flag.json.display Flag.gilStatus.display)
  else if options.watch && options.file.isNone then .error .fileMissing
  else .ok options

/-- What a list of arguments asks for. -/
def read (arguments : List Text) : Except Stop Options := do
  let state ← arguments.foldlM step State.initial
  validate (← settle state)

end InlineEval.CommandLine
