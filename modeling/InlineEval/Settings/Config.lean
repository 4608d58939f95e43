import InlineEval.Settings.Basic
import InlineEval.Settings.Environment
import InlineEval.Text.Natural
import InlineEval.Text.Utf8

/-!
# Configuration

A setting is looked up in three layers: an environment variable, the last
assignment in the settings file, and the value that is built in. The file is
read line by line up to the first line that is no text. Comments and lines
without an equals sign say nothing; assignments to unknown names are kept
apart, so that they can be reported.
-/

namespace InlineEval

open Text

/-- The names that can be set. -/
inductive Key where
  | mode
  | markers
  | pause
  | debounce
  | timeout
  | python
  | showWaiting
  | showTimings
  | debug
  deriving DecidableEq, Repr

namespace Key

def all : List Key :=
  [mode, markers, pause, debounce, timeout, python, showWaiting, showTimings, debug]

def name : Key → Text
  | mode => "EVALUATION_MODE".toList
  | markers => "EVALUATION_MARKERS".toList
  | pause => "EVALUATION_DELAY".toList
  | debounce => "DEBOUNCE_DELAY".toList
  | timeout => "EVALUATION_TIMEOUT".toList
  | python => "PYTHON_PATH".toList
  | showWaiting => "SHOW_WAITING_INDICATOR".toList
  | showTimings => "SHOW_TIMINGS".toList
  | debug => "DEBUG".toList

def builtIn : Key → Text
  | mode => "explicit".toList
  | markers => "# ?,# /".toList
  | pause => "0".toList
  | debounce => "300".toList
  | timeout => "5000".toList
  | python => "python3".toList
  | showWaiting => "true".toList
  | showTimings => "false".toList
  | debug => "false".toList

def ofName? (name : Text) : Option Key := all.find? (·.name == name)

/-- Whether a name can be set. -/
def isKnown (name : Text) : Bool := (ofName? name).isSome

end Key

/-- The environment variable of a setting is its name behind this. -/
def environmentPrefix : Text := "PYLIVE_".toList

/-- The assignments of a settings file, in their order. -/
structure Config where
  /-- Assignments to known names. -/
  assignments : List (Text × Text)
  /-- Unknown names that were assigned. -/
  unknown : List Text
  deriving DecidableEq, Repr

/-- Why settings cannot be used. -/
inductive ConfigError where
  | notANumber (key value : Text) (cause : NumberError)
  | unknownMode (cause : Mode.Unknown)
  deriving DecidableEq, Repr

/-- The message and what caused it. -/
def ConfigError.chain : ConfigError → List Text
  | notANumber key value cause =>
      [key ++ " must be a non-negative integer, got '".toList ++ value ++ ['\''], cause.message]
  | unknownMode cause => [cause.message]

/-- The number that a name is set to; white space may stand around it. -/
def readNumber (name value : Text) : Except ConfigError Nat :=
  match readNatural (trim value) with
  | .ok n => .ok n
  | .error cause => .error (.notANumber name value cause)

namespace Config

def empty : Config := ⟨[], []⟩

/-- The lines of a file up to the first one that is no text. -/
def readableLines (bytes : List UInt8) : List Text :=
  ((split 0x0A bytes).map Utf8.decode?).takeWhile (·.isSome) |>.filterMap id

def assignment? (line : Text) : Option (Text × Text) :=
  let line := trim line
  if line.isEmpty || line.head? == some '#' then none
  else (splitOnce '=' line).map fun (name, value) => (trim name, trim value)

def ofLines (lines : List Text) : Config :=
  let entries := lines.filterMap assignment?
  { assignments := entries.filter fun entry => Key.isKnown entry.1
    unknown := (entries.filter fun entry => !Key.isKnown entry.1).map (·.1) }

/-- The configuration that a file gives; a missing one gives none. -/
def ofFile : Option (List UInt8) → Config
  | none => empty
  | some bytes => ofLines (readableLines bytes)

def assigned? (config : Config) (name : Text) : Option Text :=
  (config.assignments.reverse.find? (·.1 == name)).map (·.2)

variable (config : Config) (env : Environment)

/-- The value of a name in the highest layer that has one. -/
def get? (name : Text) : Option Text :=
  (env (environmentPrefix ++ name)).or
    ((config.assigned? name).or ((Key.ofName? name).map Key.builtIn))

/-- A switch is on if its value is the word `true` in any case. -/
def flag (name : Text) : Bool := (get? config env name).any fun value => lower value == "true".toList

def number? (name : Text) : Except ConfigError (Option Nat) :=
  match get? config env name with
  | none => .ok none
  | some value => (readNumber name value).map some

/-- The value of a key in the highest layer; the lowest one has them all. -/
def value (key : Key) : Text :=
  (env (environmentPrefix ++ key.name)).getD ((config.assigned? key.name).getD key.builtIn)

def millis (key : Key) : Except ConfigError Nat := readNumber key.name (value config env key)

def mode : Except ConfigError Mode :=
  match Mode.read (value config env .mode) with
  | .ok mode => .ok mode
  | .error cause => .error (.unknownMode cause)

end Config

/-- The settings that a configuration gives. The mode is looked at first, then
the times in the order of the keys. -/
def Settings.ofConfig (config : Config) (env : Environment) : Except ConfigError Settings := do
  let mode ← config.mode env
  let pause ← config.millis env .pause
  let debounce ← config.millis env .debounce
  let timeout ← config.millis env .timeout
  return {
    mode, pause, debounce, timeout
    markers := .read (config.value env .markers)
    python := ⟨config.value env .python⟩
    showWaiting := config.flag env Key.showWaiting.name
    showTimings := config.flag env Key.showTimings.name
    debug := config.flag env Key.debug.name }

end InlineEval
