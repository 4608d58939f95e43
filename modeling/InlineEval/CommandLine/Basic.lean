import InlineEval.Source.Mode
import InlineEval.Text.ControlSequence
import InlineEval.Text.Lines

/-!
# Command lines

What can be asked for on the command line, and why a command line is refused
or answered by a text instead of being carried out.
-/

namespace InlineEval

open Text

/-- What a command line asks for. -/
structure Options where
  file : Option Text
  mode : Option Mode
  markers : List Text
  delay : Option Nat
  timeout : Option Nat
  debounce : Option Nat
  python : Option Text
  watch : Bool
  json : Bool
  timings : Bool
  noWaiting : Bool
  gilStatus : Bool
  debug : Bool
  deriving DecidableEq, Repr

/-- Nothing is asked for. -/
def Options.none : Options :=
  ⟨.none, .none, [], .none, .none, .none, .none, false, false, false, false, false, false⟩

namespace CommandLine

/-- Options that take a value. -/
inductive ValueOption where
  | mode
  | marker
  | delay
  | timeout
  | debounce
  | python
  deriving DecidableEq, Repr

namespace ValueOption

def all : List ValueOption := [mode, marker, delay, timeout, debounce, python]

def name : ValueOption → Text
  | mode => "mode".toList
  | marker => "marker".toList
  | delay => "delay".toList
  | timeout => "timeout".toList
  | debounce => "debounce".toList
  | python => "python".toList

def valueName : ValueOption → Text
  | mode => "MODE".toList
  | marker => "MARKERS".toList
  | delay => "MS".toList
  | timeout => "MS".toList
  | debounce => "MS".toList
  | python => "PATH".toList

/-- The option as messages show it. -/
def display (option : ValueOption) : Text :=
  "--".toList ++ option.name ++ " <".toList ++ option.valueName ++ ['>']

end ValueOption

/-- Options without a value. -/
inductive Flag where
  | watch
  | json
  | timings
  | noWaiting
  | gilStatus
  | debug
  | help
  | version
  deriving DecidableEq, Repr

namespace Flag

def all : List Flag := [watch, json, timings, noWaiting, gilStatus, debug, help, version]

def name : Flag → Text
  | watch => "watch".toList
  | json => "json".toList
  | timings => "timings".toList
  | noWaiting => "no-waiting".toList
  | gilStatus => "gil-status".toList
  | debug => "debug".toList
  | help => "help".toList
  | version => "version".toList

def letter? : Flag → Option Char
  | watch => some 'w'
  | help => some 'h'
  | version => some 'V'
  | _ => none

/-- The flag as messages show it. -/
def display (flag : Flag) : Text := "--".toList ++ flag.name

end Flag

def fileDisplay : Text := "[FILE]".toList

/-- Why a command line is not carried out. -/
inductive Stop where
  | unknownArgument (argument : Text)
  | valueMissing (option : Text)
  | invalidValue (value option reason : Text)
  | repeated (option : Text)
  | conflict (first second : Text)
  | surplusValue (value option : Text)
  /-- To watch a file, the file must be named. -/
  | fileMissing
  | help
  | version
  deriving DecidableEq, Repr

def quoted (codes : List Text) (t : Text) : Text := '\'' :: (styled codes t ++ ['\''])

/-- What was not accepted, in yellow. -/
def rejected (t : Text) : Text := quoted ["33".toList] t

/-- What would be accepted, in bold type. -/
def literal (t : Text) : Text := quoted ["1".toList] t

/-- A complaint, where to look for help, and both in styles. -/
def complaint (t : Text) : Text :=
  styled ["1".toList, "31".toList] "error:".toList ++ ' ' :: t ++
    "\n\nFor more information, try ".toList ++ literal "--help".toList ++ ".\n".toList

/-- The help text; the usage line shows the program by the name it was called
by. -/
def helpText (program : Text) : Text :=
  "Live inline evaluation for Python source

Usage: ".toList ++ program ++ " [OPTIONS] [FILE]

Arguments:
  [FILE]  Python file to evaluate. Reads stdin when omitted

Options:
      --mode <MODE>       Which lines get annotated (explicit|auto)
      --marker <MARKERS>  Marker substring flagging a line for annotation. Can be used multiple times: --marker \"# ?\" --marker \"# =>\"
      --delay <MS>        Pause between units, in milliseconds
      --timeout <MS>      Per-unit evaluation timeout, in milliseconds
      --debounce <MS>     Quiet period after a change before re-evaluating (with --watch)
      --python <PATH>     Python interpreter to run units with
  -w, --watch             Re-evaluate FILE whenever it changes, until Ctrl-C
      --json              Print annotations as a JSON array instead of an annotated listing
      --timings           Append each unit's evaluation time
      --no-waiting        Do not show progress while units run
      --gil-status        Report the interpreter version and whether its GIL is enabled, then exit
      --debug             Verbose logging to stderr
  -h, --help              Print help
  -V, --version           Print version
".toList

/-- The name under which the program reports its version. -/
def programName : Text := "pylive".toList

def versionText : Text := programName ++ " 0.1.0\n".toList

namespace Stop

/-- The complaint, or the text that was asked for, as a terminal gets it. -/
def text (program : Text) : Stop → Text
  | unknownArgument argument =>
      complaint ("unexpected argument ".toList ++ rejected argument ++ " found".toList)
  | valueMissing option =>
      complaint ("a value is required for ".toList ++ rejected option ++
        " but none was supplied".toList)
  | invalidValue value option reason =>
      complaint ("invalid value ".toList ++ rejected value ++ " for ".toList ++ literal option ++
        ": ".toList ++ reason)
  | repeated option =>
      complaint ("the argument ".toList ++ rejected option ++
        " cannot be used multiple times".toList)
  | conflict first second =>
      complaint ("the argument ".toList ++ rejected first ++ " cannot be used with ".toList ++
        rejected second)
  | surplusValue value option =>
      complaint ("unexpected value ".toList ++ rejected value ++ " for ".toList ++
        literal option ++ " found; no more were expected".toList)
  | fileMissing => complaint "the following required arguments were not provided:".toList
  | help => helpText program
  | version => versionText

/-- The command line asked for a text and is no error. -/
def isAnswer : Stop → Bool
  | help => true
  | version => true
  | _ => false

/-- What it comes down to in plain text: an answer as it is, of a complaint
the first line. -/
def message (program : Text) (stop : Stop) : Text :=
  if stop.isAnswer then plain (stop.text program)
  else (lines (plain (stop.text program))).headD []

end Stop

end CommandLine

end InlineEval
