import InlineEval.Proofs.Settings.Assignments
import InlineEval.Proofs.Text.Natural
import InlineEval.Settings.Override

/-! # Layers of settings

The value of a key comes from the environment, from the settings file below it
or from what is built in below that. On this value the command line puts what
it asks for itself, but only if the values make sense.
-/

namespace InlineEval

open Text

namespace Environment

variable {vars : List (Text × List UInt8)} {wanted name value : Text}
  {bytes assigned : List UInt8}

/-- A text in UTF-8. -/
def octets (t : Text) : List UInt8 := (String.ofList t).toUTF8.toList

end Environment

namespace Config

variable {vars : List (Text × List UInt8)} {lines : List Text} {key : Key} {value : Text}

end Config

namespace Settings

variable {values : Key → Text} {options : Options} {settings : Settings}

/-- The value that the command line gives, or else one that agrees with the
layers below. -/
def Over {α : Type} (given : Option α) (below : α → Prop) (result : α) : Prop :=
  match given with
  | some value => result = value
  | none => below result

theorem Over.getD {α : Type} {below : α → Prop} {value : α} (hbelow : below value)
    (given : Option α) : Over given below (given.getD value) := by
  cases given with
  | none => exact hbelow
  | some given => rfl

/-- The settings in which the command line lies over the values of the keys. -/
structure Layered (values : Key → Text) (options : Options) (settings : Settings) : Prop where
  mode : Over options.mode (lower (trim (values .mode)) = Mode.name ·) settings.mode
  markers : settings.markers =
    if options.markers = [] then .read (values .markers) else .ofList options.markers
  pause : Over options.delay (IsNumber (trim (values .pause))) settings.pause
  debounce : Over options.debounce (IsNumber (trim (values .debounce))) settings.debounce
  timeout : Over options.timeout (IsNumber (trim (values .timeout))) settings.timeout
  python : Over options.python (· = values .python) settings.python.path
  showWaiting : settings.showWaiting = true ↔
    lower (values .showWaiting) = "true".toList ∧ options.noWaiting = false
  showTimings : settings.showTimings = true ↔
    lower (values .showTimings) = "true".toList ∨ options.timings = true
  debug : settings.debug = true ↔ lower (values .debug) = "true".toList ∨ options.debug = true

/-- What is built in under the keys is what the settings are by default. -/
theorem layered_default : Settings.default.Layered Key.builtIn .none where
  mode := Mode.read_eq_ok_iff.mp rfl
  markers := by decide
  pause := readNatural_eq_ok_iff.mp rfl
  debounce := readNatural_eq_ok_iff.mp rfl
  timeout := readNatural_eq_ok_iff.mp rfl
  python := rfl
  showWaiting := by decide
  showTimings := by decide
  debug := by decide

variable {config : Config} {env : Environment}

/-- The command line over settings that have none yet. -/
theorem Layered.override (hlayered : settings.Layered values .none) (options : Options) :
    (settings.override options).Layered values options where
  mode := .getD hlayered.mode options.mode
  markers := by
    have hbelow : settings.markers = .read (values .markers) := hlayered.markers
    simp [Settings.override, hbelow]
  pause := .getD hlayered.pause options.delay
  debounce := .getD hlayered.debounce options.debounce
  timeout := .getD hlayered.timeout options.timeout
  python := by
    have hbelow : settings.python.path = values .python := hlayered.python
    cases hgiven : options.python <;> simp [Over, Settings.override, hgiven, hbelow]
  showWaiting := by
    simp [Settings.override, hlayered.showWaiting, Options.none]
  showTimings := by
    simp [Settings.override, hlayered.showTimings, Options.none]
  debug := by
    simp [Settings.override, hlayered.debug, Options.none]

/-- A mode that makes no sense is not mended by the command line. -/
example :
    resolve (.ofLines ["EVALUATION_MODE = never".toList]) (.ofVariables [])
      { Options.none with mode := some .auto } = .error (.unknownMode ⟨"never".toList⟩) := by
  decide

end Settings

end InlineEval
