import InlineEval.CommandLine.Basic
import InlineEval.Settings.Config

/-!
# Command line over configuration

Options on the command line replace what the configuration says. Flags can
only switch in their own direction, and markers replace all markers of the
configuration.
-/

namespace InlineEval.Settings

/-- The settings with the options of a command line on top. -/
def override (settings : Settings) (options : Options) : Settings where
  mode := options.mode.getD settings.mode
  markers := if options.markers.isEmpty then settings.markers else .ofList options.markers
  pause := options.delay.getD settings.pause
  debounce := options.debounce.getD settings.debounce
  timeout := options.timeout.getD settings.timeout
  python := (options.python.map Interpreter.mk).getD settings.python
  showWaiting := settings.showWaiting && !options.noWaiting
  showTimings := settings.showTimings || options.timings
  debug := settings.debug || options.debug

/-- The settings of a run, from all layers. The configuration must make sense
even where the command line overrides it. -/
def resolve (config : Config) (env : Environment) (options : Options) :
    Except ConfigError Settings :=
  (ofConfig config env).map (override · options)

end InlineEval.Settings
