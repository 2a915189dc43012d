import ApiSurface.Logging.Filter
import ApiSurface.Settings.Patch

/-!
# Log configuration

How the program reports: the level, the form of the lines, and directives for single targets,
all of them from environment variables.
-/

namespace ApiSurface

inductive LogFormat where
  | json
  | pretty
  deriving DecidableEq, Repr

namespace LogFormat

def text : LogFormat → String
  | .json => "json"
  | .pretty => "pretty"

/-- Every name other than that of JSON means the form for people. -/
def parse (name : String) : LogFormat :=
  if Text.lowercase name == "json" then .json else .pretty

end LogFormat

structure LogConfiguration where
  level : String
  format : LogFormat
  targetFilter : Option String
  withLocation : Bool
  deriving DecidableEq, Repr

namespace LogConfiguration

def ofEnvironment (environment : Environment) : LogConfiguration where
  level := (environment "BRRTCRUD_LOG_LEVEL").getD "info"
  format := .parse ((environment "BRRTCRUD_LOG_FORMAT").getD "pretty")
  targetFilter := environment "BRRTCRUD_LOG_TARGET_FILTER"
  withLocation := environment "BRRTCRUD_LOG_INCLUDE_LOCATION" == some "true"

/-- Shows debugging events too, if that is asked for and the level is one that hides them. -/
def raised (config : LogConfiguration) (verbose : Bool) : LogConfiguration :=
  if verbose && ["info", "warn", "error"].contains (Text.lowercase config.level) then
    { config with level := "debug" }
  else
    config

def baseLevel (config : LogConfiguration) : LogLevel :=
  match Text.lowercase config.level with
  | "trace" => .trace
  | "debug" => .debug
  | "warn" => .warn
  | "error" => .error
  | _ => .info

/-- The filter of a configuration.  Directives from elsewhere replace the level, unless one of
them is not understood. -/
def filter (config : LogConfiguration) (directives : Option String) : LogFilter :=
  let base := (directives.bind LogFilter.ofText?).getD (.ofLevel config.baseLevel)
  match config.targetFilter with
  | none => base
  | some text => base.addAll text

end LogConfiguration

/-! ## Installing -/

def logAlreadyInstalled : List String :=
  ["Failed to initialize logging", "a global default trace dispatcher has already been set"]

end ApiSurface
