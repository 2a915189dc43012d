import ApiSurface.Command.Usage
import ApiSurface.Logging.Configuration

/-!
# The program

The command line on the files of the system, with the report on standard output and events and
errors on standard error.
-/

namespace ApiSurface

/-! ## The system as a host -/

def FileError.ofSystem : IO.Error → FileError
  | .noFileOrDirectory _ _ _ => .notFound
  | .noSuchThing _ _ _ => .notFound
  | .alreadyExists _ _ _ => .alreadyExists
  | .inappropriateType _ code _ => if code = 21 then .isDirectory else .notDirectory
  | error => .other (toString error)

def attempt {α : Type} (operation : IO α) : IO (Except FileError α) := do
  match ← operation.toBaseIO with
  | .ok value => return .ok value
  | .error error => return .error (.ofSystem error)

def pathPresent (path : String) : IO Bool := do
  match ← attempt (IO.FS.realPath path) with
  | .ok _ => return true
  | .error _ => return false

def Event.line (format : LogFormat) (event : Event) : String :=
  match format with
  | .json => event.toJson.text
  | .pretty =>
      event.level.label ++ " " ++ event.message ++
        Text.concat (event.fields.map fun (name, value) => " " ++ name ++ "=" ++ value.text)

def writeEvent (format : LogFormat) (filter : LogFilter) (event : Event) : IO Unit := do
  if (Threshold.upTo event.level).rank ≤ filter.maximum.rank then
    (← IO.getStderr).putStrLn (event.line format)

def systemHost (format : LogFormat) (filter : LogFilter) : Host IO where
  contains := pathPresent
  read path := attempt (IO.FS.readFile path)
  createDirectories path :=
    if path.isEmpty then return .ok () else attempt (IO.FS.createDirAll path)
  write path contents := attempt (IO.FS.writeFile path contents)
  print text := do (← IO.getStdout).putStr text
  notify := writeEvent format filter
  formatSources _ := return some "no formatter is available"

/-! ## Environment -/

def variableNames : List String :=
  ["BRRTCRUD_CLASS_PREFIX", "BRRTCRUD_CLASS_PATTERN", "BRRTCRUD_DATA_WRAPPER",
    "BRRTCRUD_DTO_NAMESPACE", "BRRTCRUD_INDENT", "BRRTCRUD_PAGE_SIZE", "BRRTCRUD_VERBOSE",
    "BRRTCRUD_LOG_LEVEL", "BRRTCRUD_LOG_FORMAT", "BRRTCRUD_LOG_TARGET_FILTER",
    "BRRTCRUD_LOG_INCLUDE_LOCATION", "RUST_LOG"]

def readEnvironment : IO Environment := do
  let values ← variableNames.mapM fun name => return (name, ← IO.getEnv name)
  return fun name => (values.lookup name).join

/-! ## Errors -/

def UsageError.text : UsageError → String
  | .nothingGiven => "no command given"
  | .helpAsked =>
      "Usage: brrtcrud-gen generate|inspect|lint --spec SPEC [OPTIONS]"
  | .versionAsked => "brrtcrud-gen"
  | .unknownCommand => "unknown command"
  | .unknownArgument => "unknown argument"
  | .missingArgument => "a required argument is missing"
  | .invalidValue => "invalid value"
  | .repeatedArgument => "an argument is given more than once"
  | .unexpectedValue => "a value is given to an option that takes none"

def ProgramError.text : ProgramError → String
  | .usage error => error.text
  | .failed failure => Text.join "\n\nCaused by:\n    " failure.chain

def ProgramError.conclude (error : ProgramError) : IO UInt32 := do
  match error with
  | .usage .helpAsked | .usage .versionAsked => do
      IO.println error.text
      return 0
  | .usage _ => do
      IO.eprintln ("error: " ++ error.text)
      return 2
  | .failed _ => do
      IO.eprintln ("Error: " ++ error.text)
      return 1

end ApiSurface

open ApiSurface in
def main (arguments : List String) : IO UInt32 := do
  let environment ← readEnvironment
  let verbose := arguments.contains "--verbose" || arguments.contains "-v"
  let config := (LogConfiguration.ofEnvironment environment).raised verbose
  let filter := config.filter (environment "RUST_LOG")
  IO.eprint filter.warnings
  match ← runProgram (systemHost config.format filter) environment arguments with
  | .ok () => return 0
  | .error error => error.conclude
