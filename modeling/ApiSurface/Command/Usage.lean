import ApiSurface.Command.Basic

/-!
# Usage

How a command is written as arguments: its name, then options.  An option has a long name and
may have a short one; its value follows as an argument of its own or stands in the same
argument, with or without an equals sign.  An option that awaits its value is pending: the value
is checked when the next option begins, so the first defect in the order of checking decides the
error.
-/

namespace ApiSurface

inductive UsageError where
  | nothingGiven
  | helpAsked
  | versionAsked
  | unknownCommand
  | unknownArgument
  | missingArgument
  | invalidValue
  | repeatedArgument
  | unexpectedValue
  deriving DecidableEq, Repr

/-! ## Options -/

inductive OptionName where
  | spec
  | output
  | format
  | config
  | resource
  | force
  | dryRun
  | verbose
  | noFormat
  | failOnError
  | errorsOnly
  | help
  deriving DecidableEq, Repr

inductive ValueRule where
  | flag
  | path
  | text
  | choice (names : List String)
  deriving DecidableEq, Repr

def ValueRule.accepts : ValueRule → String → Bool
  | .flag, _ => false
  | .path, value => !value.isEmpty
  | .text, _ => true
  | .choice names, value => names.contains value

namespace OptionName

def long : OptionName → String
  | .spec => "spec"
  | .output => "output"
  | .format => "format"
  | .config => "config"
  | .resource => "resource"
  | .force => "force"
  | .dryRun => "dry-run"
  | .verbose => "verbose"
  | .noFormat => "no-format"
  | .failOnError => "fail-on-error"
  | .errorsOnly => "errors-only"
  | .help => "help"

def short? : OptionName → Option Char
  | .spec => some 's'
  | .output => some 'o'
  | .config => some 'c'
  | .resource => some 'r'
  | .force => some 'f'
  | .verbose => some 'v'
  | .help => some 'h'
  | _ => none

def rule : OptionName → ValueRule
  | .spec => .path
  | .output => .path
  | .config => .path
  | .format => .choice (OutputFormat.named.map Prod.fst)
  | .resource => .text
  | _ => .flag

end OptionName

/-! ## Lines -/

/-- An option without its value, if it takes one and the value is still to come. -/
structure PendingOption where
  name : OptionName
  value : Option String
  deriving DecidableEq, Repr

structure Line where
  given : List (OptionName × String)
  pending : Option PendingOption
  deriving DecidableEq, Repr

namespace Line

def empty : Line :=
  ⟨[], none⟩

def has (line : Line) (name : OptionName) : Bool :=
  (line.given.lookup name).isSome

def raise (line : Line) (name : OptionName) : Except UsageError Line :=
  if name = .help then .error .helpAsked
  else if line.has name then .error .repeatedArgument
  else .ok { line with given := (name, "") :: line.given }

def take (line : Line) (name : OptionName) : Option String → Except UsageError Line
  | none => .error .invalidValue
  | some value =>
      if line.has name then .error .repeatedArgument
      else if name.rule.accepts value then .ok { line with given := (name, value) :: line.given }
      else .error .invalidValue

def settle (line : Line) : Except UsageError Line :=
  match line.pending with
  | none => .ok line
  | some option => { line with pending := none }.take option.name option.value

def await (line : Line) (name : OptionName) : Except UsageError Line := do
  return { ← line.settle with pending := some ⟨name, none⟩ }

/-! ## Reading arguments -/

/-- Reads what follows two dashes: a name, and a value behind an equals sign. -/
def readLong (known : List OptionName) (line : Line) (text : List Char) :
    Except UsageError Line := do
  let word := text.takeWhile (· != '=')
  let value := (text.drop word.length).tail?.map String.ofList
  match known.find? fun name => name.long.toList == word with
  | none => .error .unknownArgument
  | some name =>
      match name.rule, value with
      | .flag, none => (← line.settle).raise name
      | .flag, some _ => .error .unexpectedValue
      | _, none => line.await name
      | _, some value => (← line.settle).take name (some value)

def withoutEquals : List Char → List Char
  | '=' :: rest => rest
  | cs => cs

/-- Reads what follows one dash: flags, and at last an option with a value. -/
def readShort (known : List OptionName) (line : Line) : List Char → Except UsageError Line
  | [] => .ok line
  | c :: rest => do
      match known.find? fun name => name.short? == some c with
      | none => .error .unknownArgument
      | some name =>
          match name.rule, rest with
          | .flag, _ => readShort known (← (← line.settle).raise name) rest
          | _, [] => line.await name
          | _, _ => (← line.settle).take name (some (.ofList (withoutEquals rest)))

/-- Reads a word, which can only be a value that is still to come. -/
def readWord (line : Line) (word : String) : Except UsageError Line :=
  match line.pending with
  | some ⟨name, none⟩ => .ok { line with pending := some ⟨name, some word⟩ }
  | _ => .error .unknownArgument

def readArgument (known : List OptionName) (line : Line) (argument : String) :
    Except UsageError Line :=
  match argument.toList with
  | '-' :: '-' :: text => readLong known line text
  | ['-'] => line.readWord argument
  | '-' :: text => readShort known line text
  | _ => line.readWord argument

def readAll (known : List OptionName) : Line → List String → Except UsageError Line
  | line, [] => line.settle
  | line, argument :: rest => do
      if argument == "--" then
        if rest.isEmpty then line.settle else .error .unknownArgument
      else
        readAll known (← readArgument known line argument) rest

def required (line : Line) (name : OptionName) : Except UsageError String :=
  match line.given.lookup name with
  | some value => .ok value
  | none => .error .missingArgument

def value? (line : Line) (name : OptionName) : Option String :=
  line.given.lookup name

end Line

/-! ## Commands -/

namespace Command

def readGenerate (arguments : List String) : Except UsageError Command := do
  let line ← Line.empty.readAll
    [.spec, .output, .format, .config, .force, .dryRun, .verbose, .noFormat, .help] arguments
  return .generate {
    catalog := ← line.required .spec
    output := line.value? .output
    config := line.value? .config
    format := (line.value? .format).bind fun name => OutputFormat.named.lookup name
    force := line.has .force
    dryRun := line.has .dryRun
    verbose := line.has .verbose
    formatsSources := !line.has .noFormat }

def readInspect (arguments : List String) : Except UsageError Command := do
  let line ← Line.empty.readAll [.spec, .resource, .config, .help] arguments
  return .inspect {
    catalog := ← line.required .spec
    config := line.value? .config
    resource := line.value? .resource }

def readLint (arguments : List String) : Except UsageError Command := do
  let line ← Line.empty.readAll [.spec, .config, .failOnError, .errorsOnly, .help] arguments
  return .lint {
    catalog := ← line.required .spec
    config := line.value? .config
    failsOnError := line.has .failOnError
    errorsOnly := line.has .errorsOnly }

def names : List String :=
  ["generate", "inspect", "lint", "help"]

/-- What a request for help comes to: the commands have no further commands below them. -/
def readHelp : List String → UsageError
  | [] => .helpAsked
  | [name] => if names.contains name then .helpAsked else .unknownCommand
  | _ => .unknownCommand

def readLeading : List Char → UsageError
  | '-' :: text =>
      let word := String.ofList (text.takeWhile (· != '='))
      if word != "help" && word != "version" then .unknownArgument
      else if text.contains '=' then .unexpectedValue
      else if word == "help" then .helpAsked
      else .versionAsked
  | 'h' :: _ => .helpAsked
  | 'V' :: _ => .versionAsked
  | _ => .unknownArgument

def readTrailing : List String → UsageError
  | [] => .nothingGiven
  | word :: _ => if names.contains word then .unknownArgument else .unknownCommand

def parse : List String → Except UsageError Command
  | [] => .error .nothingGiven
  | "generate" :: arguments => readGenerate arguments
  | "inspect" :: arguments => readInspect arguments
  | "lint" :: arguments => readLint arguments
  | "help" :: arguments => .error (readHelp arguments)
  | "--" :: arguments => .error (readTrailing arguments)
  | word :: _ =>
      match word.toList with
      | ['-'] => .error .unknownCommand
      | '-' :: text => .error (readLeading text)
      | _ => .error .unknownCommand

end Command

/-! ## Programs -/

inductive ProgramError where
  | usage (error : UsageError)
  | failed (failure : Failure)
  deriving DecidableEq, Repr

def runProgram {m : Type → Type} [Monad m] (host : Host m) (environment : Environment)
    (arguments : List String) : m (Except ProgramError Unit) := do
  match Command.parse arguments with
  | .error error => return .error (.usage error)
  | .ok command =>
      match ← (command.execute host environment).run with
      | .ok () => return .ok ()
      | .error failure => return .error (.failed failure)

end ApiSurface
