import ApiSurface.Command.SynthesizedCatalog
import ApiSurface.Command.Writing
import ApiSurface.Output.Snapshot

/-!
# Generation

The resources of a catalog are rendered and written.  A resource that cannot be configured is
left out and named at the end.
-/

namespace ApiSurface

open Output

structure GenerateOptions where
  catalog : String
  output : Option String
  config : Option String
  /-- Takes the place of the format in the settings. -/
  format : Option OutputFormat
  force : Bool
  dryRun : Bool
  verbose : Bool
  /-- Whether written sources are formatted. -/
  formatsSources : Bool
  deriving DecidableEq, Repr

structure GenerateOutcome where
  directory : String
  format : OutputFormat
  summary : WriteSummary
  report : CatalogReport
  deriving Repr

def outputRoot : String :=
  "generated"

def generatingEvent (options : GenerateOptions) (directory : String) (format : OutputFormat)
    (report : CatalogReport) : Event :=
  ⟨.info, .generation, "generating",
    [("catalog", .string options.catalog), ("output", .string directory),
      ("format", .string format.text), ("resources", .nat report.resources.length),
      ("operations", .nat report.operationCount)]⟩

def formatterEvent (error : String) : Event :=
  ⟨.warn, .generation, "rustfmt failed; generated sources left unformatted",
    [("error", .string error)]⟩

variable {m : Type → Type} [Monad m]

def formatWritten (host : Host m) (paths : List String) : m Unit := do
  let sources := paths.filter fun path => Path.extension? path == some "rs"
  if !sources.isEmpty then
    if let some error ← host.formatSources sources then
      host.notify (formatterEvent error)

def generate (host : Host m) (environment : Environment) (options : GenerateOptions) :
    Run m GenerateOutcome := do
  let catalog ← SynthesizedCatalog.load host environment options.catalog options.config
    fun settings => .ofFlag (settings.verbose || options.verbose)
  let format := options.format.getD catalog.settings.exporter
  let directory := options.output.getD (Path.join outputRoot catalog.title)
  host.notify (generatingEvent options directory format catalog.report)
  let files := render format catalog.title catalog.settings catalog.report.resources
  let summary ← writeFiles host ⟨options.force, options.dryRun⟩ directory files
  if format = .rust && options.formatsSources && !options.dryRun then
    (formatWritten host summary.written : m _)
  return ⟨directory, format, summary, catalog.report⟩

/-! ## Reports -/

def ResourceFailure.line (failure : ResourceFailure) : String :=
  "❌ " ++ failure.label ++ ": " ++ failure.error.message ++ "\n"

def CatalogReport.failureText (report : CatalogReport) : String :=
  Text.concat (report.failures.map ResourceFailure.line)

def GenerateOutcome.line (outcome : GenerateOutcome) : String :=
  "📦 " ++ Text.decimal outcome.report.resources.length ++ " resource(s), " ++
    Text.decimal outcome.report.operationCount ++ " operation(s) → " ++
    Text.quote outcome.directory ++ " (" ++ outcome.format.text ++ "): " ++
    Text.decimal outcome.summary.written.length ++ " written, " ++
    Text.decimal outcome.summary.skipped.length ++ " skipped\n"

def GenerateOutcome.text (outcome : GenerateOutcome) : String :=
  outcome.report.failureText ++ outcome.line

end ApiSurface
