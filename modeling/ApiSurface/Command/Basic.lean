import ApiSurface.Command.Generation
import ApiSurface.Lint.Report

/-!
# Commands

The commands of the program: writing the output of a catalog, printing the operations of its
resources, and listing its issues.
-/

namespace ApiSurface

structure InspectOptions where
  catalog : String
  config : Option String
  /-- The only resource to print, by the name of its controller or entity. -/
  resource : Option String
  deriving DecidableEq, Repr

structure LintOptions where
  catalog : String
  config : Option String
  failsOnError : Bool
  errorsOnly : Bool
  deriving DecidableEq, Repr

inductive Command where
  | generate (options : GenerateOptions)
  | inspect (options : InspectOptions)
  | lint (options : LintOptions)
  deriving DecidableEq, Repr

variable {m : Type → Type} [Monad m]

/-! ## Inspecting -/

def CatalogReport.inspection (report : CatalogReport) : Option String → Except Failure String
  | none =>
      .ok (Text.concat (report.resources.map fun resource => resource.table ++ "\n") ++
        report.failureText)
  | some name =>
      match report.resource? name with
      | some resource => .ok resource.table
      | none => .error (.noResource name)

def inspect (host : Host m) (environment : Environment) (options : InspectOptions) :
    Run m Unit := do
  let catalog ← SynthesizedCatalog.load host environment options.catalog options.config
    fun settings => .ofFlag settings.verbose
  let text ← Run.ofExcept (catalog.report.inspection options.resource)
  host.print text

/-! ## Linting -/

def lint (host : Host m) (environment : Environment) (options : LintOptions) : Run m Unit := do
  let catalog ← SynthesizedCatalog.load host environment options.catalog options.config
    fun _ => .quiet
  let issues := Lint.report catalog.declared catalog.report
  let issues := if options.errorsOnly then Lint.withSeverity .error issues else issues
  host.print (Lint.text issues)
  if options.failsOnError then
    if let some message := Lint.failure? issues then
      throw (.lint message)

/-! ## Execution -/

namespace Command

def execute (host : Host m) (environment : Environment) : Command → Run m Unit
  | .generate options => do
      let outcome ← ApiSurface.generate host environment options
      host.print outcome.text
  | .inspect options => ApiSurface.inspect host environment options
  | .lint options => ApiSurface.lint host environment options

end Command

end ApiSurface
