import ApiSurface.Synthesis.Lifecycle

/-!
# Catalog reports

All resources of a catalog are synthesized, each on its own.  The report lists those that
succeeded and those that could not be configured, both in the order of their declarations, and
the issues of the ones that could.
-/

namespace ApiSurface

structure ResourceFailure where
  label : String
  error : ConfigurationError
  deriving DecidableEq, Repr

structure CatalogReport where
  resources : List SynthesizedResource
  failures : List ResourceFailure
  issues : List Issue
  deriving DecidableEq, Repr

/-! ## One declaration -/

def AssembledResource.synthesized (assembled : AssembledResource) : SynthesizedResource :=
  ⟨assembled.configuration, assembled.configuration.synthesize⟩

/-! ## All declarations -/

namespace CatalogReport

def empty : CatalogReport :=
  ⟨[], [], []⟩

/-- The report with the outcome of one more declaration, which goes its own way from the start.
Only a configuration that cannot be assembled is a failure. -/
def add (declared : DeclaredTypes) (settings : Settings) (report : CatalogReport)
    (declaration : ResourceDeclaration) : CatalogReport :=
  match Lifecycle.configure declared declaration settings .unresolved with
  | .error (.configuration error) _ =>
      { report with failures := report.failures ++ [⟨declaration.label, error⟩] }
  | .error (.outOfOrder _ _) _ => report
  | .ok _ configured =>
      let report := { report with issues := report.issues ++ configured.issues }
      match Lifecycle.synthesize configured with
      | .error _ _ => report
      | .ok _ synthesized =>
          match synthesized.resource? with
          | none => report
          | some resource => { report with resources := report.resources ++ [resource] }

def ofDeclarations (declared : DeclaredTypes) (settings : Settings)
    (declarations : List ResourceDeclaration) : CatalogReport :=
  declarations.foldl (add declared settings) empty

def ofTypes (declared : DeclaredTypes) (settings : Settings) : CatalogReport :=
  ofDeclarations declared settings declared.resourceDeclarations

def operationCount (report : CatalogReport) : Nat :=
  (report.resources.map fun resource => resource.operations.size).foldr (· + ·) 0

def resource? (report : CatalogReport) (name : String) : Option SynthesizedResource :=
  report.resources.find? fun resource =>
    let config := resource.configuration
    config.controllerName == name || config.resourceType == name ||
      Naming.simpleName config.controllerName == name

end CatalogReport

end ApiSurface
