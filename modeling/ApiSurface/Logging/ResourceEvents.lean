import ApiSurface.Logging.Event
import ApiSurface.Synthesis.CatalogReport
import ApiSurface.Synthesis.Lifecycle

/-!
# Events of a synthesis

Which events assembling and synthesizing resources reports, in order.
-/

namespace ApiSurface

inductive Verbosity where
  /-- Operations for debugging only, and no line for a resource. -/
  | quiet
  /-- Operations for debugging only, and one line for each resource. -/
  | normal
  | verbose
  deriving DecidableEq, Repr

def Verbosity.ofFlag (verbose : Bool) : Verbosity :=
  if verbose then .verbose else .normal

/-! ## Assembly -/

def Issue.event (source : EventSource) (issue : Issue) : Event :=
  ⟨.warn, source, issue.message,
    [("location", .string issue.location), ("kind", .string issue.kind)]⟩

def Cardinality.name : Cardinality → String
  | .single => "Single"
  | .multiple => "Multiple"

def Relation.event (entity : TypeDecl) (relation : Relation) : Event :=
  ⟨.debug, .relations, "relation discovered",
    [("entity", .string entity.id), ("relation", .string relation.name),
      ("cardinality", .string relation.cardinality.name),
      ("related", .string relation.relatedType)]⟩

def beforeRepeated : List String → List Relation → List Relation
  | _, [] => []
  | seen, relation :: relations =>
      if seen.contains relation.name then []
      else relation :: beforeRepeated (relation.name :: seen) relations

/-- Every relation up to a repeated name; the issues only if no name is repeated. -/
def relationEvents (declared : DeclaredTypes) (entity : TypeDecl) (settings : Settings) :
    List Event :=
  let scan := RelationScan.ofFields declared settings (declared.relationFields entity)
  (beforeRepeated [] scan.relations).map (Relation.event entity) ++
    match RelationScan.ofType declared entity settings with
    | .ok scan => scan.issues.map (Issue.event .relations)
    | .error _ => []

def scanEvents (declared : DeclaredTypes) (metadata : ResourceMetadata) (settings : Settings) :
    List Event :=
  if metadata.withRelations then
    match declared.named? metadata.resourceType with
    | some entity => relationEvents declared entity settings
    | none => []
  else
    []

def ResourceConfiguration.event (config : ResourceConfiguration) : Event :=
  ⟨.debug, .assembly, "resource configured",
    [("controller", .string config.controllerName), ("entity", .string config.resourceType),
      ("base", .string config.basePath), ("relations", .nat config.relations.length),
      ("existing_routes", .nat config.handRoutes.routes.length)]⟩

/-- What assembling a declaration reports; a part that fails is the last one to report. -/
def assemblyEvents (declared : DeclaredTypes) (declaration : ResourceDeclaration)
    (settings : Settings) : List Event :=
  let declaring := declaration.declaring
  match ResourceMetadata.resolve declared declaring declaration.values settings with
  | .error _ => []
  | .ok metadata =>
      match RouteTable.scrape declared declaring with
      | .error _ => []
      | .ok _ =>
          scanEvents declared metadata settings ++
            match assemble declared declaration settings with
            | .ok assembled => [assembled.configuration.event]
            | .error _ => []

/-! ## Synthesis -/

def Outcome.event (config : ResourceConfiguration) (verbosity : Verbosity)
    (outcome : Outcome) : Event :=
  let route := outcome.contributed.map Operation.routeLabel
  ⟨if verbosity = .verbose then .info else .debug, .synthesis,
    if outcome.contributed.isSome then "contributed" else "skipped, route already exists",
    [("controller", .string config.controllerName),
      ("kind", .string (Naming.pascalCase outcome.kind.name))] ++
      Json.present "relation" (outcome.relation.map .string) ++
      Json.present "route" (route.map .string)⟩

def synthesisEvents (verbosity : Verbosity) (config : ResourceConfiguration) : List Event :=
  config.outcomes.map (Outcome.event config verbosity)

def SynthesizedResource.event (resource : SynthesizedResource) : Event :=
  ⟨.info, .synthesis, "resource synthesized",
    [("controller", .string resource.operations.controllerName),
      ("operations", .nat resource.operations.size)]⟩

def skippedEvent (declaration : ResourceDeclaration) (error : ConfigurationError) : Event :=
  ⟨.warn, .synthesis, "resource skipped",
    [("resource", .string declaration.label), ("error", .string error.message)]⟩

def declarationEvents (declared : DeclaredTypes) (settings : Settings) (verbosity : Verbosity)
    (declaration : ResourceDeclaration) : List Event :=
  assemblyEvents declared declaration settings ++
    match assemble declared declaration settings with
    | .error error => [skippedEvent declaration error]
    | .ok assembled =>
        assembled.issues.map (Issue.event .synthesis) ++
          synthesisEvents verbosity assembled.configuration ++
          if verbosity = .quiet then [] else [assembled.synthesized.event]

def catalogEvents (declared : DeclaredTypes) (settings : Settings) (verbosity : Verbosity) :
    List Event :=
  declared.resourceDeclarations.flatMap (declarationEvents declared settings verbosity)

end ApiSurface
