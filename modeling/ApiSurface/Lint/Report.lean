import ApiSurface.Synthesis.CatalogReport

/-!
# Lint reports

The issues of a whole catalog: resources that failed, the issues met while resolving relations,
and for each resource whether anything is left to generate and whether the entity declares the
accessors that the operations call.  Nothing is expected of an entity without methods.
-/

namespace ApiSurface

def ConfigurationError.place : ConfigurationError → String
  | .missingEntity resource => resource
  | .unknownType resource _ => resource
  | .ambiguousDto resource _ _ => resource
  | .duplicateRelation resource _ => resource
  | .invalidMarkerValue location _ _ => location

def ConfigurationError.issue (error : ConfigurationError) : Issue :=
  ⟨error.place, .configuration error⟩

namespace Lint

def operationIssues (resource : SynthesizedResource) : List Issue :=
  if resource.operations.operations.isEmpty then
    [⟨resource.configuration.controllerName, .noOperations⟩]
  else
    []

def relationIssues (methods : List MethodDecl) (resourceType : String) (relation : Relation) :
    List Issue :=
  let missing := (relation.accessors.requiredFor relation.cardinality).filter fun accessor =>
    !methods.any fun method => method.name == accessor
  missing.map fun accessor =>
    ⟨resourceType ++ "#" ++ relation.name, .accessorNotDeclared accessor⟩

def accessorIssues (declared : DeclaredTypes) (config : ResourceConfiguration) : List Issue :=
  let methods := declared.methods config.resourceType
  if methods.isEmpty then []
  else config.relations.flatMap (relationIssues methods config.resourceType)

def resourceIssues (declared : DeclaredTypes) (resource : SynthesizedResource) : List Issue :=
  operationIssues resource ++ accessorIssues declared resource.configuration

def report (declared : DeclaredTypes) (catalog : CatalogReport) : List Issue :=
  (catalog.failures.map fun failure => failure.error.issue) ++ catalog.issues ++
    catalog.resources.flatMap (resourceIssues declared)

def withSeverity (severity : Severity) (issues : List Issue) : List Issue :=
  issues.filter fun issue => issue.severity == severity

def failure? (issues : List Issue) : Option String :=
  let count := (withSeverity .error issues).length
  if count == 0 then none else some (Text.decimal count ++ " lint error(s) found")

/-! ## Text -/

def issueText (issue : Issue) : String :=
  "   [" ++ issue.kind ++ "] " ++ issue.location ++ "\n      " ++ issue.message ++ "\n" ++
    issue.finding.suggestion?.elim "" fun suggestion =>
      "      💡 Suggestion: " ++ suggestion ++ "\n"

def groupText (title : String) (issues : List Issue) : String :=
  if issues.isEmpty then ""
  else title ++ "\n" ++ Text.concat (issues.map issueText) ++ "\n"

def text (issues : List Issue) : String :=
  if issues.isEmpty then
    "✅ No lint issues found!\n"
  else
    let errors := withSeverity .error issues
    let warnings := withSeverity .warning issues
    let infos := withSeverity .info issues
    "\n📋 Lint Results:\n   " ++ Text.decimal errors.length ++ " error(s), " ++
      Text.decimal warnings.length ++ " warning(s), " ++ Text.decimal infos.length ++
      " info(s)\n\n" ++ groupText "❌ Errors (must fix):" errors ++
      groupText "⚠️  Warnings (should fix):" warnings ++
      groupText "ℹ️  Info (best practices):" infos

end Lint

end ApiSurface
