import ApiSurface.Catalog.Problem
import ApiSurface.Document.Json

/-!
# Issues

What a reviewer of a catalog should look at: a finding at a place.  The finding decides the
severity, the message and what is suggested.
-/

namespace ApiSurface

inductive Severity where
  /-- The resource cannot be generated. -/
  | error
  /-- Defaults had to be used. -/
  | warning
  /-- A hint about good practice. -/
  | info
  deriving DecidableEq, Repr

def Severity.name : Severity → String
  | .error => "Error"
  | .warning => "Warning"
  | .info => "Info"

def Severity.label : Severity → String
  | .error => "ERROR"
  | .warning => "WARNING"
  | .info => "INFO"

inductive Finding where
  | invalidRelationType (error : ConfigurationError)
  | missingRelatedIdentifier (type : String)
  | unresolvedRelatedType (type : String)
  | ambiguousRelationDto (error : ConfigurationError)
  | configuration (error : ConfigurationError)
  | noOperations
  | accessorNotDeclared (accessor : String)
  deriving DecidableEq, Repr

namespace Finding

def severity : Finding → Severity
  | .invalidRelationType _ | .missingRelatedIdentifier _ | .unresolvedRelatedType _
  | .ambiguousRelationDto _ => .warning
  | .configuration _ => .error
  | .noOperations | .accessorNotDeclared _ => .info

def kind : Finding → String
  | .invalidRelationType _ => "invalid_relation_type"
  | .missingRelatedIdentifier _ => "missing_related_identifier"
  | .unresolvedRelatedType _ => "unresolved_related_type"
  | .ambiguousRelationDto _ => "ambiguous_relation_dto"
  | .configuration (.missingEntity _) => "missing_entity"
  | .configuration (.unknownType _ _) => "unknown_entity_type"
  | .configuration (.ambiguousDto _ _ _) => "ambiguous_dto"
  | .configuration (.duplicateRelation _ _) => "duplicate_relation"
  | .configuration (.invalidMarkerValue _ _ _) => "invalid_marker_value"
  | .noOperations => "no_operations"
  | .accessorNotDeclared _ => "accessor_not_declared"

def message : Finding → String
  | .invalidRelationType error =>
      error.message ++ "; inferring the cardinality from the field type"
  | .missingRelatedIdentifier type =>
      apostrophed type ++ " declares no Id field or IdAccessor method, using defaults"
  | .unresolvedRelatedType type =>
      "Related type " ++ apostrophed type ++ " is not declared, using default identifier"
  | .ambiguousRelationDto error => error.message
  | .configuration error => error.message
  | .noOperations => "Every operation of this resource is already hand-written"
  | .accessorNotDeclared accessor =>
      "Accessor " ++ apostrophed accessor ++ " is not declared on the entity"

def suggestion? : Finding → Option String
  | .invalidRelationType _ => some "Use SINGLE, MULTIPLE or REFLECT"
  | .missingRelatedIdentifier _ => some "Mark the identifier field with an Id marker"
  | .unresolvedRelatedType _ => none
  | .ambiguousRelationDto _ => none
  | .configuration (.missingEntity _) =>
      some "Add an `entity` value to the CrudResource marker"
  | .configuration (.unknownType _ _) =>
      some "Declare the entity under `types` or fix the type id"
  | .configuration (.ambiguousDto _ _ _) => some "Use the fully qualified DTO type id"
  | .configuration (.duplicateRelation _ _) =>
      some "Give one of the members a distinct `name` on its Relation marker"
  | .configuration (.invalidMarkerValue _ _ _) =>
      some "Check the marker value against the supported values"
  | .noOperations =>
      some "Drop the CrudResource marker or remove the hand-written routes"
  | .accessorNotDeclared _ => none

end Finding

structure Issue where
  location : String
  finding : Finding
  deriving DecidableEq, Repr

namespace Issue

def severity (issue : Issue) : Severity :=
  issue.finding.severity

def kind (issue : Issue) : String :=
  issue.finding.kind

def message (issue : Issue) : String :=
  issue.finding.message

def toJson (issue : Issue) : Json :=
  .object [("location", .string issue.location), ("severity", .string issue.severity.name),
    ("kind", .string issue.kind), ("message", .string issue.message),
    ("suggestion", .optional .string issue.finding.suggestion?)]

end Issue

end ApiSurface
