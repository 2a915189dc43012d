import ApiSurface.Document.Reading
import ApiSurface.Naming.EntityName
import ApiSurface.Naming.Template
import ApiSurface.Text.LetterCase

/-!
# Security

Every operation needs an access of some kind.  A policy turns the access and the entity into a
role by a name template; the roles of an operation are all required.
-/

namespace ApiSurface

open Naming

/-! ## Access -/

inductive Access where
  | create
  | read
  | update
  | delete
  deriving DecidableEq, Repr

def Access.text : Access → String
  | .create => "CREATE"
  | .read => "READ"
  | .update => "UPDATE"
  | .delete => "DELETE"

def Access.all : List Access :=
  [.create, .read, .update, .delete]

def Access.ofDatum : Document.Datum → Document.Decoded Access :=
  Document.Datum.variant (Access.all.map fun access => (access.text, access))

/-! ## Required roles -/

/-- The roles that a caller must have, all of them. -/
structure RoleRequirement where
  roles : List String
  deriving DecidableEq, Repr

def roleCheck (role : String) : String :=
  "hasRole('" ++ role ++ "')"

def RoleRequirement.text (requirement : RoleRequirement) : String :=
  Text.join " and " (requirement.roles.map roleCheck)

/-! ## Policies -/

def defaultRolePattern : String :=
  "ROLE_\x7bMETHOD\x7d_\x7bENTITY\x7d"

structure SecurityPolicy where
  rolePattern : String
  inclusiveRelations : Bool
  entitySuffixes : List String
  deriving DecidableEq, Repr

namespace SecurityPolicy

def default : SecurityPolicy :=
  ⟨defaultRolePattern, true, defaultEntitySuffixes⟩

def role (policy : SecurityPolicy) (method entity name : String) : String :=
  let entity := normalizeEntityName entity policy.entitySuffixes
  Text.uppercase
    (substitute policy.rolePattern [("METHOD", method), ("ENTITY", entity), ("NAME", name)])

def roleFor (policy : SecurityPolicy) (typeId : String) (access : Access) : String :=
  policy.role access.text (simpleName typeId) (simpleName typeId)

def requirement (policy : SecurityPolicy) (entityType : String) (access : Access) :
    RoleRequirement :=
  ⟨[policy.roleFor entityType access]⟩

/-- The role of the related type, and behind it that of the base resource if relations are
inclusive. -/
def relationRequirement (policy : SecurityPolicy) (entityType relatedType : String)
    (access baseAccess : Access) : RoleRequirement :=
  ⟨policy.roleFor relatedType access ::
    if policy.inclusiveRelations then [policy.roleFor entityType baseAccess] else []⟩

/-! ## Documents -/

def recordType : Document.RecordType :=
  ⟨"struct SecurityPolicy", ["role_pattern", "inclusive_relations"], false⟩

def readField : Document.FieldReader SecurityPolicy := fun policy field datum => do
  match field with
  | "role_pattern" => return { policy with rolePattern := ← datum.text }
  | _ => return { policy with inclusiveRelations := ← datum.flag }

/-- Reads a policy; parts that are not given have their defaults. -/
def ofDatum (datum : Document.Datum) : Document.Decoded SecurityPolicy := do
  let (_, policy) ← datum.readRecord recordType readField default
  return policy

def toJson (policy : SecurityPolicy) : Json :=
  .object [("role_pattern", .string policy.rolePattern),
    ("inclusive_relations", .bool policy.inclusiveRelations)]

end SecurityPolicy

end ApiSurface
