import ApiSurface.Naming.EntityName
import ApiSurface.Naming.Template
import ApiSurface.Resource.Identifier
import ApiSurface.Settings.Basic

/-!
# Resource metadata

What the values of a resource marker say about the resource itself: its entity and identifier,
where it is mounted, which shapes requests and responses have, and who works for it.
-/

namespace ApiSurface

open Naming

/-! ## Shapes -/

structure DtoShapes where
  request : String
  single : String
  list : String
  deriving DecidableEq, Repr

namespace DtoShapes

def plain (resourceType : String) : DtoShapes :=
  ⟨resourceType, resourceType, resourceType⟩

def commonKeys : List String :=
  ["dtoConfig/value", "dto"]

/-- The type that the first of the keys with a value refers to, or another if none has one. -/
def lookup (declared : DeclaredTypes) (values : MarkerValues) (keys : List String)
    (other : String) : Except ConfigurationError String :=
  match values.firstOf? keys with
  | none => .ok other
  | some reference => declared.shape values.location reference

def resolve (declared : DeclaredTypes) (values : MarkerValues) (resourceType : String) :
    Except ConfigurationError DtoShapes := do
  let single ← lookup declared values commonKeys resourceType
  let list ← lookup declared values ("dtoConfig/list" :: commonKeys) single
  let request ← lookup declared values ("dtoConfig/request" :: commonKeys) single
  return ⟨request, single, list⟩

def differFrom (shapes : DtoShapes) (resourceType : String) : Bool :=
  [shapes.single, shapes.list, shapes.request].any fun shape => shape != resourceType

def toJson (shapes : DtoShapes) : Json :=
  .object [("request", .string shapes.request), ("single", .string shapes.single),
    ("list", .string shapes.list)]

end DtoShapes

/-! ## Controllers and collaborators -/

/-- The name of the generated controller: the one that the marker gives, or the one after the
pattern of the settings, in the namespace of the declaring type. -/
def controllerNameOf (declaringType : String) (values : MarkerValues) (settings : Settings) :
    String :=
  let simple := simpleName declaringType
  let patterned :=
    substitute settings.classNamePattern
      [("PREFIX", settings.classNamePrefix),
        ("NAME_NORMALIZED", Text.replace "Controller" "" simple), ("NAME", simple)]
  qualify ((values.text? "className").getD patterned) declaringType

def Collaborators.overriddenBy (collaborators : Collaborators) (values : MarkerValues) :
    Collaborators where
  dataAccessor := (values.text? "dataAccessor").getD collaborators.dataAccessor
  dataMapper := (values.text? "dataMapper").getD collaborators.dataMapper
  dataMerger := (values.text? "dataMerger").getD collaborators.dataMerger
  searchFilterBuilder := (values.text? "searchFilterBuilder").getD collaborators.searchFilterBuilder
  referenceResolver := (values.text? "referenceResolver").getD collaborators.referenceResolver

/-! ## Metadata -/

structure ResourceMetadata where
  declaringType : String
  controllerName : String
  resourceType : String
  identifier : Identifier
  basePath : String
  shapes : DtoShapes
  usesDto : Bool
  wrapper : Option String
  collaborators : Collaborators
  withRelations : Bool
  deriving DecidableEq, Repr

namespace ResourceMetadata

def entity (declared : DeclaredTypes) (declaring : TypeDecl) (values : MarkerValues) :
    Except ConfigurationError TypeDecl :=
  match values.text? "entity" with
  | none => .error (.missingEntity declaring.id)
  | some reference =>
      match declared.resolve? reference with
      | none => .error (.unknownType declaring.id reference)
      | some type => .ok type

def identifierOf (declared : DeclaredTypes) (entity : TypeDecl) (values : MarkerValues) :
    Identifier :=
  let identifier := (Identifier.resolve? declared entity).getD .default
  { identifier with type := (values.text? "id").getD identifier.type }

def basePathOf (resourceType : String) (values : MarkerValues) (settings : Settings) : String :=
  match values.firstOf? ["value", "path"] with
  | some path => normalizeBasePath path
  | none => defaultBasePath resourceType settings.entitySuffixes

def wrapperOf (values : MarkerValues) (settings : Settings) : Option String :=
  match values.text? "wrapper" with
  | some wrapper => normalizeWrapper wrapper
  | none => settings.dataWrapper

def resolve (declared : DeclaredTypes) (declaring : TypeDecl) (values : MarkerValues)
    (settings : Settings) : Except ConfigurationError ResourceMetadata := do
  let entity ← entity declared declaring values
  let shapes ← DtoShapes.resolve declared values entity.id
  let withRelations ← values.flag "withRelations" true
  return {
    declaringType := declaring.id
    controllerName := controllerNameOf declaring.id values settings
    resourceType := entity.id
    identifier := identifierOf declared entity values
    basePath := basePathOf entity.id values settings
    shapes := shapes
    usesDto := shapes.differFrom entity.id
    wrapper := wrapperOf values settings
    collaborators := settings.collaborators.overriddenBy values
    withRelations := withRelations }

end ResourceMetadata

end ApiSurface
