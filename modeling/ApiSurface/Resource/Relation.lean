import ApiSurface.Lint.Issue
import ApiSurface.Naming.EntityName
import ApiSurface.Resource.Accessors
import ApiSurface.Resource.Identifier
import ApiSurface.Settings.Basic

/-!
# Relations

A field with a relation marker or a persistence marker is a relation to another type.  Whatever
cannot be resolved is replaced by a default and reported as an issue; only two relations of one
name are an error.
-/

namespace ApiSurface

open Naming

structure Relation where
  name : String
  cardinality : Cardinality
  relatedType : String
  responseShape : String
  relatedIdType : String
  relatedIdAccessor : String
  accessors : Accessors
  deriving DecidableEq, Repr

namespace Relation

def usesDto (relation : Relation) : Bool :=
  relation.responseShape != relation.relatedType

def singularName (relation : Relation) : String :=
  capitalize (singular relation.name)

def toJson (relation : Relation) : Json :=
  .object [("relation_name", .string relation.name),
    ("cardinality", .string relation.cardinality.text),
    ("related_type_id", .string relation.relatedType),
    ("related_response_shape", .string relation.responseShape),
    ("related_id_type_id", .string relation.relatedIdType),
    ("related_id_accessor_name", .string relation.relatedIdAccessor),
    ("accessors", relation.accessors.toJson)]

end Relation

/-! ## Fields that are relations -/

def relationMarker : String :=
  "Relation"

/-- Markers of a persistence mapping, which imply a relation. -/
def persistenceMarkers : List String :=
  ["OneToMany", "ManyToMany", "ManyToOne"]

structure RelationField where
  owner : TypeDecl
  field : FieldDecl
  isExplicit : Bool
  values : MarkerValues
  deriving Repr

namespace RelationField

/-- A relation marker shadows the persistence markers on a field. -/
def detect? (owner : TypeDecl) (field : FieldDecl) : Option RelationField :=
  let location := (Member.field owner field).location
  match Marker.find? relationMarker field.markers with
  | some marker => some ⟨owner, field, true, marker.valuesAt location⟩
  | none =>
      (field.markers.find? fun marker => persistenceMarkers.contains marker.name).map
        fun marker => ⟨owner, field, false, marker.valuesAt location⟩

def location (source : RelationField) : String :=
  source.values.location

def explicitText? (source : RelationField) (key : String) : Option String :=
  if source.isExplicit then source.values.text? key else none

def name (source : RelationField) : String :=
  (source.explicitText? "name").getD source.field.name

def shape (source : RelationField) : TypeShape :=
  .ofExpression source.field.type

/-! ### Cardinality -/

def readCardinality (values : MarkerValues) (raw : String) :
    Except ConfigurationError (Option Cardinality) :=
  match upperAscii (lastSegment raw) with
  | "SINGLE" => .ok (some .single)
  | "MULTIPLE" => .ok (some .multiple)
  | "REFLECT" => .ok none
  | _ => .error (values.invalid "type" raw)

def statedCardinality (source : RelationField) : Except ConfigurationError (Option Cardinality) :=
  match source.explicitText? "type" with
  | none => .ok none
  | some raw => readCardinality source.values raw

def cardinality (source : RelationField) : Cardinality :=
  match source.statedCardinality with
  | .ok (some cardinality) => cardinality
  | _ => source.shape.cardinality

def cardinalityIssues (source : RelationField) : List Issue :=
  match source.statedCardinality with
  | .ok _ => []
  | .error error => [⟨source.location, .invalidRelationType error⟩]

/-! ### Related type -/

def reference (source : RelationField) : String :=
  (source.values.text? (if source.isExplicit then "entity" else "targetEntity")).getD
    source.shape.element

def related? (declared : DeclaredTypes) (source : RelationField) : Option TypeDecl :=
  declared.resolve? source.reference

def relatedType (declared : DeclaredTypes) (source : RelationField) : String :=
  (source.related? declared).elim source.reference TypeDecl.id

def relatedIdentifier? (declared : DeclaredTypes) (source : RelationField) : Option Identifier :=
  (source.related? declared).bind (Identifier.resolve? declared)

def identifierIssues (declared : DeclaredTypes) (source : RelationField) : List Issue :=
  match source.related? declared with
  | none => [⟨source.location, .unresolvedRelatedType (source.relatedType declared)⟩]
  | some _ =>
      match source.relatedIdentifier? declared with
      | some _ => []
      | none => [⟨source.location, .missingRelatedIdentifier (source.relatedType declared)⟩]

/-! ### Data transfer object -/

/-- The only declared type that is named like the data transfer object of a type, or the type
itself. -/
def discoverDto (declared : DeclaredTypes) (settings : Settings) (type : String) : String :=
  let name := normalizeEntityName (simpleName type) settings.entitySuffixes ++ settings.dtoSuffix
  let inNamespace (candidate : TypeDecl) : Bool :=
    match settings.dtoNamespace with
    | none => true
    | some space => space.toList.isPrefixOf candidate.id.toList
  match (declared.withSimpleName name).filter inNamespace with
  | [only] => only.id
  | _ => type

def statedShape (declared : DeclaredTypes) (source : RelationField) :
    Except ConfigurationError (Option String) :=
  match source.explicitText? "dto" with
  | none => .ok none
  | some reference => return some (← declared.shape source.owner.id reference)

def responseShape (declared : DeclaredTypes) (settings : Settings) (source : RelationField) :
    String :=
  match source.statedShape declared with
  | .ok (some shape) => shape
  | _ => discoverDto declared settings (source.relatedType declared)

def shapeIssues (declared : DeclaredTypes) (source : RelationField) : List Issue :=
  match source.statedShape declared with
  | .ok _ => []
  | .error error => [⟨source.location, .ambiguousRelationDto error⟩]

/-! ### Accessors -/

def fillsSlot (type : TypeDecl) (relation : String) (kind : AccessorKind) (method : MethodDecl) :
    Bool :=
  let member := Member.method type method
  match Marker.find? "RelationAccessor" member.markers with
  | none => false
  | some marker =>
      let values := marker.valuesAt member.location
      values.text? "name" == some relation &&
        (values.list "type").any fun raw => AccessorKind.parse? raw == some kind

/-- The types whose methods are searched: the related type, then the owner if it is another. -/
def accessorTypes (declared : DeclaredTypes) (source : RelationField) : List TypeDecl :=
  match source.related? declared with
  | none => [source.owner]
  | some related => if related.id == source.owner.id then [related] else [related, source.owner]

def markedAccessor? (declared : DeclaredTypes) (source : RelationField) (kind : AccessorKind) :
    Option String :=
  (source.accessorTypes declared).findSome? fun type =>
    ((declared.methods type.id).find? (fillsSlot type source.name kind)).map MethodDecl.name

/-- The marker's own name for a slot, a marked method, or the name by convention. -/
def accessor (declared : DeclaredTypes) (source : RelationField) (kind : AccessorKind) : String :=
  ((source.explicitText? kind.key).orElse fun _ => source.markedAccessor? declared kind).getD
    (Accessors.conventionalName source.name kind)

/-! ### Results -/

def relation (declared : DeclaredTypes) (settings : Settings) (source : RelationField) :
    Relation :=
  let identifier := (source.relatedIdentifier? declared).getD .default
  { name := source.name
    cardinality := source.cardinality
    relatedType := source.relatedType declared
    responseShape := source.responseShape declared settings
    relatedIdType := identifier.type
    relatedIdAccessor := identifier.accessor
    accessors := .ofSlots (source.accessor declared) }

def issues (declared : DeclaredTypes) (source : RelationField) : List Issue :=
  source.cardinalityIssues ++ source.identifierIssues declared ++ source.shapeIssues declared

end RelationField

/-! ## All relations of a type -/

def DeclaredTypes.relationFields (declared : DeclaredTypes) (entity : TypeDecl) :
    List RelationField :=
  (declared.fields entity.id).filterMap (RelationField.detect? entity)

def firstRepeated? : List String → List String → Option String
  | _, [] => none
  | seen, name :: names =>
      if seen.contains name then some name else firstRepeated? (name :: seen) names

structure RelationScan where
  relations : List Relation
  issues : List Issue
  deriving DecidableEq, Repr

namespace RelationScan

def empty : RelationScan :=
  ⟨[], []⟩

def ofFields (declared : DeclaredTypes) (settings : Settings) (fields : List RelationField) :
    RelationScan :=
  ⟨fields.map (RelationField.relation declared settings),
    fields.flatMap (RelationField.issues declared)⟩

def ofType (declared : DeclaredTypes) (entity : TypeDecl) (settings : Settings) :
    Except ConfigurationError RelationScan :=
  let fields := declared.relationFields entity
  match firstRepeated? [] (fields.map RelationField.name) with
  | some name => .error (.duplicateRelation entity.id name)
  | none => .ok (ofFields declared settings fields)

end RelationScan

end ApiSurface
