import ApiSurface.Resource.Configuration

/-!
# Assembling resources

A resource marker on a type declares a resource.  Its configuration is assembled from the
metadata, the routes written by hand, the relations of the entity and the security policy, in
this order, and the first of them that is wrong is the error.
-/

namespace ApiSurface

open Naming

/-! ## Declarations -/

def resourceMarker : String :=
  "CrudResource"

structure ResourceDeclaration where
  declaring : TypeDecl
  values : MarkerValues
  deriving Repr

def ResourceDeclaration.label (declaration : ResourceDeclaration) : String :=
  match declaration.values.text? "entity" with
  | some entity => declaration.declaring.id ++ " (" ++ entity ++ ")"
  | none => declaration.declaring.id

def TypeDecl.resourceDeclarations (type : TypeDecl) : List ResourceDeclaration :=
  (type.markers.filter fun marker => marker.name == resourceMarker).map fun marker =>
    ⟨type, marker.valuesAt (Member.type type).location⟩

/-- Every declared resource; a type with two resource markers declares two. -/
def DeclaredTypes.resourceDeclarations (declared : DeclaredTypes) : List ResourceDeclaration :=
  declared.types.flatMap TypeDecl.resourceDeclarations

/-! ## Security -/

def securityMarker : String :=
  "CrudSecurity"

/-- Whether a security marker is for a controller: it names it or names none. -/
def appliesTo (controller : String) (declaring : TypeDecl) (values : MarkerValues) : Bool :=
  match values.text? "className" with
  | none => true
  | some name => qualify name declaring.id == controller

def policyOf (values : MarkerValues) (settings : Settings) :
    Except ConfigurationError SecurityPolicy := do
  let inclusive ← values.flag "inclusive" true
  return settings.adapt
    { SecurityPolicy.default with
      rolePattern := (values.text? "pattern").getD defaultRolePattern
      inclusiveRelations := inclusive }

def securityOf (declaring : TypeDecl) (controller : String) (settings : Settings) :
    Except ConfigurationError (Option SecurityPolicy) :=
  let markers := declaring.markers.filter fun marker => marker.name == securityMarker
  let values := markers.map fun marker => marker.valuesAt (Member.type declaring).location
  match values.find? (appliesTo controller declaring) with
  | some values => return some (← policyOf values settings)
  | none => .ok (settings.security.map settings.adapt)

/-! ## Assembly -/

structure AssembledResource where
  configuration : ResourceConfiguration
  issues : List Issue
  deriving DecidableEq, Repr

/-- The relations that a resource takes part in; it may leave out all of them. -/
def relationsOf (declared : DeclaredTypes) (metadata : ResourceMetadata) (settings : Settings) :
    Except ConfigurationError RelationScan :=
  if metadata.withRelations then
    match declared.named? metadata.resourceType with
    | some entity => RelationScan.ofType declared entity settings
    | none => .ok RelationScan.empty
  else
    .ok RelationScan.empty

def ResourceMetadata.configuration (metadata : ResourceMetadata) (routes : RouteTable)
    (relations : List Relation) (security : Option SecurityPolicy) (pageSize : Nat) :
    ResourceConfiguration where
  controllerName := metadata.controllerName
  resourceType := metadata.resourceType
  idType := metadata.identifier.type
  idAccessor := metadata.identifier.accessor
  basePath := metadata.basePath
  requestShape := metadata.shapes.request
  singleShape := metadata.shapes.single
  listShape := metadata.shapes.list
  usesDto := metadata.usesDto
  wrapper := metadata.wrapper
  collaborators := metadata.collaborators
  handRoutes := routes
  relations := relations
  security := security
  pageSize := pageSize

def assemble (declared : DeclaredTypes) (declaration : ResourceDeclaration)
    (settings : Settings) : Except ConfigurationError AssembledResource := do
  let declaring := declaration.declaring
  let metadata ← ResourceMetadata.resolve declared declaring declaration.values settings
  let routes ← RouteTable.scrape declared declaring
  let scan ← relationsOf declared metadata settings
  let security ← securityOf declaring metadata.controllerName settings
  return ⟨metadata.configuration routes scan.relations security settings.pageSize, scan.issues⟩

end ApiSurface
