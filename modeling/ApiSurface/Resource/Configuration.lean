import ApiSurface.Resource.Metadata
import ApiSurface.Resource.Relation
import ApiSurface.Settings.Documents

/-!
# Resource configurations

Everything that the operations of one resource depend on, and the paths on which they are
mounted.
-/

namespace ApiSurface

open Naming

structure ResourceConfiguration where
  controllerName : String
  resourceType : String
  idType : String
  idAccessor : String
  basePath : String
  requestShape : String
  singleShape : String
  listShape : String
  usesDto : Bool
  wrapper : Option String
  collaborators : Collaborators
  handRoutes : RouteTable
  relations : List Relation
  security : Option SecurityPolicy
  pageSize : Nat
  deriving DecidableEq, Repr

namespace ResourceConfiguration

def plain (resourceType basePath : String) : ResourceConfiguration where
  controllerName :=
    qualify ("Generated" ++ simpleName resourceType ++ "Controller") resourceType
  resourceType := resourceType
  idType := Identifier.default.type
  idAccessor := Identifier.default.accessor
  basePath := basePath
  requestShape := resourceType
  singleShape := resourceType
  listShape := resourceType
  usesDto := false
  wrapper := none
  collaborators := .default
  handRoutes := .empty
  relations := []
  security := none
  pageSize := 20

def relation? (config : ResourceConfiguration) (name : String) : Option Relation :=
  config.relations.find? fun relation => relation.name == name

def mapsRequest (config : ResourceConfiguration) : Bool :=
  config.requestShape != config.resourceType

def mapsSingle (config : ResourceConfiguration) : Bool :=
  config.singleShape != config.resourceType

def mapsList (config : ResourceConfiguration) : Bool :=
  config.listShape != config.resourceType

def isWrapped (config : ResourceConfiguration) : Bool :=
  config.wrapper.isSome

/-! ## Paths -/

def itemPath (config : ResourceConfiguration) : String :=
  config.basePath ++ "/\x7bid\x7d"

def searchPath (config : ResourceConfiguration) : String :=
  config.basePath ++ "/search"

def relationPath (config : ResourceConfiguration) (relation : Relation) : String :=
  config.itemPath ++ "/" ++ relation.name

def relationItemPath (config : ResourceConfiguration) (relation : Relation) : String :=
  config.relationPath relation ++ "/\x7brelationId\x7d"

/-! ## Documents -/

def toJson (config : ResourceConfiguration) : Json :=
  .object [("controller_name", .string config.controllerName),
    ("resource_type_id", .string config.resourceType),
    ("id_type_id", .string config.idType),
    ("id_accessor_name", .string config.idAccessor),
    ("route_base_path", .string config.basePath),
    ("request_shape", .string config.requestShape),
    ("single_response_shape", .string config.singleShape),
    ("list_response_shape", .string config.listShape),
    ("using_dto", .bool config.usesDto),
    ("response_wrapper_type", .optional .string config.wrapper),
    ("collaborators", config.collaborators.toJson),
    ("existing_routes", config.handRoutes.toJson),
    ("relations", .array (config.relations.map Relation.toJson)),
    ("security_policy", .optional SecurityPolicy.toJson config.security),
    ("page_size", .nat config.pageSize)]

end ResourceConfiguration

end ApiSurface
