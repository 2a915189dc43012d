import ApiSurface.Operation.Response
import ApiSurface.Text.Digits

/-!
# Operations on the resource

Creating, reading, changing, deleting, listing and searching records.  Payloads are mapped to
the resource type and results from it, where the types differ.  Each operation first claims its
endpoint, and there is none if the endpoint is taken by a route written by hand.
-/

namespace ApiSurface

structure Prepared where
  steps : List Step
  name : String
  deriving DecidableEq, Repr

/-- A value in another type, which a step maps it to if the types differ. -/
def mapped (differs : Bool) (source shape into : String) : Prepared :=
  if differs then ⟨[.mapTo source shape into], into⟩ else ⟨[], source⟩

def mappedEach (differs : Bool) (source shape into : String) : Prepared :=
  if differs then ⟨[.mapEach source shape into], into⟩ else ⟨[], source⟩

namespace ResourceConfiguration

def idParameter (config : ResourceConfiguration) : Parameter :=
  .path "id" config.idType

def requestParameter (config : ResourceConfiguration) : Parameter :=
  .body "dto" config.requestShape

/-- An endpoint to answer at, unless one of its verbs is routed at its path by hand. -/
def claim (config : ResourceConfiguration) (verbs : List Verb) (path : String) :
    Option Endpoint :=
  let endpoint : Endpoint := ⟨verbs, path⟩
  if config.handRoutes.containsAny endpoint.verbNames path then none else some endpoint

def requirement (config : ResourceConfiguration) (access : Access) : Option RoleRequirement :=
  config.security.map fun policy => policy.requirement config.resourceType access

def operation (config : ResourceConfiguration) (kind : OperationKind) (endpoint : Endpoint)
    (name : String) (parameters : List Parameter) (access : Access) (body : List Step)
    (shape : ResponseShape) : Operation where
  kind := kind
  endpoint := endpoint
  name := name
  relation := none
  parameters := parameters
  security := config.requirement access
  body := body
  response := contractFor config shape

def requestRecord (config : ResourceConfiguration) (into : String) : Prepared :=
  mapped config.mapsRequest "dto" config.resourceType into

def respondRecord (config : ResourceConfiguration) (source : String) : List Step :=
  let result := mapped config.mapsSingle source config.singleShape "result"
  result.steps ++ respondWith config (.item config.singleShape) result.name

/-! ## Records -/

def createBody (config : ResourceConfiguration) : List Step :=
  let entity := config.requestRecord "entity"
  entity.steps ++ [.create entity.name "saved"] ++ config.respondRecord "saved"

def createOperation? (config : ResourceConfiguration) : Option Operation := do
  let endpoint ← config.claim [.post] config.basePath
  return config.operation .create endpoint "create" [config.requestParameter] .create
    config.createBody (.item config.singleShape)

def readBody (config : ResourceConfiguration) : List Step :=
  [.readOwner "id" "entity"] ++ config.respondRecord "entity"

def readOperation? (config : ResourceConfiguration) : Option Operation := do
  let endpoint ← config.claim [.get] config.itemPath
  return config.operation .read endpoint "get" [config.idParameter] .read
    config.readBody (.item config.singleShape)

def updateBody (config : ResourceConfiguration) : List Step :=
  let changes := config.requestRecord "changes"
  [.readOwner "id" "original"] ++ changes.steps ++
    [.merge "original" changes.name "merged", .update "merged" "saved"] ++
    config.respondRecord "saved"

def updateOperation? (config : ResourceConfiguration) : Option Operation := do
  let endpoint ← config.claim [.patch] config.itemPath
  return config.operation .updatePartial endpoint "update"
    [config.idParameter, config.requestParameter] .update
    config.updateBody (.item config.singleShape)

/-- Writes a new record at an id; there need not be an old one. -/
def replaceBody (config : ResourceConfiguration) : List Step :=
  let taking :=
    if config.mapsRequest then Step.mapTo "dto" config.resourceType "changed"
    else Step.assign "dto" "changed"
  [taking, .assignId "changed" "id", .update "changed" "saved"] ++ config.respondRecord "saved"

def replaceOperation? (config : ResourceConfiguration) : Option Operation := do
  let endpoint ← config.claim [.put] config.itemPath
  return config.operation .replace endpoint "set"
    [config.idParameter, config.requestParameter] .update
    config.replaceBody (.item config.singleShape)

def deleteBody (config : ResourceConfiguration) : List Step :=
  [.deleteById "id"] ++ respondEmpty config

def deleteOperation? (config : ResourceConfiguration) : Option Operation := do
  let endpoint ← config.claim [.delete] config.itemPath
  return config.operation .delete endpoint "delete" [config.idParameter] .delete
    config.deleteBody .empty

/-! ## Collections -/

def listBody (config : ResourceConfiguration) : List Step :=
  let items := mappedEach config.mapsList "entities" config.listShape "items"
  [.listAll "entities"] ++ items.steps ++
    respondWith config (.sequence config.listShape) items.name

def listOperation? (config : ResourceConfiguration) : Option Operation := do
  let endpoint ← config.claim [.get] config.basePath
  return config.operation .list endpoint "all" [] .read
    config.listBody (.sequence config.listShape)

def searchParameters (config : ResourceConfiguration) : List Parameter :=
  [.query "filter" "String" none, .query "page" "u32" (some "0"),
    .query "size" "u32" (some (Text.decimal config.pageSize))]

def searchBody (config : ResourceConfiguration) : List Step :=
  let items := mappedEach config.mapsList "found" config.listShape "items"
  [.buildFilter "filter" config.resourceType "criteria",
    .searchPage "criteria" "page" "size" "found"] ++ items.steps ++
    respondWith config (.page config.listShape) items.name

def searchOperation? (config : ResourceConfiguration) : Option Operation := do
  let endpoint ← config.claim [.get] config.searchPath
  return config.operation .search endpoint "search_all" config.searchParameters .read
    config.searchBody (.page config.listShape)

end ResourceConfiguration

end ApiSurface
