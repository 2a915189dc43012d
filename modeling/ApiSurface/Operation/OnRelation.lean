import ApiSurface.Operation.OnResource

/-!
# Operations on relations

A single relation can be read, set and cleared.  A multiple relation can be read, and values are
added and removed by a payload or by their id.  Every write loads the owner first and stores it
afterwards; the operations with a payload hand over to those with an id.  As on the resource,
an operation whose endpoint is taken is left out.
-/

namespace ApiSurface

open Naming

namespace Relation

/-- A name for an operation on the whole relation, such as `get_products`. -/
def pluralOperationName (relation : Relation) (verb : String) : String :=
  verb ++ "_" ++ snakeCase relation.name

/-- A name for an operation on one related value, such as `add_product`. -/
def singularOperationName (relation : Relation) (verb : String) : String :=
  verb ++ "_" ++ snakeCase (singular relation.name)

def byIdOperationName (relation : Relation) (verb : String) : String :=
  relation.singularOperationName verb ++ "_by_id"

def idParameter (relation : Relation) : Parameter :=
  .path "relation_id" relation.relatedIdType

def payloadParameter (relation : Relation) : Parameter :=
  .body "dto" relation.responseShape

def writeVerbs : List Verb :=
  [.post, .put, .patch]

/-! ## Steps -/

def readOwnerStep : Step :=
  .readOwner "id" "entity"

def changeOwner (accessor : String) (value : Option String) : List Step :=
  [.invokeAccessor "entity" accessor value, .update "entity" "entity"]

def payloadValue (relation : Relation) : Prepared :=
  mapped relation.usesDto "dto" relation.relatedType "related"

def handOver (relation : Relation) (verb : String) : List Step :=
  let related := relation.payloadValue
  related.steps ++ [.extractId related.name relation.relatedIdAccessor "relation_id"] ++
    respondThrough (relation.byIdOperationName verb) ["id", "relation_id"]

def changeById (relation : Relation) (accessor : String) : List Step :=
  [readOwnerStep, .resolveReference relation.relatedType "relation_id" "related"] ++
    changeOwner accessor (some "related")

def respondState (relation : Relation) : List Step :=
  respondThrough (relation.pluralOperationName "get") ["id"]

def setBody (relation : Relation) : List Step :=
  let related := relation.payloadValue
  [readOwnerStep] ++ related.steps ++ changeOwner relation.accessors.set (some related.name) ++
    relation.respondState

def addByIdBody (relation : Relation) : List Step :=
  relation.changeById relation.accessors.add ++ relation.respondState

end Relation

namespace ResourceConfiguration

/-- The roles for an operation on a relation; the owner needs the same access. -/
def relationRequirement (config : ResourceConfiguration) (relation : Relation)
    (access : Access) : Option RoleRequirement :=
  config.security.map fun policy =>
    policy.relationRequirement config.resourceType relation.relatedType access access

def relationOperation (config : ResourceConfiguration) (relation : Relation)
    (kind : OperationKind) (endpoint : Endpoint) (name : String) (parameters : List Parameter)
    (access : Access) (body : List Step) (shape : ResponseShape) : Operation where
  kind := kind
  endpoint := endpoint
  name := name
  relation := some relation.name
  parameters := parameters
  security := config.relationRequirement relation access
  body := body
  response := contractFor config shape

/-! ## Single relations -/

def getBody (config : ResourceConfiguration) (relation : Relation) : List Step :=
  let result := mapped relation.usesDto "related" relation.responseShape "result"
  [Relation.readOwnerStep, .readAccessor "entity" relation.accessors.get "related"] ++
    result.steps ++ respondWith config (.item relation.responseShape) result.name

def getOperation? (config : ResourceConfiguration) (relation : Relation) : Option Operation := do
  let endpoint ← config.claim [.get] (config.relationPath relation)
  return config.relationOperation relation .relationGet endpoint
    (relation.pluralOperationName "get") [config.idParameter] .read
    (config.getBody relation) (.item relation.responseShape)

def setOperation? (config : ResourceConfiguration) (relation : Relation) : Option Operation := do
  let endpoint ← config.claim Relation.writeVerbs (config.relationPath relation)
  return config.relationOperation relation .relationSet endpoint
    (relation.pluralOperationName "set") [config.idParameter, relation.payloadParameter] .update
    relation.setBody (.item relation.responseShape)

def clearBody (config : ResourceConfiguration) (relation : Relation) : List Step :=
  [Relation.readOwnerStep] ++ Relation.changeOwner relation.accessors.set none ++
    respondEmpty config

def clearOperation? (config : ResourceConfiguration) (relation : Relation) :
    Option Operation := do
  let endpoint ← config.claim [.delete] (config.relationPath relation)
  return config.relationOperation relation .relationDelete endpoint
    (relation.pluralOperationName "remove") [config.idParameter] .update
    (config.clearBody relation) .empty

/-! ## Multiple relations -/

def getAllBody (config : ResourceConfiguration) (relation : Relation) : List Step :=
  let items := mappedEach relation.usesDto "related" relation.responseShape "items"
  [Relation.readOwnerStep, .readAccessor "entity" relation.accessors.get "related"] ++
    items.steps ++ respondWith config (.sequence relation.responseShape) items.name

def getAllOperation? (config : ResourceConfiguration) (relation : Relation) :
    Option Operation := do
  let endpoint ← config.claim [.get] (config.relationPath relation)
  return config.relationOperation relation .relationGetAll endpoint
    (relation.pluralOperationName "get") [config.idParameter] .read
    (config.getAllBody relation) (.sequence relation.responseShape)

def addOperation? (config : ResourceConfiguration) (relation : Relation) : Option Operation := do
  let endpoint ← config.claim Relation.writeVerbs (config.relationPath relation)
  return config.relationOperation relation .relationAdd endpoint
    (relation.singularOperationName "add") [config.idParameter, relation.payloadParameter]
    .update (relation.handOver "add") (.sequence relation.responseShape)

def addByIdOperation? (config : ResourceConfiguration) (relation : Relation) :
    Option Operation := do
  let endpoint ← config.claim Relation.writeVerbs (config.relationItemPath relation)
  return config.relationOperation relation .relationAddById endpoint
    (relation.byIdOperationName "add") [config.idParameter, relation.idParameter] .update
    relation.addByIdBody (.sequence relation.responseShape)

def removeOperation? (config : ResourceConfiguration) (relation : Relation) :
    Option Operation := do
  let endpoint ← config.claim [.delete] (config.relationPath relation)
  return config.relationOperation relation .relationRemove endpoint
    (relation.singularOperationName "remove") [config.idParameter, relation.payloadParameter]
    .update (relation.handOver "remove") .empty

def removeByIdBody (config : ResourceConfiguration) (relation : Relation) : List Step :=
  relation.changeById relation.accessors.remove ++ respondEmpty config

def removeByIdOperation? (config : ResourceConfiguration) (relation : Relation) :
    Option Operation := do
  let endpoint ← config.claim [.delete] (config.relationItemPath relation)
  return config.relationOperation relation .relationRemoveById endpoint
    (relation.byIdOperationName "remove") [config.idParameter, relation.idParameter] .update
    (config.removeByIdBody relation) .empty

end ResourceConfiguration

end ApiSurface
