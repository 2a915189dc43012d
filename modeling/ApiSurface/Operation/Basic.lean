import ApiSurface.Resource.RouteTable
import ApiSurface.Security

/-!
# Operations

An operation of a controller: the verbs and the path that it answers, its parameters, the roles
it requires, its body as abstract steps, and what it returns.
-/

namespace ApiSurface

/-! ## Kinds -/

inductive OperationKind where
  | create
  | read
  | updatePartial
  | replace
  | delete
  | list
  | search
  | relationGet
  | relationSet
  | relationDelete
  | relationGetAll
  | relationAdd
  | relationAddById
  | relationRemove
  | relationRemoveById
  deriving DecidableEq, Repr

namespace OperationKind

def name : OperationKind → String
  | .create => "create"
  | .read => "read"
  | .updatePartial => "update_partial"
  | .replace => "replace"
  | .delete => "delete"
  | .list => "list"
  | .search => "search"
  | .relationGet => "relation_get"
  | .relationSet => "relation_set"
  | .relationDelete => "relation_delete"
  | .relationGetAll => "relation_get_all"
  | .relationAdd => "relation_add"
  | .relationAddById => "relation_add_by_id"
  | .relationRemove => "relation_remove"
  | .relationRemoveById => "relation_remove_by_id"

def isRelation : OperationKind → Bool
  | .create | .read | .updatePartial | .replace | .delete | .list | .search => false
  | _ => true

end OperationKind

/-! ## Parameters -/

inductive ParameterSource where
  | path
  | query
  | body
  deriving DecidableEq, Repr

def ParameterSource.text : ParameterSource → String
  | .path => "path"
  | .query => "query"
  | .body => "body"

structure Parameter where
  name : String
  type : String
  source : ParameterSource
  required : Bool
  defaultValue : Option String
  deriving DecidableEq, Repr

namespace Parameter

def path (name type : String) : Parameter :=
  ⟨name, type, .path, true, none⟩

def body (name type : String) : Parameter :=
  ⟨name, type, .body, true, none⟩

def query (name type : String) (defaultValue : Option String) : Parameter :=
  ⟨name, type, .query, false, defaultValue⟩

end Parameter

/-! ## Responses -/

inductive ContentKind where
  | item
  | sequence
  | page
  deriving DecidableEq, Repr

def ContentKind.text : ContentKind → String
  | .item => "item"
  | .sequence => "sequence"
  | .page => "page"

inductive ResponseShape where
  | item (type : String)
  | sequence (type : String)
  | page (type : String)
  | empty
  deriving DecidableEq, Repr

namespace ResponseShape

def type? : ResponseShape → Option String
  | .item type | .sequence type | .page type => some type
  | .empty => none

def contentKind? : ResponseShape → Option ContentKind
  | .item _ => some .item
  | .sequence _ => some .sequence
  | .page _ => some .page
  | .empty => none

def bareType : ResponseShape → String
  | .item type => type
  | .sequence type => "Vec<" ++ type ++ ">"
  | .page type => "Page<" ++ type ++ ">"
  | .empty => "()"

end ResponseShape

inductive Status where
  | ok
  | noContent
  deriving DecidableEq, Repr

def Status.code : Status → Nat
  | .ok => 200
  | .noContent => 204

def Status.reason : Status → String
  | .ok => "OK"
  | .noContent => "No Content"

structure ResponseContract where
  shape : ResponseShape
  wrapped : Bool
  declaredType : String
  status : Status
  deriving DecidableEq, Repr

/-! ## Bodies -/

/-- An abstract statement.  Values are in named variables; `into` names the variable that a step
sets. -/
inductive Step where
  | readOwner (id into : String)
  | mapTo (source shape into : String)
  | assign (source into : String)
  | assignId (target id : String)
  | create (source into : String)
  | update (source into : String)
  | merge (base changes into : String)
  | deleteById (id : String)
  | listAll (into : String)
  | buildFilter (filter shape into : String)
  | searchPage (filter page size into : String)
  /-- Maps every element; a page keeps its total. -/
  | mapEach (source shape into : String)
  | readAccessor (target accessor into : String)
  | invokeAccessor (target accessor : String) (value : Option String)
  /-- Refers to a record without loading it. -/
  | resolveReference (relatedType id into : String)
  | extractId (source accessor into : String)
  | delegate (operation : String) (arguments : List String) (into : Option String)
  | wrapContent (source : String) (content : ContentKind) (into : String)
  | wrapNoContent (into : String)
  | return (source : String)
  | returnEmpty
  deriving DecidableEq, Repr

/-! ## Operations -/

structure Endpoint where
  verbs : List Verb
  path : String
  deriving DecidableEq, Repr

def Endpoint.verbNames (endpoint : Endpoint) : List String :=
  endpoint.verbs.map Verb.text

structure Operation where
  kind : OperationKind
  endpoint : Endpoint
  name : String
  relation : Option String
  parameters : List Parameter
  security : Option RoleRequirement
  body : List Step
  response : ResponseContract
  deriving DecidableEq, Repr

namespace Operation

def path (operation : Operation) : String :=
  operation.endpoint.path

def verbNames (operation : Operation) : List String :=
  operation.endpoint.verbNames

def primaryVerb (operation : Operation) : Verb :=
  operation.endpoint.verbs.headD .get

/-- The verbs and the path, as in `POST|PUT|PATCH /orders/\x7bid\x7d/customer`. -/
def routeLabel (operation : Operation) : String :=
  Text.join "|" operation.verbNames ++ " " ++ operation.path

end Operation

end ApiSurface
