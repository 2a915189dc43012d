import ApiSurface.Proofs.Naming.Template
import ApiSurface.Proofs.Operation.Names

/-!
# Placeholders and parameters

A path shows by its placeholders which of its segments are parameters.  The path and the parameters
of an operation are put together apart from each other, and the id of a related record is even
spelled in two ways, but they agree as long as the placeholders are the only braces of the path
(`placeholders_eq_pathParameters`).
-/

namespace ApiSurface

open Naming

/-! ## Reading placeholders -/

/-- The texts between braces, from left to right.  While an opening brace is not closed, `name` has
what was read behind it; another opening brace begins anew. -/
def bracedFrom : Option (List Char) → List Char → List (List Char)
  | _, [] => []
  | none, c :: rest => bracedFrom (if c = '\x7b' then some [] else none) rest
  | some name, c :: rest =>
      if c = '\x7d' then name :: bracedFrom none rest
      else bracedFrom (some (if c = '\x7b' then [] else name ++ [c])) rest

def placeholders (path : String) : List String :=
  (bracedFrom none path.toList).map .ofList

theorem bracedFrom_eq_nil {text : List Char} (hclose : '\x7d' ∉ text)
    (state : Option (List Char)) : bracedFrom state text = [] := by
  fun_induction bracedFrom state text with
  | case1 => rfl
  | case2 c rest ih => exact ih (List.not_mem_of_not_mem_cons hclose)
  | case3 => simp at hclose
  | case4 name c rest _ ih => exact ih (List.not_mem_of_not_mem_cons hclose)

theorem bracedFrom_append_text {text : List Char} (hclose : '\x7d' ∉ text)
    (state : Option (List Char)) (cs : List Char) :
    bracedFrom state (cs ++ text) = bracedFrom state cs := by
  fun_induction bracedFrom state cs with
  | case1 state => exact bracedFrom_eq_nil hclose state
  | case2 c rest ih => exact ih
  | case3 name rest ih => rw [List.cons_append, bracedFrom, if_pos rfl, ih]
  | case4 name c rest hother ih => rw [List.cons_append, bracedFrom, if_neg hother, ih]

theorem bracedFrom_some_append {front : List Char} (hopen : '\x7b' ∉ front)
    (hclose : '\x7d' ∉ front) (name : List Char) :
    bracedFrom (some name) (front ++ ['\x7d']) = [name ++ front] := by
  induction front generalizing name with
  | nil => simp [bracedFrom]
  | cons c front ih =>
      rw [List.mem_cons, not_or] at hopen hclose
      rw [List.cons_append, bracedFrom, if_neg (Ne.symm hclose.1), if_neg (Ne.symm hopen.1),
        ih hopen.2 hclose.2, List.append_assoc, List.singleton_append]

theorem bracedFrom_append_token {name : String} (hname : IsBraceFree name)
    (state : Option (List Char)) (cs : List Char) :
    bracedFrom state (cs ++ (tokenText name).toList) = bracedFrom state cs ++ [name.toList] := by
  have hbegun := bracedFrom_some_append hname.1 hname.2 []
  rw [toList_tokenText]
  fun_induction bracedFrom state cs with
  | case1 state =>
      -- the opening brace begins anew, whether or not another one is open
      cases state <;> simpa [bracedFrom] using hbegun
  | case2 c rest ih => exact ih
  | case3 opened rest ih =>
      rw [List.cons_append, bracedFrom, if_pos rfl, ih, List.cons_append]
  | case4 opened c rest hother ih => rw [List.cons_append, bracedFrom, if_neg hother, ih]

theorem placeholders_append_text (path : String) {text : String} (hclose : '\x7d' ∉ text.toList) :
    placeholders (path ++ text) = placeholders path := by
  rw [placeholders, String.toList_append, bracedFrom_append_text hclose, placeholders]

theorem placeholders_append_token (path : String) {name : String} (hname : IsBraceFree name) :
    placeholders (path ++ tokenText name) = placeholders path ++ [name] := by
  rw [placeholders, String.toList_append, bracedFrom_append_token hname, List.map_append,
    placeholders, List.map_singleton, String.ofList_toList]

theorem placeholders_eq_nil {text : String} (htext : IsBraceFree text) :
    placeholders text = [] := by
  rw [placeholders, bracedFrom_eq_nil htext.2, List.map_nil]

/-! ## Paths -/

namespace ResourceConfiguration

theorem placeholders_itemPath (config : ResourceConfiguration) :
    placeholders config.itemPath = placeholders config.basePath ++ ["id"] := by
  have hsegment : "/\x7bid\x7d" = "/" ++ tokenText "id" := by decide
  rw [itemPath, hsegment, ← String.append_assoc, placeholders_append_token _ (by decide),
    placeholders_append_text _ (by decide)]

theorem placeholders_searchPath (config : ResourceConfiguration) :
    placeholders config.searchPath = placeholders config.basePath :=
  placeholders_append_text _ (by decide)

theorem placeholders_relationPath (config : ResourceConfiguration) {relation : Relation}
    (hname : IsBraceFree relation.name) :
    placeholders (config.relationPath relation) = placeholders config.basePath ++ ["id"] := by
  rw [relationPath, placeholders_append_text _ hname.2, placeholders_append_text _ (by decide),
    placeholders_itemPath]

theorem placeholders_relationItemPath (config : ResourceConfiguration) {relation : Relation}
    (hname : IsBraceFree relation.name) :
    placeholders (config.relationItemPath relation) =
      placeholders config.basePath ++ ["id", "relationId"] := by
  have hsegment : "/\x7brelationId\x7d" = "/" ++ tokenText "relationId" := by decide
  rw [relationItemPath, hsegment, ← String.append_assoc, placeholders_append_token _ (by decide),
    placeholders_append_text _ (by decide), placeholders_relationPath config hname,
    List.append_assoc, List.singleton_append]

end ResourceConfiguration

/-! ## Parameters -/

def Operation.parametersFrom (operation : Operation) (source : ParameterSource) :
    List Parameter :=
  operation.parameters.filter fun parameter => parameter.source = source

structure Operation.Binds (operation : Operation) : Prop where
  path : (placeholders operation.path).map snakeCase =
    (operation.parametersFrom .path).map Parameter.name
  body : (operation.parametersFrom .body).length ≤ 1
  bodyOfGet : .get ∈ operation.endpoint.verbs → operation.parametersFrom .body = []

namespace ResourceConfiguration

theorem snakeCase_id : snakeCase "id" = "id" := by
  decide +kernel

theorem snakeCase_relationId : snakeCase "relationId" = "relation_id" := by
  decide +kernel

variable {config : ResourceConfiguration} {operation : Operation}

theorem binds_of_mem_resourceContributions (hbase : IsBraceFree config.basePath)
    (hoperation : operation ∈ (config.withRoutes .empty).resourceContributions) :
    operation.Binds := by
  have hpath := placeholders_eq_nil hbase
  have hitem := config.placeholders_itemPath
  have hsearch := config.placeholders_searchPath
  rw [hpath] at hitem hsearch
  rw [resourceContributions_withoutRoutes] at hoperation
  simp only [List.mem_cons, List.not_mem_nil, or_false] at hoperation
  rcases hoperation with rfl | rfl | rfl | rfl | rfl | rfl | rfl
  all_goals
    constructor <;>
    simp [Operation.path, Operation.parametersFrom, ResourceConfiguration.operation, hpath, hitem,
      hsearch, snakeCase_id, idParameter, requestParameter, searchParameters, Parameter.path,
      Parameter.body, Parameter.query]

theorem binds_of_mem_relationContributions (hbase : IsBraceFree config.basePath)
    {relation : Relation} (hname : IsBraceFree relation.name)
    (hoperation : operation ∈ (config.withRoutes .empty).relationContributions relation) :
    operation.Binds := by
  have hpath := config.placeholders_relationPath hname
  have hitem := config.placeholders_relationItemPath hname
  rw [placeholders_eq_nil hbase, List.nil_append] at hpath hitem
  rw [relationContributions_withoutRoutes] at hoperation
  cases hcardinality : relation.cardinality <;>
    simp only [hcardinality, List.mem_cons, List.not_mem_nil, or_false] at hoperation
  case single =>
    rcases hoperation with rfl | rfl | rfl
    all_goals
      constructor <;>
      simp [Operation.path, Operation.parametersFrom, relationOperation, hpath, snakeCase_id,
        idParameter, Relation.payloadParameter, Relation.writeVerbs, Parameter.path,
        Parameter.body]
  case multiple =>
    rcases hoperation with rfl | rfl | rfl | rfl | rfl
    all_goals
      constructor <;>
      simp [Operation.path, Operation.parametersFrom, relationOperation, hpath, hitem,
        snakeCase_id, snakeCase_relationId, idParameter, Relation.idParameter,
        Relation.payloadParameter, Relation.writeVerbs, Parameter.path, Parameter.body]

end ResourceConfiguration

/--
If the base path and the names of the relations have no braces, the placeholders of a path are, in
snake case, the parameters that are bound from it.  At most one parameter is bound from the body,
and none where the operation answers `GET`.
-/
theorem placeholders_eq_pathParameters {config : ResourceConfiguration}
    (hbase : IsBraceFree config.basePath)
    (hrelations : ∀ relation ∈ config.relations, IsBraceFree relation.name) :
    ∀ operation ∈ config.synthesize.operations,
      (placeholders operation.path).map snakeCase =
          (operation.parametersFrom .path).map Parameter.name ∧
        (operation.parametersFrom .body).length ≤ 1 ∧
        (.get ∈ operation.endpoint.verbs → operation.parametersFrom .body = []) := by
  intro operation hoperation
  have hbinds : operation.Binds := by
    have hplanned := (ResourceConfiguration.mem_operations_iff.mp hoperation).1
    rcases ResourceConfiguration.mem_plannedOperations_iff.mp hplanned with
      hresource | ⟨relation, hrelation, hcontributed⟩
    · exact ResourceConfiguration.binds_of_mem_resourceContributions hbase hresource
    · exact ResourceConfiguration.binds_of_mem_relationContributions hbase
        (hrelations relation hrelation) hcontributed
  exact ⟨hbinds.path, hbinds.body, hbinds.bodyOfGet⟩

theorem orders_placeholders :
    IsBraceFree orders.basePath ∧
      (∀ relation ∈ orders.relations, IsBraceFree relation.name) ∧
      ∃ operation ∈ orders.synthesize.operations,
        operation.path = "/orders/\x7bid\x7d/products/\x7brelationId\x7d" ∧
          (operation.parametersFrom .path).map Parameter.name = ["id", "relation_id"] := by
  have hbase : IsBraceFree orders.basePath := by decide
  have hrelations : ∀ relation ∈ orders.relations, IsBraceFree relation.name := by decide
  obtain ⟨operation, hoperation, hpath⟩ : ∃ operation ∈ orders.synthesize.operations,
      operation.path = "/orders/\x7bid\x7d/products/\x7brelationId\x7d" := by decide
  refine ⟨hbase, hrelations, operation, hoperation, hpath, ?_⟩
  rw [← (placeholders_eq_pathParameters hbase hrelations operation hoperation).1, hpath]
  decide +kernel

end ApiSurface
