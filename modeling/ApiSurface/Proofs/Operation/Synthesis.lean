import ApiSurface.Operation.Set
import Mathlib.Data.List.Basic

/-!
# Which operations a controller has

A synthesizer declines exactly when one of its verbs is routed at its path by hand, and nothing
else of an operation depends on the hand-written routes.  So the operations of a controller are
those that it would have without such routes, less the ones whose route is taken
(`synthesize_withRoutes`).
-/

namespace ApiSurface

/-! ## Hand-written routes -/

def Operation.isRouted (operation : Operation) (routes : RouteTable) : Bool :=
  routes.containsAny operation.verbNames operation.path

theorem Operation.isRouted_eq_false_iff {operation : Operation} {routes : RouteTable} :
    operation.isRouted routes = false ↔
      ∀ verb ∈ operation.verbNames, Route.key verb operation.path ∉ routes.routes := by
  simp [isRouted, RouteTable.containsAny, RouteTable.contains]

namespace ResourceConfiguration

def withRoutes (config : ResourceConfiguration) (routes : RouteTable) : ResourceConfiguration :=
  { config with handRoutes := routes }

def plannedOperations (config : ResourceConfiguration) : List Operation :=
  (config.withRoutes .empty).synthesize.operations

theorem claim_withoutRoutes (config : ResourceConfiguration) (verbs : List Verb)
    (path : String) :
    (config.withRoutes .empty).claim verbs path = some ⟨verbs, path⟩ := by
  simp [claim, withRoutes, RouteTable.containsAny, RouteTable.contains, RouteTable.empty]

/-- Claiming an endpoint first is the only way in which a synthesizer looks at the routes. -/
private theorem claim_bind_withRoutes (config : ResourceConfiguration) (routes : RouteTable)
    (verbs : List Verb) (path : String) {draft : Endpoint → Operation}
    (hdraft : ∀ endpoint, (draft endpoint).endpoint = endpoint) :
    ((config.withRoutes routes).claim verbs path).bind (fun endpoint => some (draft endpoint)) =
      (((config.withRoutes .empty).claim verbs path).bind
        fun endpoint => some (draft endpoint)).filter
          fun operation => !operation.isRouted routes := by
  have hrouted : (draft ⟨verbs, path⟩).isRouted routes =
      routes.containsAny (verbs.map Verb.text) path := by
    simp [Operation.isRouted, Operation.verbNames, Operation.path, hdraft, Endpoint.verbNames]
  rw [claim_withoutRoutes, Option.bind_some, Option.filter_some, hrouted]
  cases htaken : routes.containsAny (verbs.map Verb.text) path <;>
    simp [claim, withRoutes, Endpoint.verbNames, htaken]

/-! ## One synthesizer -/

theorem synthesizer_withRoutes (config : ResourceConfiguration) (routes : RouteTable)
    {entry : OperationKind × Synthesizer} (hentry : entry ∈ resourceSynthesizers) :
    entry.2 (config.withRoutes routes) =
      (entry.2 (config.withRoutes .empty)).filter fun operation =>
        !operation.isRouted routes := by
  simp only [resourceSynthesizers, List.mem_cons, List.not_mem_nil, or_false] at hentry
  rcases hentry with rfl | rfl | rfl | rfl | rfl | rfl | rfl <;>
    exact claim_bind_withRoutes config routes _ _ fun _ => rfl

theorem relationSynthesizer_withRoutes (config : ResourceConfiguration) (routes : RouteTable)
    (relation : Relation) {cardinality : Cardinality}
    {entry : OperationKind × RelationSynthesizer}
    (hentry : entry ∈ relationSynthesizers cardinality) :
    entry.2 (config.withRoutes routes) relation =
      (entry.2 (config.withRoutes .empty) relation).filter fun operation =>
        !operation.isRouted routes := by
  cases cardinality <;>
    simp only [relationSynthesizers, List.mem_cons, List.not_mem_nil, or_false] at hentry
  case single =>
    rcases hentry with rfl | rfl | rfl <;>
      exact claim_bind_withRoutes config routes _ _ fun _ => rfl
  case multiple =>
    rcases hentry with rfl | rfl | rfl | rfl | rfl <;>
      exact claim_bind_withRoutes config routes _ _ fun _ => rfl

/-! ## All synthesizers -/

def resourceContributions (config : ResourceConfiguration) : List Operation :=
  config.resourceOutcomes.filterMap Outcome.contributed

def relationContributions (config : ResourceConfiguration) (relation : Relation) :
    List Operation :=
  (config.relationOutcomes relation).filterMap Outcome.contributed

theorem synthesize_operations (config : ResourceConfiguration) :
    config.synthesize.operations =
      config.resourceContributions ++ config.relations.flatMap config.relationContributions := by
  simp only [synthesize, outcomes, List.filterMap_append, List.filterMap_flatMap]
  rfl

theorem resourceContributions_withRoutes (config : ResourceConfiguration)
    (routes : RouteTable) :
    (config.withRoutes routes).resourceContributions =
      (config.withRoutes .empty).resourceContributions.filter fun operation =>
        !operation.isRouted routes := by
  simp only [resourceContributions, resourceOutcomes, List.filterMap_map, List.filter_filterMap]
  exact List.filterMap_congr fun entry hentry => synthesizer_withRoutes config routes hentry

theorem relationContributions_withRoutes (config : ResourceConfiguration)
    (routes : RouteTable) (relation : Relation) :
    (config.withRoutes routes).relationContributions relation =
      ((config.withRoutes .empty).relationContributions relation).filter fun operation =>
        !operation.isRouted routes := by
  simp only [relationContributions, relationOutcomes, List.filterMap_map, List.filter_filterMap]
  exact List.filterMap_congr fun entry hentry =>
    relationSynthesizer_withRoutes config routes relation hentry

theorem planned_of_mem_resourceContributions {config : ResourceConfiguration}
    {operation : Operation} (hoperation : operation ∈ config.resourceContributions) :
    operation ∈ (config.withRoutes .empty).resourceContributions := by
  have hmember : operation ∈ (config.withRoutes config.handRoutes).resourceContributions :=
    hoperation
  rw [resourceContributions_withRoutes] at hmember
  exact List.mem_of_mem_filter hmember

theorem planned_of_mem_relationContributions {config : ResourceConfiguration}
    {relation : Relation} {operation : Operation}
    (hoperation : operation ∈ config.relationContributions relation) :
    operation ∈ (config.withRoutes .empty).relationContributions relation := by
  have hmember :
      operation ∈ (config.withRoutes config.handRoutes).relationContributions relation :=
    hoperation
  rw [relationContributions_withRoutes] at hmember
  exact List.mem_of_mem_filter hmember

theorem operations_withRoutes (config : ResourceConfiguration) (routes : RouteTable) :
    (config.withRoutes routes).synthesize.operations =
      config.plannedOperations.filter fun operation => !operation.isRouted routes := by
  simp only [plannedOperations, synthesize_operations, List.filter_append, List.filter_flatMap]
  rw [resourceContributions_withRoutes config routes]
  congr 1
  exact List.flatMap_congr fun relation _ =>
    relationContributions_withRoutes config routes relation

theorem mem_operations_iff {config : ResourceConfiguration} {operation : Operation} :
    operation ∈ config.synthesize.operations ↔
      operation ∈ config.plannedOperations ∧ operation.isRouted config.handRoutes = false := by
  rw [show config.synthesize = (config.withRoutes config.handRoutes).synthesize from rfl,
    operations_withRoutes, List.mem_filter, Bool.not_eq_true']

/-! ## The table of operations, if no route is written by hand -/

theorem resourceContributions_withoutRoutes (config : ResourceConfiguration) :
    (config.withRoutes .empty).resourceContributions =
      [config.operation .create ⟨[.post], config.basePath⟩ "create"
          [config.requestParameter] .create config.createBody (.item config.singleShape),
        config.operation .read ⟨[.get], config.itemPath⟩ "get"
          [config.idParameter] .read config.readBody (.item config.singleShape),
        config.operation .updatePartial ⟨[.patch], config.itemPath⟩ "update"
          [config.idParameter, config.requestParameter] .update config.updateBody
          (.item config.singleShape),
        config.operation .replace ⟨[.put], config.itemPath⟩ "set"
          [config.idParameter, config.requestParameter] .update config.replaceBody
          (.item config.singleShape),
        config.operation .delete ⟨[.delete], config.itemPath⟩ "delete"
          [config.idParameter] .delete config.deleteBody .empty,
        config.operation .list ⟨[.get], config.basePath⟩ "all"
          [] .read config.listBody (.sequence config.listShape),
        config.operation .search ⟨[.get], config.searchPath⟩ "search_all"
          config.searchParameters .read config.searchBody (.page config.listShape)] :=
  rfl

theorem relationContributions_withoutRoutes (config : ResourceConfiguration)
    (relation : Relation) :
    (config.withRoutes .empty).relationContributions relation =
      match relation.cardinality with
      | .single =>
          [config.relationOperation relation .relationGet
              ⟨[.get], config.relationPath relation⟩ (relation.pluralOperationName "get")
              [config.idParameter] .read (config.getBody relation)
              (.item relation.responseShape),
            config.relationOperation relation .relationSet
              ⟨Relation.writeVerbs, config.relationPath relation⟩
              (relation.pluralOperationName "set")
              [config.idParameter, relation.payloadParameter] .update relation.setBody
              (.item relation.responseShape),
            config.relationOperation relation .relationDelete
              ⟨[.delete], config.relationPath relation⟩ (relation.pluralOperationName "remove")
              [config.idParameter] .update (config.clearBody relation) .empty]
      | .multiple =>
          [config.relationOperation relation .relationGetAll
              ⟨[.get], config.relationPath relation⟩ (relation.pluralOperationName "get")
              [config.idParameter] .read (config.getAllBody relation)
              (.sequence relation.responseShape),
            config.relationOperation relation .relationAdd
              ⟨Relation.writeVerbs, config.relationPath relation⟩
              (relation.singularOperationName "add")
              [config.idParameter, relation.payloadParameter] .update
              (relation.handOver "add") (.sequence relation.responseShape),
            config.relationOperation relation .relationAddById
              ⟨Relation.writeVerbs, config.relationItemPath relation⟩
              (relation.byIdOperationName "add")
              [config.idParameter, relation.idParameter] .update relation.addByIdBody
              (.sequence relation.responseShape),
            config.relationOperation relation .relationRemove
              ⟨[.delete], config.relationPath relation⟩
              (relation.singularOperationName "remove")
              [config.idParameter, relation.payloadParameter] .update
              (relation.handOver "remove") .empty,
            config.relationOperation relation .relationRemoveById
              ⟨[.delete], config.relationItemPath relation⟩
              (relation.byIdOperationName "remove")
              [config.idParameter, relation.idParameter] .update
              (config.removeByIdBody relation) .empty] := by
  cases hcardinality : relation.cardinality <;>
    simp only [relationContributions, relationOutcomes, hcardinality] <;> rfl

theorem mem_plannedOperations_iff {config : ResourceConfiguration} {operation : Operation} :
    operation ∈ config.plannedOperations ↔
      operation ∈ (config.withRoutes .empty).resourceContributions ∨
        ∃ relation ∈ config.relations,
          operation ∈ (config.withRoutes .empty).relationContributions relation := by
  rw [plannedOperations, synthesize_operations, List.mem_append, List.mem_flatMap]
  rfl

theorem mem_plannedOperations_of_relation {config : ResourceConfiguration} {relation : Relation}
    {operation : Operation} (hrelation : relation ∈ config.relations)
    (hoperation : operation ∈ (config.withRoutes .empty).relationContributions relation) :
    operation ∈ config.plannedOperations :=
  mem_plannedOperations_iff.mpr (.inr ⟨relation, hrelation, hoperation⟩)

/-! ## The order of operations -/

def resourceKinds : List OperationKind :=
  [.create, .read, .updatePartial, .replace, .delete, .list, .search]

def relationKinds : Cardinality → List OperationKind
  | .single => [.relationGet, .relationSet, .relationDelete]
  | .multiple =>
      [.relationGetAll, .relationAdd, .relationAddById, .relationRemove, .relationRemoveById]

theorem kinds_relationContributions (config : ResourceConfiguration) (relation : Relation) :
    ((config.withRoutes .empty).relationContributions relation).map
        (fun operation => (operation.kind, operation.relation)) =
      (relationKinds relation.cardinality).map (·, some relation.name) := by
  obtain ⟨name, cardinality, _, _, _, _, _⟩ := relation
  cases cardinality <;> rfl

theorem relation_of_mem_relationContributions {config : ResourceConfiguration}
    {relation : Relation} {operation : Operation}
    (hoperation : operation ∈ (config.withRoutes .empty).relationContributions relation) :
    operation.relation = some relation.name := by
  have hkind : (operation.kind, operation.relation) ∈
      (relationKinds relation.cardinality).map (·, some relation.name) :=
    kinds_relationContributions config relation ▸ List.mem_map_of_mem hoperation
  obtain ⟨kind, -, heq⟩ := List.mem_map.mp hkind
  exact (Prod.mk.inj heq).2.symm

theorem kinds_resourceContributions (config : ResourceConfiguration) :
    (config.withRoutes .empty).resourceContributions.map
        (fun operation => (operation.kind, operation.relation)) =
      resourceKinds.map (·, none) :=
  rfl

theorem relation_of_mem_resourceContributions {config : ResourceConfiguration}
    {operation : Operation}
    (hoperation : operation ∈ (config.withRoutes .empty).resourceContributions) :
    operation.relation = none := by
  have hkind : (operation.kind, operation.relation) ∈ resourceKinds.map (·, none) :=
    kinds_resourceContributions config ▸ List.mem_map_of_mem hoperation
  obtain ⟨kind, -, heq⟩ := List.mem_map.mp hkind
  exact (Prod.mk.inj heq).2.symm

theorem kinds_plannedOperations (config : ResourceConfiguration) :
    config.plannedOperations.map (fun operation => (operation.kind, operation.relation)) =
      resourceKinds.map (·, none) ++
        config.relations.flatMap fun relation =>
          (relationKinds relation.cardinality).map (·, some relation.name) := by
  simp only [plannedOperations, synthesize_operations, List.map_append, List.map_flatMap,
    kinds_relationContributions, kinds_resourceContributions]
  rfl

/--
With hand-written routes a controller has the operations that it has without them, each as it
is and in the same order, except those with a verb that is routed at their path.  Without such
routes there are seven operations on the resource and three or five on each relation.
-/
theorem synthesize_withRoutes (config : ResourceConfiguration) (routes : RouteTable) :
    (config.withRoutes routes).synthesize =
        { (config.withRoutes .empty).synthesize with
          operations :=
            (config.withRoutes .empty).synthesize.operations.filter fun operation =>
              decide (∀ verb ∈ operation.verbNames,
                ⟨upperAscii verb, Text.lowercase operation.path⟩ ∉ routes.routes) } ∧
      (config.withRoutes .empty).synthesize.operations.map
          (fun operation => (operation.kind, operation.relation)) =
        resourceKinds.map (·, none) ++
          config.relations.flatMap fun relation =>
            (relationKinds relation.cardinality).map (·, some relation.name) := by
  refine ⟨?_, kinds_plannedOperations config⟩
  have hkept (operation : Operation) : (!operation.isRouted routes) =
      decide (∀ verb ∈ operation.verbNames,
        ⟨upperAscii verb, Text.lowercase operation.path⟩ ∉ routes.routes) := by
    rw [Bool.eq_iff_iff, Bool.not_eq_true', decide_eq_true_iff]
    exact Operation.isRouted_eq_false_iff
  have hoperations := operations_withRoutes config routes
  simp only [hkept] at hoperations
  rw [plannedOperations] at hoperations
  rw [← hoperations]
  rfl

end ResourceConfiguration

end ApiSurface
