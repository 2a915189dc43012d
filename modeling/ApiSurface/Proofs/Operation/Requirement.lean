import ApiSurface.Proofs.Operation.Typing

/-!
# Roles that operations require

A security policy adds required roles to the operations of a controller and changes nothing
else.  Which roles they are depends on the kind of the operation, on the resource type and, on
a relation, on the related type (`security_follows_policy`).
-/

namespace ApiSurface

open Naming

/-! ## Operations without their roles -/

def Operation.withoutSecurity (operation : Operation) : Operation :=
  { operation with security := none }

def OperationSet.withoutSecurity (set : OperationSet) : OperationSet :=
  { set with operations := set.operations.map Operation.withoutSecurity }

/-! ## Roles by kind -/

def OperationKind.access : OperationKind → Access
  | .create => .create
  | .read | .list | .search | .relationGet | .relationGetAll => .read
  | .updatePartial | .replace | .relationSet | .relationDelete | .relationAdd
  | .relationAddById | .relationRemove | .relationRemoveById => .update
  | .delete => .delete

/-- The roles for an operation on a resource or on a relation of it, in order. -/
def SecurityPolicy.rolesFor (policy : SecurityPolicy) (kind : OperationKind)
    (resourceType : String) : Option Relation → List String
  | none => [policy.role kind.access.text (simpleName resourceType) (simpleName resourceType)]
  | some relation =>
      policy.role kind.access.text (simpleName relation.relatedType)
          (simpleName relation.relatedType) ::
        if policy.inclusiveRelations then
          [policy.role kind.access.text (simpleName resourceType) (simpleName resourceType)]
        else []

namespace ResourceConfiguration

def withSecurity (config : ResourceConfiguration) (security : Option SecurityPolicy) :
    ResourceConfiguration :=
  { config with security := security }

/-! ## One policy or another -/

variable (config : ResourceConfiguration) (security : Option SecurityPolicy)

theorem resourceContributions_withSecurity :
    ((config.withSecurity security).withRoutes .empty).resourceContributions.map
        Operation.withoutSecurity =
      (config.withRoutes .empty).resourceContributions.map Operation.withoutSecurity :=
  rfl

theorem relationContributions_withSecurity (relation : Relation) :
    (((config.withSecurity security).withRoutes .empty).relationContributions relation).map
        Operation.withoutSecurity =
      ((config.withRoutes .empty).relationContributions relation).map
        Operation.withoutSecurity := by
  simp only [relationContributions_withoutRoutes]
  cases relation.cardinality <;> rfl

theorem plannedOperations_withSecurity :
    (config.withSecurity security).plannedOperations.map Operation.withoutSecurity =
      config.plannedOperations.map Operation.withoutSecurity := by
  simp only [plannedOperations, synthesize_operations, List.map_append, List.map_flatMap,
    resourceContributions_withSecurity]
  congr 1
  exact List.flatMap_congr fun relation _ =>
    config.relationContributions_withSecurity security relation

/-- Which operations the hand-written routes take away does not depend on the roles. -/
theorem operations_withoutSecurity :
    config.synthesize.operations.map Operation.withoutSecurity =
      (config.plannedOperations.map Operation.withoutSecurity).filter fun operation =>
        !operation.isRouted config.handRoutes := by
  have hoperations := operations_withRoutes config config.handRoutes
  rw [List.filter_map]
  exact congrArg (List.map Operation.withoutSecurity) hoperations

theorem synthesize_withSecurity :
    (config.withSecurity security).synthesize.withoutSecurity =
      config.synthesize.withoutSecurity := by
  have hoperations :
      (config.withSecurity security).synthesize.operations.map Operation.withoutSecurity =
        config.synthesize.operations.map Operation.withoutSecurity := by
    rw [operations_withoutSecurity, operations_withoutSecurity, plannedOperations_withSecurity]
    rfl
  simp only [OperationSet.withoutSecurity, hoperations]
  rfl

/-! ## The roles of each operation -/

variable {config}

theorem resourceContribution_security {operation : Operation}
    (hoperation : operation ∈ (config.withRoutes .empty).resourceContributions) :
    operation.kind.isRelation = false ∧
      operation.security = config.security.map fun policy =>
        ⟨policy.rolesFor operation.kind config.resourceType none⟩ := by
  rw [resourceContributions_withoutRoutes] at hoperation
  simp only [List.mem_cons, List.not_mem_nil, or_false] at hoperation
  rcases hoperation with rfl | rfl | rfl | rfl | rfl | rfl | rfl <;> exact ⟨rfl, rfl⟩

theorem relationContribution_security {relation : Relation} {operation : Operation}
    (hoperation : operation ∈ (config.withRoutes .empty).relationContributions relation) :
    operation.kind.isRelation = true ∧
      operation.security = config.security.map fun policy =>
        ⟨policy.rolesFor operation.kind config.resourceType (some relation)⟩ := by
  rw [relationContributions_withoutRoutes] at hoperation
  cases hcardinality : relation.cardinality <;>
    simp only [hcardinality, List.mem_cons, List.not_mem_nil, or_false] at hoperation
  case single => rcases hoperation with rfl | rfl | rfl <;> exact ⟨rfl, rfl⟩
  case multiple => rcases hoperation with rfl | rfl | rfl | rfl | rfl <;> exact ⟨rfl, rfl⟩

end ResourceConfiguration

/--
Another policy changes the roles of operations and nothing else.  Without a policy there are
none, and with one they are those for the kind of the operation and for what it is on.
-/
theorem security_follows_policy (config : ResourceConfiguration) :
    (∀ security, (config.withSecurity security).synthesize.withoutSecurity =
        config.synthesize.withoutSecurity) ∧
      ∀ operation ∈ config.synthesize.operations,
        (config.security = none → operation.security = none) ∧
          (∃ subject, config.Makes operation subject) ∧
          ∀ subject, config.Makes operation subject →
            operation.kind.isRelation = subject.isSome ∧
              ∀ policy ∈ config.security, operation.security =
                some ⟨policy.rolesFor operation.kind config.resourceType subject⟩ := by
  refine ⟨config.synthesize_withSecurity, fun operation hoperation => ?_⟩
  have hroles (subject : Option Relation) (hmakes : config.Makes operation subject) :
      operation.kind.isRelation = subject.isSome ∧
        operation.security = config.security.map fun policy =>
          ⟨policy.rolesFor operation.kind config.resourceType subject⟩ := by
    cases subject with
    | none =>
        exact ResourceConfiguration.resourceContribution_security
          (ResourceConfiguration.planned_of_mem_resourceContributions hmakes)
    | some relation =>
        exact ResourceConfiguration.relationContribution_security
          (ResourceConfiguration.planned_of_mem_relationContributions hmakes.2)
  obtain ⟨subject, hmakes⟩ := config.exists_makes hoperation
  refine ⟨fun hnone => ?_, ⟨subject, hmakes⟩, fun subject hmakes => ?_⟩
  · rw [(hroles subject hmakes).2, hnone]
    rfl
  · obtain ⟨hrelation, hsecurity⟩ := hroles subject hmakes
    refine ⟨hrelation, fun policy hpolicy => ?_⟩
    rw [hsecurity, Option.mem_def.mp hpolicy]
    rfl

def ordersWithRoles : ResourceConfiguration :=
  orders.withSecurity (some .default)

theorem ordersWithRoles_get_requires :
    ∃ operation ∈ ordersWithRoles.synthesize.operations, operation.name = "get_customer" ∧
      operation.security = some ⟨["ROLE_READ_CUSTOMER", "ROLE_READ_ORDER"]⟩ := by
  obtain ⟨operation, hoperation, relation, hrelation, hmember, hname, hkind, hrelated⟩ :
      ∃ operation ∈ ordersWithRoles.synthesize.operations,
        ∃ relation ∈ ordersWithRoles.relations,
          operation ∈ ordersWithRoles.relationContributions relation ∧
            operation.name = "get_customer" ∧ operation.kind = .relationGet ∧
              relation.relatedType = "shop.Customer" := by
    decide
  have hroles := (security_follows_policy ordersWithRoles).2 operation hoperation
  obtain ⟨-, hsecurity⟩ := hroles.2.2 (some relation) ⟨hrelation, hmember⟩
  refine ⟨operation, hoperation, hname, ?_⟩
  rw [hsecurity .default rfl, hkind, SecurityPolicy.rolesFor, hrelated]
  decide

end ApiSurface
