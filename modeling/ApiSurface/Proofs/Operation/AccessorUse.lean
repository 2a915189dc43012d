import ApiSurface.Lint.Report
import ApiSurface.Proofs.Operation.Response

/-!
# Accessors that operations use

The synthesizers call accessors of the owner, and the linter keeps a list of the accessors that an
entity has to declare for a relation.  The two are the same: without hand-written routes the
operations on a relation use every accessor of the list and no other, and with such routes they
use no more (`accessorsOn_relation`).
-/

namespace ApiSurface

/-! ## Accessors in a body -/

/-- The accessor that a step reads or calls on a record. -/
@[simp] def Step.accessor? : Step → Option String
  | .readAccessor _ accessor _ | .invokeAccessor _ accessor _ => some accessor
  | _ => none

def accessorsIn (body : List Step) : List String :=
  body.filterMap Step.accessor?

@[simp] theorem accessorsIn_cons (step : Step) (body : List Step) :
    accessorsIn (step :: body) = step.accessor?.toList ++ accessorsIn body := by
  cases haccessor : step.accessor? <;> rw [accessorsIn, List.filterMap_cons, haccessor] <;> rfl

@[simp] theorem accessorsIn_append (body other : List Step) :
    accessorsIn (body ++ other) = accessorsIn body ++ accessorsIn other :=
  List.filterMap_append

@[simp] theorem accessorsIn_mapped (differs : Bool) (source shape into : String) :
    accessorsIn (mapped differs source shape into).steps = [] := by
  cases differs <;> rfl

@[simp] theorem accessorsIn_mappedEach (differs : Bool) (source shape into : String) :
    accessorsIn (mappedEach differs source shape into).steps = [] := by
  cases differs <;> rfl

theorem Ends.accessorsIn_eq_nil {config : ResourceConfiguration} {shape : ResponseShape}
    {ending : List Step} (hends : Ends config shape ending) : accessorsIn ending = [] := by
  cases hends <;> rfl

@[simp] theorem accessorsIn_respondEmpty (config : ResourceConfiguration) :
    accessorsIn (respondEmpty config) = [] :=
  (respondEmpty_ends config).accessorsIn_eq_nil

@[simp] theorem accessorsIn_respondWith (config : ResourceConfiguration) (shape : ResponseShape)
    (source : String) : accessorsIn (respondWith config shape source) = [] :=
  (respondWith_ends config shape source).accessorsIn_eq_nil

@[simp] theorem accessorsIn_respondThrough (operation : String) (arguments : List String) :
    accessorsIn (respondThrough operation arguments) = [] :=
  rfl

@[simp] theorem accessorsIn_changeOwner (accessor : String) (value : Option String) :
    accessorsIn (Relation.changeOwner accessor value) = [accessor] :=
  rfl

@[simp] theorem accessorsIn_changeById (relation : Relation) (accessor : String) :
    accessorsIn (relation.changeById accessor) = [accessor] :=
  rfl

@[simp] theorem accessorsIn_handOver (relation : Relation) (verb : String) :
    accessorsIn (relation.handOver verb) = [] := by
  simp [Relation.handOver, Relation.payloadValue]

/-! ## Accessors of the operations on a relation -/

def OperationSet.accessorsOn (set : OperationSet) (relation : String) : List String :=
  (set.operations.filter fun operation => operation.relation == some relation).flatMap
    fun operation => accessorsIn operation.body

theorem OperationSet.mem_accessorsOn_iff {set : OperationSet} {relation accessor : String} :
    accessor ∈ set.accessorsOn relation ↔
      ∃ operation ∈ set.operations, operation.relation = some relation ∧
        accessor ∈ accessorsIn operation.body := by
  simp [accessorsOn, and_assoc]

namespace ResourceConfiguration

theorem accessorsIn_relationContributions (config : ResourceConfiguration) (relation : Relation) :
    ((config.withRoutes .empty).relationContributions relation).flatMap
        (fun operation => accessorsIn operation.body) =
      match relation.cardinality with
      | .single => [relation.accessors.get, relation.accessors.set, relation.accessors.set]
      | .multiple =>
          [relation.accessors.get, relation.accessors.add, relation.accessors.remove] := by
  rw [relationContributions_withoutRoutes]
  cases relation.cardinality
  case single =>
    simp [relationOperation, getBody, Relation.setBody, clearBody, Relation.respondState,
      Relation.readOwnerStep, Relation.payloadValue]
  case multiple =>
    simp [relationOperation, getAllBody, Relation.addByIdBody, removeByIdBody,
      Relation.respondState, Relation.readOwnerStep]

theorem exists_use_iff_required (config : ResourceConfiguration) (relation : Relation)
    (accessor : String) :
    (∃ operation ∈ (config.withRoutes .empty).relationContributions relation,
        accessor ∈ accessorsIn operation.body) ↔
      accessor ∈ relation.accessors.requiredFor relation.cardinality := by
  rw [← List.mem_flatMap, accessorsIn_relationContributions]
  cases relation.cardinality <;>
    simp [Accessors.requiredFor, Accessors.requiredKinds, Accessors.slot]

end ResourceConfiguration

/-! ## The linter's list -/

theorem Lint.relationIssues_eq_nil_iff {methods : List MethodDecl} {resourceType : String}
    {relation : Relation} :
    relationIssues methods resourceType relation = [] ↔
      ∀ accessor ∈ relation.accessors.requiredFor relation.cardinality,
        ∃ method ∈ methods, method.name = accessor := by
  simp [relationIssues]

/--
For every relation, the accessors that its operations use without hand-written routes are those
that the linter wants declared, and routes only ever take some of them away.  So the linter is
content with the methods of an entity just if all that these operations call is declared.
-/
theorem accessorsOn_relation (config : ResourceConfiguration)
    (hnames : (config.relations.map Relation.name).Nodup) :
    ∀ relation ∈ config.relations,
      (∀ accessor,
        accessor ∈ (config.withRoutes .empty).synthesize.accessorsOn relation.name ↔
          accessor ∈ relation.accessors.requiredFor relation.cardinality) ∧
      (∀ routes accessor,
        accessor ∈ (config.withRoutes routes).synthesize.accessorsOn relation.name →
          accessor ∈ relation.accessors.requiredFor relation.cardinality) ∧
      ∀ methods,
        Lint.relationIssues methods config.resourceType relation = [] ↔
          ∀ accessor ∈ (config.withRoutes .empty).synthesize.accessorsOn relation.name,
            ∃ method ∈ methods, method.name = accessor := by
  intro relation hrelation
  have hplanned (accessor : String) :
      accessor ∈ (config.withRoutes .empty).synthesize.accessorsOn relation.name ↔
        accessor ∈ relation.accessors.requiredFor relation.cardinality := by
    rw [OperationSet.mem_accessorsOn_iff,
      ← ResourceConfiguration.exists_use_iff_required config relation]
    simp only [ResourceConfiguration.mem_relationContributions_iff hnames hrelation, and_assoc]
    rfl
  refine ⟨hplanned, fun routes accessor hused => ?_, fun methods => ?_⟩
  · obtain ⟨operation, hoperation, hmanages, huses⟩ := OperationSet.mem_accessorsOn_iff.mp hused
    obtain ⟨hpresent, -⟩ := ResourceConfiguration.mem_operations_iff.mp hoperation
    exact (hplanned accessor).mp
      (OperationSet.mem_accessorsOn_iff.mpr ⟨operation, hpresent, hmanages, huses⟩)
  · rw [Lint.relationIssues_eq_nil_iff]
    simp only [hplanned]

/-- Where reading the customer is written by hand, the accessor that reads it is not used; it is
used without that route. -/
theorem ordersReadByHand_accessorsOn :
    (orders.relations.map Relation.name).Nodup ∧
      "getCustomer" ∈ (orders.withRoutes .empty).synthesize.accessorsOn "customer" ∧
      "getCustomer" ∉ ordersReadByHand.synthesize.accessorsOn "customer" ∧
      ordersReadByHand.synthesize.accessorsOn "customer" ⊆ ["getCustomer", "setCustomer"] := by
  have hnames : (orders.relations.map Relation.name).Nodup := by decide
  obtain ⟨customer, hcustomer, hname, hrequired⟩ :
      ∃ relation ∈ orders.relations, relation.name = "customer" ∧
        relation.accessors.requiredFor relation.cardinality = ["getCustomer", "setCustomer"] := by
    decide
  obtain ⟨hplanned, hrouted, -⟩ := accessorsOn_relation orders hnames customer hcustomer
  rw [hname, hrequired] at hplanned hrouted
  exact ⟨hnames, (hplanned "getCustomer").mpr (by decide), by decide, fun _ => hrouted _ _⟩

end ApiSurface
