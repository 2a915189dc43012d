import ApiSurface.Proofs.Operation.Names

/-!
# Operations that call others

Setting a relation and adding to it end with reading it, and the operations with a payload hand
over to those with an id.  Each call stays within the relation, but hand-written routes take the
called operation away independently of its caller: `callee_present_iff` says when it is there.
-/

namespace ApiSurface

/-! ## Calls in a body -/

structure Call where
  operation : String
  arguments : List String
  into : Option String
  deriving DecidableEq, Repr

@[simp] def Step.call? : Step → Option Call
  | .delegate operation arguments into => some ⟨operation, arguments, into⟩
  | _ => none

def calls (body : List Step) : List Call :=
  body.filterMap Step.call?

@[simp] theorem calls_nil : calls [] = [] := rfl

@[simp] theorem calls_cons (step : Step) (body : List Step) :
    calls (step :: body) = step.call?.toList ++ calls body := by
  cases hcall : step.call? <;> rw [calls, List.filterMap_cons, hcall] <;> rfl

@[simp] theorem calls_append (body other : List Step) :
    calls (body ++ other) = calls body ++ calls other :=
  List.filterMap_append

@[simp] theorem calls_mapped (differs : Bool) (source shape into : String) :
    calls (mapped differs source shape into).steps = [] := by
  cases differs <;> rfl

@[simp] theorem calls_mappedEach (differs : Bool) (source shape into : String) :
    calls (mappedEach differs source shape into).steps = [] := by
  cases differs <;> rfl

@[simp] theorem calls_respondEmpty (config : ResourceConfiguration) :
    calls (respondEmpty config) = [] := by
  unfold respondEmpty
  split <;> rfl

@[simp] theorem calls_respondWith (config : ResourceConfiguration) (shape : ResponseShape)
    (source : String) : calls (respondWith config shape source) = [] := by
  unfold respondWith
  split
  · exact calls_respondEmpty config
  · split <;> rfl

@[simp] theorem calls_respondThrough (operation : String) (arguments : List String) :
    calls (respondThrough operation arguments) =
      [⟨operation, arguments, some responseVariable⟩] :=
  rfl

@[simp] theorem calls_handOver (relation : Relation) (verb : String) :
    calls (relation.handOver verb) =
      [⟨relation.byIdOperationName verb, ["id", "relation_id"], some responseVariable⟩] := by
  simp [Relation.handOver, Relation.payloadValue]

@[simp] theorem calls_changeOwner (accessor : String) (value : Option String) :
    calls (Relation.changeOwner accessor value) = [] :=
  rfl

@[simp] theorem calls_changeById (relation : Relation) (accessor : String) :
    calls (relation.changeById accessor) = [] :=
  rfl

@[simp] theorem calls_respondState (relation : Relation) :
    calls relation.respondState =
      [⟨relation.pluralOperationName "get", ["id"], some responseVariable⟩] :=
  rfl

@[simp] theorem calls_setBody (relation : Relation) :
    calls relation.setBody =
      [⟨relation.pluralOperationName "get", ["id"], some responseVariable⟩] := by
  simp [Relation.setBody, Relation.payloadValue, Relation.readOwnerStep]

@[simp] theorem calls_addByIdBody (relation : Relation) :
    calls relation.addByIdBody =
      [⟨relation.pluralOperationName "get", ["id"], some responseVariable⟩] := by
  simp [Relation.addByIdBody]

namespace ResourceConfiguration

@[simp] theorem calls_getBody (config : ResourceConfiguration) (relation : Relation) :
    calls (config.getBody relation) = [] := by
  simp [getBody, Relation.readOwnerStep]

@[simp] theorem calls_clearBody (config : ResourceConfiguration) (relation : Relation) :
    calls (config.clearBody relation) = [] := by
  simp [clearBody, Relation.readOwnerStep]

@[simp] theorem calls_getAllBody (config : ResourceConfiguration) (relation : Relation) :
    calls (config.getAllBody relation) = [] := by
  simp [getAllBody, Relation.readOwnerStep]

@[simp] theorem calls_removeByIdBody (config : ResourceConfiguration) (relation : Relation) :
    calls (config.removeByIdBody relation) = [] := by
  simp [removeByIdBody]

/-! ## Who calls whom -/

variable {config : ResourceConfiguration} {relation : Relation}

theorem calls_of_mem_resourceContributions {caller : Operation}
    (hcaller : caller ∈ (config.withRoutes .empty).resourceContributions) :
    calls caller.body = [] := by
  rw [resourceContributions_withoutRoutes] at hcaller
  simp only [List.mem_cons, List.not_mem_nil, or_false] at hcaller
  rcases hcaller with rfl | rfl | rfl | rfl | rfl | rfl | rfl
  · simp [operation, createBody, requestRecord, respondRecord]
  · simp [operation, readBody, respondRecord]
  · simp [operation, updateBody, requestRecord, respondRecord]
  · cases hmaps : config.mapsRequest <;>
      simp [operation, replaceBody, respondRecord, hmaps]
  · simp [operation, deleteBody]
  · simp [operation, listBody]
  · simp [operation, searchBody]

/-- What an operation on a relation calls is an operation on the same relation, whose parameters
are named like the arguments and which promises the same response. -/
theorem exists_fitting_callee {caller : Operation}
    (hcaller : caller ∈ (config.withRoutes .empty).relationContributions relation) {call : Call}
    (hcall : call ∈ calls caller.body) :
    ∃ callee ∈ (config.withRoutes .empty).relationContributions relation,
      callee.name = call.operation ∧ callee.parameters.map Parameter.name = call.arguments ∧
        callee.response = caller.response := by
  rw [relationContributions_withoutRoutes] at hcaller ⊢
  cases hcardinality : relation.cardinality <;>
    simp only [hcardinality, List.mem_cons, List.not_mem_nil, or_false] at hcaller ⊢
  case single =>
    rcases hcaller with rfl | rfl | rfl
    · simp [relationOperation] at hcall
    · obtain rfl : call = _ := by simpa [relationOperation] using hcall
      exact ⟨_, .inl rfl, rfl, rfl, rfl⟩
    · simp [relationOperation] at hcall
  case multiple =>
    rcases hcaller with rfl | rfl | rfl | rfl | rfl
    · simp [relationOperation] at hcall
    · obtain rfl : call = _ := by simpa [relationOperation] using hcall
      exact ⟨_, .inr (.inr (.inl rfl)), rfl, rfl, rfl⟩
    · obtain rfl : call = _ := by simpa [relationOperation] using hcall
      exact ⟨_, .inl rfl, rfl, rfl, rfl⟩
    · obtain rfl : call = _ := by simpa [relationOperation] using hcall
      exact ⟨_, .inr (.inr (.inr (.inr rfl))), rfl, rfl, rfl⟩
    · simp [relationOperation] at hcall

theorem exists_callee {caller : Operation}
    (hcaller : caller ∈ (config.withRoutes .empty).relationContributions relation) {call : Call}
    (hcall : call ∈ calls caller.body) :
    ∃ callee ∈ (config.withRoutes .empty).relationContributions relation,
      callee.name = call.operation := by
  obtain ⟨callee, hcallee, hname, -, -⟩ := exists_fitting_callee hcaller hcall
  exact ⟨callee, hcallee, hname⟩

theorem mem_relationContributions_iff (hnames : (config.relations.map Relation.name).Nodup)
    (hrelation : relation ∈ config.relations) {operation : Operation} :
    operation ∈ (config.withRoutes .empty).relationContributions relation ↔
      operation ∈ config.plannedOperations ∧ operation.relation = some relation.name := by
  constructor
  · intro hoperation
    exact ⟨mem_plannedOperations_of_relation hrelation hoperation,
      relation_of_mem_relationContributions hoperation⟩
  · rintro ⟨hplanned, hmanages⟩
    rcases mem_plannedOperations_iff.mp hplanned with hresource | ⟨other, hother, hmember⟩
    · simp [relation_of_mem_resourceContributions hresource] at hmanages
    · have hname : other.name = relation.name := by
        simpa [relation_of_mem_relationContributions hmember] using hmanages
      obtain rfl := List.inj_on_of_nodup_map hnames hother hrelation hname
      exact hmember

theorem plannedOperation_eq_of_name (hnames : (config.relations.map Relation.name).Nodup)
    (hrelation : relation ∈ config.relations) {operation other : Operation}
    (hoperation : operation ∈ (config.withRoutes .empty).relationContributions relation)
    (hother : other ∈ config.plannedOperations) (hmanages : other.relation = some relation.name)
    (hname : operation.name = other.name) : operation = other := by
  have hmember : other ∈ (config.withRoutes .empty).relationContributions relation :=
    (mem_relationContributions_iff hnames hrelation).mpr ⟨hother, hmanages⟩
  exact relationContribution_eq_of_name hoperation hmember hname

end ResourceConfiguration

/-! ## Calls and hand-written routes -/

/--
Whatever an operation calls manages the same relation, and is among the operations of the
controller exactly if no verb of it is routed at its path by hand.
-/
theorem callee_present_iff (config : ResourceConfiguration)
    (hnames : (config.relations.map Relation.name).Nodup) :
    ∀ caller ∈ config.synthesize.operations, ∀ call ∈ calls caller.body,
      ∃ callee ∈ (config.withRoutes .empty).synthesize.operations,
        callee.name = call.operation ∧ callee.relation = caller.relation ∧
          caller.relation ≠ none ∧
          ((∃ present ∈ config.synthesize.operations,
              present.name = call.operation ∧ present.relation = caller.relation) ↔
            ∀ verb ∈ callee.verbNames,
              ⟨upperAscii verb, Text.lowercase callee.path⟩ ∉ config.handRoutes.routes) := by
  intro caller hcaller call hcall
  obtain ⟨hplanned, -⟩ := ResourceConfiguration.mem_operations_iff.mp hcaller
  rcases ResourceConfiguration.mem_plannedOperations_iff.mp hplanned with
    hresource | ⟨relation, hrelation, hmember⟩
  · simp [ResourceConfiguration.calls_of_mem_resourceContributions hresource] at hcall
  obtain ⟨callee, hcallee, hname⟩ := ResourceConfiguration.exists_callee hmember hcall
  have hmanages := ResourceConfiguration.relation_of_mem_relationContributions hmember
  have hmanages' := ResourceConfiguration.relation_of_mem_relationContributions hcallee
  have hcalleePlanned : callee ∈ config.plannedOperations :=
    ResourceConfiguration.mem_plannedOperations_iff.mpr (.inr ⟨relation, hrelation, hcallee⟩)
  refine ⟨callee, hcalleePlanned, hname, by rw [hmanages, hmanages'], by simp [hmanages], ?_⟩
  have hfree : callee.isRouted config.handRoutes = false ↔ ∀ verb ∈ callee.verbNames,
      Route.key verb callee.path ∉ config.handRoutes.routes :=
    Operation.isRouted_eq_false_iff
  refine Iff.trans ⟨?_, fun hkept => ?_⟩ hfree
  · rintro ⟨present, hpresent, hpresentName, hpresentRelation⟩
    obtain ⟨hpresentPlanned, hkept⟩ := ResourceConfiguration.mem_operations_iff.mp hpresent
    obtain rfl := ResourceConfiguration.plannedOperation_eq_of_name hnames hrelation hcallee
      hpresentPlanned (hpresentRelation.trans hmanages) (hname.trans hpresentName.symm)
    exact hkept
  · have hpresent := ResourceConfiguration.mem_operations_iff.mpr ⟨hcalleePlanned, hkept⟩
    exact ⟨callee, hpresent, hname, by rw [hmanages, hmanages']⟩

theorem orders_callee_present :
    (orders.relations.map Relation.name).Nodup ∧
      ∃ caller ∈ orders.synthesize.operations, ∃ call ∈ calls caller.body,
        ∃ callee ∈ orders.synthesize.operations,
          callee.name = call.operation ∧ callee.relation = caller.relation := by
  have hnames : (orders.relations.map Relation.name).Nodup := by decide
  obtain ⟨caller, hcaller, call, hcall, -⟩ :
      ∃ caller ∈ orders.synthesize.operations, ∃ call ∈ calls caller.body, True := by
    decide
  obtain ⟨callee, -, -, -, -, hpresent⟩ :=
    callee_present_iff orders hnames caller hcaller call hcall
  exact ⟨hnames, caller, hcaller, call, hcall, hpresent.mpr fun verb _ => List.not_mem_nil⟩

def ordersReadByHand : ResourceConfiguration :=
  orders.withRoutes ⟨[⟨"GET", "/orders/\x7bid\x7d/customer"⟩]⟩

/-- The operation that sets the customer stays, and calls one that is not there. -/
theorem ordersReadByHand_callee_missing :
    (ordersReadByHand.relations.map Relation.name).Nodup ∧
      ∃ caller ∈ ordersReadByHand.synthesize.operations, ∃ call ∈ calls caller.body,
        ∀ callee ∈ ordersReadByHand.synthesize.operations, callee.name ≠ call.operation := by
  constructor
  · decide
  · decide

end ApiSurface
