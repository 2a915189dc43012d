import ApiSurface.Proofs.Operation.Response

/-!
# Effects of operations

A call stands for the steps of the operation that it names; its arguments are named like the
parameters that they are for, so the steps need no renaming.  With every call replaced, the
operations that answer to `GET` are those without an effect, and every other operation on a
relation reads its owner, calls one accessor on it and stores it, with no other effect
(`effects_of_operation`).
-/

namespace ApiSurface

/-! ## Steps with an effect -/

/-- Whether a step makes or changes a record, or changes what is stored. -/
@[simp] def Step.hasEffect : Step → Bool
  | .create _ _ | .update _ _ | .merge _ _ _ | .assignId _ _ | .deleteById _
  | .invokeAccessor _ _ _ => true
  | _ => false

def Quiet (body : List Step) : Prop :=
  ∀ step ∈ body, step.hasEffect = false

@[simp] theorem quiet_nil : Quiet [] := by
  simp [Quiet]

@[simp] theorem quiet_cons {step : Step} {body : List Step} :
    Quiet (step :: body) ↔ step.hasEffect = false ∧ Quiet body :=
  List.forall_mem_cons

@[simp] theorem quiet_append {body other : List Step} :
    Quiet (body ++ other) ↔ Quiet body ∧ Quiet other :=
  List.forall_mem_append

@[simp] theorem quiet_mapped (differs : Bool) (source shape into : String) :
    Quiet (mapped differs source shape into).steps := by
  simp [Quiet]

@[simp] theorem quiet_mappedEach (differs : Bool) (source shape into : String) :
    Quiet (mappedEach differs source shape into).steps := by
  simp [Quiet]

theorem Ends.quiet {config : ResourceConfiguration} {shape : ResponseShape} {ending : List Step}
    (hends : Ends config shape ending) : Quiet ending := by
  cases hends <;> simp

@[simp] theorem quiet_respondEmpty (config : ResourceConfiguration) :
    Quiet (respondEmpty config) :=
  (respondEmpty_ends config).quiet

@[simp] theorem quiet_respondWith (config : ResourceConfiguration) (shape : ResponseShape)
    (source : String) : Quiet (respondWith config shape source) :=
  (respondWith_ends config shape source).quiet

/-! ## Calls replaced by what they stand for -/

/-- Each call in the body is replaced by the steps of the operation on the relation that it names,
and the calls in them likewise. -/
inductive Inlines (operations : List Operation) (relation : Option String) :
    List Step → List Step → Prop
  | nil : Inlines operations relation [] []
  | keep {step : Step} {rest whole : List Step} (hstep : step.call? = none)
      (hrest : Inlines operations relation rest whole) :
      Inlines operations relation (step :: rest) (step :: whole)
  | call {step : Step} {call : Call} {callee : Operation} {inner rest whole : List Step}
      (hcall : step.call? = some call) (hcallee : callee ∈ operations)
      (hrelation : callee.relation = relation) (hname : callee.name = call.operation)
      (hinner : Inlines operations relation callee.body inner)
      (hrest : Inlines operations relation rest whole) :
      Inlines operations relation (step :: rest) (inner ++ whole)

namespace Inlines

variable {operations : List Operation} {relation : Option String}
  {body whole other other' : List Step}

theorem append (hbody : Inlines operations relation body whole)
    (hother : Inlines operations relation other other') :
    Inlines operations relation (body ++ other) (whole ++ other') := by
  induction hbody with
  | nil => exact hother
  | keep hstep _ ih => exact .keep hstep ih
  | call hcall hcallee hrelation hname hinner _ _ ih =>
      rw [List.append_assoc]
      exact .call hcall hcallee hrelation hname hinner ih

theorem of_calls_eq_nil (hcalls : calls body = []) : Inlines operations relation body body := by
  induction body with
  | nil => exact .nil
  | cons step body ih =>
      rw [calls_cons, List.append_eq_nil_iff, Option.toList_eq_nil_iff] at hcalls
      exact .keep hcalls.1 (ih hcalls.2)

theorem eq_of_calls_eq_nil (hbody : Inlines operations relation body whole)
    (hcalls : calls body = []) : whole = body := by
  induction hbody with
  | nil => rfl
  | keep hstep _ ih =>
      rw [calls_cons, hstep] at hcalls
      rw [ih hcalls]
  | call hcall =>
      rw [calls_cons, hcall] at hcalls
      exact nomatch hcalls

theorem calls_eq_nil (hbody : Inlines operations relation body whole) : calls whole = [] := by
  induction hbody with
  | nil => rfl
  | keep hstep _ ih =>
      rw [calls_cons, hstep, ih]
      rfl
  | call _ _ _ _ _ _ ihinner ih =>
      rw [calls_append, ihinner, ih]
      rfl

/-- Where the operations on the relation differ in their names, there is one way to replace the
calls. -/
theorem unique
    (hnames : ∀ callee ∈ operations, ∀ callee' ∈ operations, callee.relation = relation →
      callee'.relation = relation → callee.name = callee'.name → callee = callee')
    (hbody : Inlines operations relation body whole)
    (hbody' : Inlines operations relation body other) : whole = other := by
  induction hbody generalizing other with
  | nil =>
      cases hbody'
      rfl
  | keep hstep _ ih =>
      cases hbody' with
      | keep _ hrest => rw [ih hrest]
      | call hcall => exact nomatch hstep.symm.trans hcall
  | call hcall hcallee hrelation hname _ _ ihinner ih =>
      cases hbody' with
      | keep hstep => exact nomatch hstep.symm.trans hcall
      | call hcall' hcallee' hrelation' hname' hinner hrest =>
          obtain rfl := Option.some.inj (hcall.symm.trans hcall')
          obtain rfl := hnames _ hcallee _ hcallee' hrelation hrelation' (hname.trans hname'.symm)
          rw [ihinner hinner, ih hrest]

theorem respondThrough {callee : Operation} {inner : List Step} (arguments : List String)
    (hcallee : callee ∈ operations) (hrelation : callee.relation = relation)
    (hinner : Inlines operations relation callee.body inner) :
    Inlines operations relation (ApiSurface.respondThrough callee.name arguments)
      (inner ++ [.return responseVariable]) :=
  .call rfl hcallee hrelation rfl hinner (.keep rfl .nil)

end Inlines

/-! ## Changing the owner -/

/-- The owner is read by its id, changed once by the accessor and then stored.  Nothing else has an
effect, and neither the id nor the owner is set anew on the way. -/
def ChangesOwner (body : List Step) (accessor : String) (value : Option String) : Prop :=
  ∃ owner before loaded changed after,
    body = before ++ .readOwner "id" owner :: (loaded ++
      .invokeAccessor owner accessor value :: (changed ++ .update owner owner :: after)) ∧
      Quiet (before ++ loaded ++ changed ++ after) ∧
      (∀ step ∈ before, step.into? ≠ some "id") ∧
      ∀ step ∈ loaded ++ changed, step.into? ≠ some owner

section

variable {body other : List Step} {accessor : String} {value : Option String}

theorem ChangesOwner.not_quiet (hbody : ChangesOwner body accessor value) : ¬ Quiet body := by
  obtain ⟨owner, before, loaded, changed, after, rfl, -⟩ := hbody
  simp

theorem ChangesOwner.append (hbody : ChangesOwner body accessor value) (hquiet : Quiet other) :
    ChangesOwner (body ++ other) accessor value := by
  obtain ⟨owner, before, loaded, changed, after, rfl, hothers, hid, howner⟩ := hbody
  refine ⟨owner, before, loaded, changed, after ++ other, by simp, ?_, hid, howner⟩
  rw [← List.append_assoc]
  exact quiet_append.mpr ⟨hothers, hquiet⟩

theorem ChangesOwner.after (hquiet : Quiet other) (hid : ∀ step ∈ other, step.into? ≠ some "id")
    (hbody : ChangesOwner body accessor value) :
    ChangesOwner (other ++ body) accessor value := by
  obtain ⟨owner, before, loaded, changed, after, rfl, hothers, hid', howner⟩ := hbody
  refine ⟨owner, other ++ before, loaded, changed, after, by simp, ?_, ?_, howner⟩
  · simp only [List.append_assoc] at hothers ⊢
    exact quiet_append.mpr ⟨hquiet, hothers⟩
  · exact List.forall_mem_append.mpr ⟨hid, hid'⟩

theorem changesOwner_changeOwner (loaded : List Step) (hquiet : Quiet loaded)
    (howner : ∀ step ∈ loaded, step.into? ≠ some "entity") :
    ChangesOwner ([Relation.readOwnerStep] ++ loaded ++ Relation.changeOwner accessor value)
      accessor value :=
  ⟨"entity", [], loaded, [], [], by simp [Relation.readOwnerStep, Relation.changeOwner],
    by simpa using hquiet, by simp, by simpa using howner⟩

end

/-! ## The bodies on a relation -/

def ChangesThrough (config : ResourceConfiguration) (relation : Relation) (body : List Step)
    (accessor : String) (value : Option String) : Prop :=
  ∃ whole, Inlines config.plannedOperations (some relation.name) body whole ∧
    ChangesOwner whole accessor value

namespace ResourceConfiguration

variable {config : ResourceConfiguration} {relation : Relation} {accessor : String}
  {value : Option String}

theorem quiet_getBody (config : ResourceConfiguration) (relation : Relation) :
    Quiet (config.getBody relation) := by
  simp [getBody, Relation.readOwnerStep]

theorem quiet_getAllBody (config : ResourceConfiguration) (relation : Relation) :
    Quiet (config.getAllBody relation) := by
  simp [getAllBody, Relation.readOwnerStep]

theorem respondState_inlines (hrelation : relation ∈ config.relations) :
    ∃ whole, Inlines config.plannedOperations (some relation.name) relation.respondState whole ∧
      Quiet whole := by
  obtain ⟨reader, hreader, hname, hcalls, hquiet⟩ :
      ∃ reader ∈ (config.withRoutes .empty).relationContributions relation,
        reader.name = relation.pluralOperationName "get" ∧ calls reader.body = [] ∧
          Quiet reader.body := by
    rw [relationContributions_withoutRoutes]
    cases relation.cardinality
    · exact ⟨_, .head _, rfl, config.calls_getBody relation, config.quiet_getBody relation⟩
    · exact ⟨_, .head _, rfl, config.calls_getAllBody relation, config.quiet_getAllBody relation⟩
  rw [Relation.respondState, ← hname]
  refine ⟨_, .respondThrough _ (mem_plannedOperations_of_relation hrelation hreader)
    (relation_of_mem_relationContributions hreader) (.of_calls_eq_nil hcalls), ?_⟩
  simpa using hquiet

theorem changeById_changesOwner (relation : Relation) (accessor : String) :
    ChangesOwner (relation.changeById accessor) accessor (some "related") :=
  changesOwner_changeOwner [.resolveReference relation.relatedType "relation_id" "related"]
    (by simp) (by simp [Step.into?])

theorem setBody_changes (hrelation : relation ∈ config.relations) :
    ChangesThrough config relation relation.setBody relation.accessors.set
      (some relation.payloadValue.name) := by
  obtain ⟨state, hstate, hquiet⟩ := respondState_inlines hrelation
  have hcalls : calls ([Relation.readOwnerStep] ++ relation.payloadValue.steps ++
      Relation.changeOwner relation.accessors.set (some relation.payloadValue.name)) = [] := by
    simp [Relation.readOwnerStep, Relation.payloadValue]
  refine ⟨_, (Inlines.of_calls_eq_nil hcalls).append hstate, ?_⟩
  refine .append (changesOwner_changeOwner _ ?_ ?_) hquiet
  · simp [Relation.payloadValue]
  · simp [Relation.payloadValue, Step.into?]

theorem clearBody_changes :
    ChangesThrough config relation (config.clearBody relation) relation.accessors.set none := by
  refine ⟨_, .of_calls_eq_nil (config.calls_clearBody relation), ?_⟩
  exact (changesOwner_changeOwner [] (by simp) (by simp)).append (by simp)

theorem addByIdBody_changes (hrelation : relation ∈ config.relations) :
    ChangesThrough config relation relation.addByIdBody relation.accessors.add
      (some "related") := by
  obtain ⟨state, hstate, hquiet⟩ := respondState_inlines hrelation
  refine ⟨_, (Inlines.of_calls_eq_nil (calls_changeById ..)).append hstate, ?_⟩
  exact (changeById_changesOwner relation _).append hquiet

theorem removeByIdBody_changes :
    ChangesThrough config relation (config.removeByIdBody relation) relation.accessors.remove
      (some "related") := by
  refine ⟨_, .of_calls_eq_nil (config.calls_removeByIdBody relation), ?_⟩
  exact (changeById_changesOwner relation _).append (by simp)

theorem handOver_changes (hrelation : relation ∈ config.relations) {byId : Operation}
    (hbyId : byId ∈ (config.withRoutes .empty).relationContributions relation) {verb : String}
    (hname : byId.name = relation.byIdOperationName verb)
    (hchanges : ChangesThrough config relation byId.body accessor value) :
    ChangesThrough config relation (relation.handOver verb) accessor value := by
  obtain ⟨inner, hinner, hchanges⟩ := hchanges
  have hcalls : calls (relation.payloadValue.steps ++
      [.extractId relation.payloadValue.name relation.relatedIdAccessor "relation_id"]) = [] := by
    simp [Relation.payloadValue]
  have hplanned := mem_plannedOperations_of_relation hrelation hbyId
  have hthrough := Inlines.respondThrough ["id", "relation_id"] hplanned
    (relation_of_mem_relationContributions hbyId) hinner
  rw [Relation.handOver, ← hname]
  refine ⟨_, (Inlines.of_calls_eq_nil hcalls).append hthrough, ?_⟩
  refine .after ?_ ?_ (hchanges.append (by simp))
  · simp [Relation.payloadValue]
  · simp [Relation.payloadValue, Step.into?, or_imp, forall_and]

theorem addBody_changes (hrelation : relation ∈ config.relations)
    (hmultiple : relation.cardinality = .multiple) :
    ChangesThrough config relation (relation.handOver "add") relation.accessors.add
      (some "related") := by
  obtain ⟨byId, hbyId, hname, hbody⟩ :
      ∃ byId ∈ (config.withRoutes .empty).relationContributions relation,
        byId.name = relation.byIdOperationName "add" ∧ byId.body = relation.addByIdBody := by
    rw [relationContributions_withoutRoutes, hmultiple]
    exact ⟨_, .tail _ (.tail _ (.head _)), rfl, rfl⟩
  exact handOver_changes hrelation hbyId hname (hbody ▸ addByIdBody_changes hrelation)

theorem removeBody_changes (hrelation : relation ∈ config.relations)
    (hmultiple : relation.cardinality = .multiple) :
    ChangesThrough config relation (relation.handOver "remove") relation.accessors.remove
      (some "related") := by
  obtain ⟨byId, hbyId, hname, hbody⟩ :
      ∃ byId ∈ (config.withRoutes .empty).relationContributions relation,
        byId.name = relation.byIdOperationName "remove" ∧
          byId.body = config.removeByIdBody relation := by
    rw [relationContributions_withoutRoutes, hmultiple]
    exact ⟨_, .tail _ (.tail _ (.tail _ (.tail _ (.head _)))), rfl, rfl⟩
  exact handOver_changes hrelation hbyId hname (hbody ▸ removeByIdBody_changes)

end ResourceConfiguration

/-! ## All operations -/

def OperationKind.slot? : OperationKind → Option AccessorKind
  | .relationSet | .relationDelete => some .set
  | .relationAdd | .relationAddById => some .add
  | .relationRemove | .relationRemoveById => some .remove
  | _ => none

/-- The operation changes the owner by the relation's accessor for its kind, and only clearing
gives the accessor no value; an operation of a kind without a slot has no effect. -/
def ActsOn (relation : Relation) (kind : OperationKind) (whole : List Step) : Prop :=
  match kind.slot? with
  | none => Quiet whole
  | some slot => ∃ value : Option String, value.isNone = (kind == .relationDelete) ∧
      ChangesOwner whole (relation.accessors.slot slot) value

theorem ActsOn.quiet_iff {relation : Relation} {kind : OperationKind} {whole : List Step}
    (hacts : ActsOn relation kind whole) : Quiet whole ↔ kind.slot? = none := by
  cases hslot : kind.slot? with
  | none => simpa [ActsOn, hslot] using hacts
  | some slot =>
      simp only [ActsOn, hslot] at hacts
      obtain ⟨value, -, hchanges⟩ := hacts
      simpa using hchanges.not_quiet

theorem ChangesThrough.acts {config : ResourceConfiguration} {relation : Relation}
    {body : List Step} {accessor : String} {value : Option String} {kind : OperationKind}
    {slot : AccessorKind} (hbody : ChangesThrough config relation body accessor value)
    (hslot : kind.slot? = some slot) (haccessor : relation.accessors.slot slot = accessor)
    (hvalue : value.isNone = (kind == .relationDelete)) :
    ∃ whole, Inlines config.plannedOperations (some relation.name) body whole ∧
      ActsOn relation kind whole := by
  obtain ⟨whole, hwhole, hchanges⟩ := hbody
  refine ⟨whole, hwhole, ?_⟩
  simp only [ActsOn, hslot, haccessor]
  exact ⟨value, hvalue, hchanges⟩

namespace ResourceConfiguration

variable {config : ResourceConfiguration} {relation : Relation} {operation : Operation}

theorem resourceContribution_quiet_iff
    (hoperation : operation ∈ (config.withRoutes .empty).resourceContributions) :
    Quiet operation.body ↔ .get ∈ operation.endpoint.verbs := by
  rw [resourceContributions_withoutRoutes] at hoperation
  simp only [List.mem_cons, List.not_mem_nil, or_false] at hoperation
  rcases hoperation with rfl | rfl | rfl | rfl | rfl | rfl | rfl
  · simp [ResourceConfiguration.operation, createBody]
  · simp [ResourceConfiguration.operation, readBody, respondRecord]
  · simp [ResourceConfiguration.operation, updateBody]
  · simp [ResourceConfiguration.operation, replaceBody]
  · simp [ResourceConfiguration.operation, deleteBody]
  · simp [ResourceConfiguration.operation, listBody]
  · simp [ResourceConfiguration.operation, searchBody]

/-- An operation on a relation answers to `GET` just if its kind has no slot, and always takes the
id of the owner. -/
theorem relationContribution_verbs
    (hoperation : operation ∈ (config.withRoutes .empty).relationContributions relation) :
    (.get ∈ operation.endpoint.verbs ↔ operation.kind.slot? = none) ∧
      config.idParameter ∈ operation.parameters := by
  rw [relationContributions_withoutRoutes] at hoperation
  cases hcardinality : relation.cardinality <;>
    simp only [hcardinality, List.mem_cons, List.not_mem_nil, or_false] at hoperation
  case single =>
    rcases hoperation with rfl | rfl | rfl <;>
      simp [relationOperation, OperationKind.slot?, Relation.writeVerbs]
  case multiple =>
    rcases hoperation with rfl | rfl | rfl | rfl | rfl <;>
      simp [relationOperation, OperationKind.slot?, Relation.writeVerbs]

theorem relationContribution_inlines (hrelation : relation ∈ config.relations)
    (hoperation : operation ∈ (config.withRoutes .empty).relationContributions relation) :
    ∃ whole, Inlines config.plannedOperations (some relation.name) operation.body whole ∧
      ActsOn relation operation.kind whole := by
  rw [relationContributions_withoutRoutes] at hoperation
  cases hcardinality : relation.cardinality <;>
    simp only [hcardinality, List.mem_cons, List.not_mem_nil, or_false] at hoperation
  case single =>
    rcases hoperation with rfl | rfl | rfl
    · exact ⟨_, .of_calls_eq_nil (config.calls_getBody relation), config.quiet_getBody relation⟩
    · exact (setBody_changes hrelation).acts rfl rfl rfl
    · exact clearBody_changes.acts rfl rfl rfl
  case multiple =>
    rcases hoperation with rfl | rfl | rfl | rfl | rfl
    · exact ⟨_, .of_calls_eq_nil (config.calls_getAllBody relation),
        config.quiet_getAllBody relation⟩
    · exact (addBody_changes hrelation hcardinality).acts rfl rfl rfl
    · exact (addByIdBody_changes hrelation).acts rfl rfl rfl
    · exact (removeBody_changes hrelation hcardinality).acts rfl rfl rfl
    · exact removeByIdBody_changes.acts rfl rfl rfl

theorem inlines_unique (hnames : (config.relations.map Relation.name).Nodup) {name : String}
    {body whole other : List Step}
    (hwhole : Inlines config.plannedOperations (some name) body whole)
    (hother : Inlines config.plannedOperations (some name) body other) : whole = other := by
  refine Inlines.unique ?_ hwhole hother
  intro callee hcallee callee' hcallee' hmanages hmanages' hname
  rcases mem_plannedOperations_iff.mp hcallee with hresource | ⟨relation, hrelation, hmember⟩
  · simp [relation_of_mem_resourceContributions hresource] at hmanages
  · have hmanaged := relation_of_mem_relationContributions hmember
    have hsame : callee'.relation = some relation.name := by
      rw [hmanages', ← hmanages, hmanaged]
    exact plannedOperation_eq_of_name hnames hrelation hmember hcallee' hsame hname

end ResourceConfiguration

/--
Every body has one form in which no call is left.  In this form the operations that answer to
`GET` are those without an effect; each other operation on a relation changes its owner once,
by the accessor that its kind and the relation say.
-/
theorem effects_of_operation (config : ResourceConfiguration)
    (hnames : (config.relations.map Relation.name).Nodup) :
    ∀ operation ∈ config.plannedOperations,
      (∃ whole,
        Inlines config.plannedOperations operation.relation operation.body whole) ∧
      ∀ whole, Inlines config.plannedOperations operation.relation operation.body whole →
        calls whole = [] ∧ (.get ∈ operation.endpoint.verbs ↔ Quiet whole) ∧
          (operation.relation ≠ none → .get ∉ operation.endpoint.verbs →
            config.idParameter ∈ operation.parameters ∧
            ∃ relation ∈ config.relations, operation.relation = some relation.name ∧
              ∃ slot ∈ operation.kind.slot?, ∃ value : Option String,
                value.isNone = (operation.kind == .relationDelete) ∧
                  ChangesOwner whole (relation.accessors.slot slot) value) := by
  intro operation hoperation
  rcases ResourceConfiguration.mem_plannedOperations_iff.mp hoperation with
    hresource | ⟨relation, hrelation, hmember⟩
  · have hcalls := ResourceConfiguration.calls_of_mem_resourceContributions hresource
    have hmanages := ResourceConfiguration.relation_of_mem_resourceContributions hresource
    refine ⟨⟨operation.body, .of_calls_eq_nil hcalls⟩, fun whole hwhole => ?_⟩
    -- without a call there is nothing to replace
    obtain rfl := hwhole.eq_of_calls_eq_nil hcalls
    have hquiet := ResourceConfiguration.resourceContribution_quiet_iff hresource
    exact ⟨hcalls, hquiet.symm, fun hrelated => absurd hmanages hrelated⟩
  · have hmanages := ResourceConfiguration.relation_of_mem_relationContributions hmember
    obtain ⟨hget, hid⟩ := ResourceConfiguration.relationContribution_verbs hmember
    obtain ⟨acting, hacting, hacts⟩ :=
      ResourceConfiguration.relationContribution_inlines hrelation hmember
    rw [hmanages]
    refine ⟨⟨acting, hacting⟩, fun whole hwhole => ?_⟩
    obtain rfl := ResourceConfiguration.inlines_unique hnames hacting hwhole
    refine ⟨hwhole.calls_eq_nil, hget.trans hacts.quiet_iff.symm, fun _ hwrites => ?_⟩
    obtain ⟨slot, hslot⟩ := Option.ne_none_iff_exists'.mp (mt hget.mpr hwrites)
    simp only [ActsOn, hslot] at hacts
    exact ⟨hid, relation, hrelation, rfl, slot, hslot, hacts⟩

theorem orders_add_effects :
    (orders.relations.map Relation.name).Nodup ∧
      ∃ operation ∈ orders.plannedOperations, operation.name = "add_product" ∧
        ∃ whole value, Inlines orders.plannedOperations (some "products") operation.body whole ∧
          ChangesOwner whole "addProduct" value := by
  have hnames : (orders.relations.map Relation.name).Nodup := by decide
  have hadd : ∀ relation ∈ orders.relations, some "products" = some relation.name →
      relation.accessors.slot .add = "addProduct" := by
    decide
  obtain ⟨operation, hoperation, hname, hmanages, hkind, hwrites⟩ :
      ∃ operation ∈ orders.plannedOperations, operation.name = "add_product" ∧
        operation.relation = some "products" ∧ operation.kind = .relationAdd ∧
          .get ∉ operation.endpoint.verbs := by
    decide
  obtain ⟨⟨whole, hwhole⟩, heffects⟩ :=
    effects_of_operation orders hnames operation hoperation
  obtain ⟨-, -, hwriting⟩ := heffects whole hwhole
  obtain ⟨-, relation, hrelation, hsame, slot, hslot, value, -, hchanges⟩ :=
    hwriting (by simp [hmanages]) hwrites
  rw [hmanages] at hwhole hsame
  obtain rfl : AccessorKind.add = slot := by simpa [hkind, OperationKind.slot?] using hslot
  rw [hadd relation hrelation hsame] at hchanges
  exact ⟨hnames, operation, hoperation, hname, whole, value, hwhole, hchanges⟩

end ApiSurface
