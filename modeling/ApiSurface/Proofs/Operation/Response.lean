import ApiSurface.Proofs.Operation.Typing

/-!
# How operations answer

A body first works and then answers, in one of five ways: it returns what another operation
answered, it wraps a value or wraps nothing, or it returns a value or nothing as it is.  Which
way it is follows from the wrapper and from the shape that the operation promises
(`answers_as_promised`).  An operation that hands over promises what the called one does
(`call_fits_callee`).
-/

namespace ApiSurface

/-! ## Steps that answer -/

namespace Step

def isReturn : Step → Bool
  | .return _ | .returnEmpty => true
  | _ => false

def isWrap : Step → Bool
  | .wrapContent _ _ _ | .wrapNoContent _ => true
  | _ => false

/-- A step that has no part in the answer. -/
@[simp] def isWork : Step → Bool
  | .return _ | .returnEmpty | .wrapContent _ _ _ | .wrapNoContent _ | .delegate _ _ _ => false
  | _ => true

end Step

section

variable {work : List Step} (hwork : ∀ step ∈ work, step.isWork = true)

include hwork

theorem isReturn_of_isWork : ∀ step ∈ work, step.isReturn = false := by
  intro step hstep
  have hwork := hwork step hstep
  cases step <;> simp_all [Step.isReturn]

theorem isWrap_of_isWork : ∀ step ∈ work, step.isWrap = false := by
  intro step hstep
  have hwork := hwork step hstep
  cases step <;> simp_all [Step.isWrap]

theorem calls_of_isWork : calls work = [] := by
  refine List.filterMap_eq_nil_iff.mpr fun step hstep => ?_
  have hwork := hwork step hstep
  cases step <;> simp_all

end

/-! ## Mapping steps -/

@[simp] theorem mem_mapped_steps {differs : Bool} {source shape into : String} {step : Step} :
    step ∈ (mapped differs source shape into).steps ↔
      differs = true ∧ step = .mapTo source shape into := by
  cases differs <;> simp [mapped]

@[simp] theorem mem_mappedEach_steps {differs : Bool} {source shape into : String}
    {step : Step} :
    step ∈ (mappedEach differs source shape into).steps ↔
      differs = true ∧ step = .mapEach source shape into := by
  cases differs <;> simp [mappedEach]

/-! ## Endings -/

/-- The last steps of a body that answers with a shape. -/
inductive Ends (config : ResourceConfiguration) (shape : ResponseShape) : List Step → Prop
  | through (operation : String) (arguments : List String) (result : String) :
      Ends config shape [.delegate operation arguments (some result), .return result]
  | wrapped {content : ContentKind} (source result : String)
      (hwrapped : config.isWrapped = true) (hcontent : shape.contentKind? = some content) :
      Ends config shape [.wrapContent source content result, .return result]
  | wrappedEmpty (result : String) (hwrapped : config.isWrapped = true)
      (hempty : shape = .empty) :
      Ends config shape [.wrapNoContent result, .return result]
  | bare (source : String) (hbare : config.isWrapped = false) (hcontent : shape ≠ .empty) :
      Ends config shape [.return source]
  | bareEmpty (hbare : config.isWrapped = false) (hempty : shape = .empty) :
      Ends config shape [.returnEmpty]

theorem respondEmpty_ends (config : ResourceConfiguration) :
    Ends config .empty (respondEmpty config) := by
  unfold respondEmpty
  split
  case isTrue hwrapped => exact .wrappedEmpty _ hwrapped rfl
  case isFalse hbare => exact .bareEmpty (by simpa using hbare) rfl

theorem respondWith_ends (config : ResourceConfiguration) (shape : ResponseShape)
    (source : String) : Ends config shape (respondWith config shape source) := by
  unfold respondWith
  cases hcontent : shape.contentKind? with
  | none =>
      obtain rfl : shape = .empty := by
        cases shape <;> simp_all [ResponseShape.contentKind?]
      exact respondEmpty_ends config
  | some content =>
      dsimp only
      split
      case isTrue hwrapped => exact .wrapped _ _ hwrapped hcontent
      case isFalse hbare =>
        refine .bare _ (by simpa using hbare) ?_
        rintro rfl
        simp [ResponseShape.contentKind?] at hcontent

def Answers (config : ResourceConfiguration) (shape : ResponseShape) (body : List Step) : Prop :=
  ∃ work ending, body = work ++ ending ∧ (∀ step ∈ work, step.isWork = true) ∧
    Ends config shape ending

section

variable {config : ResourceConfiguration} {shape : ResponseShape} {body ending : List Step}

theorem Answers.of_ends (hends : Ends config shape ending) : Answers config shape ending :=
  ⟨[], ending, rfl, by simp, hends⟩

theorem Answers.after {work : List Step} (hwork : ∀ step ∈ work, step.isWork = true)
    (hbody : Answers config shape body) : Answers config shape (work ++ body) := by
  obtain ⟨work', ending, rfl, hwork', hends⟩ := hbody
  refine ⟨work ++ work', ending, (List.append_assoc ..).symm, ?_, hends⟩
  exact List.forall_mem_append.mpr ⟨hwork, hwork'⟩

end

/-! ## What is returned -/

def ReturnsLast (body : List Step) : Prop :=
  ∃ before last, body = before ++ [last] ∧ last.isReturn = true ∧
    ∀ step ∈ before, step.isReturn = false

/-- What another operation answered is returned as it is. -/
def ForwardsCalls (body : List Step) : Prop :=
  ∀ call ∈ calls body, (∀ step ∈ body, step.isWrap = false) ∧
    ∃ before result, body =
      before ++ [.delegate call.operation call.arguments (some result), .return result]

/-- One step wraps content of the shape, or wraps none if there is none, and the wrapper is
returned. -/
def WrapsOnce (shape : ResponseShape) (body : List Step) : Prop :=
  ∃ before wrap result, body = before ++ [wrap, .return result] ∧
    (∀ step ∈ before, step.isWrap = false) ∧
    ((shape = .empty ∧ wrap = .wrapNoContent result) ∨
      ∃ content source, shape.contentKind? = some content ∧
        wrap = .wrapContent source content result)

/-- Nothing is wrapped, and nothing is returned just if the shape is empty. -/
def StaysBare (shape : ResponseShape) (body : List Step) : Prop :=
  (∀ step ∈ body, step.isWrap = false) ∧ (.returnEmpty ∈ body ↔ shape = .empty)

namespace Answers

variable {config : ResourceConfiguration} {shape : ResponseShape} {body : List Step}
  (hanswers : Answers config shape body)

include hanswers

theorem returnsLast : ReturnsLast body := by
  obtain ⟨work, ending, rfl, hwork, hends⟩ := hanswers
  have hnone := isReturn_of_isWork hwork
  have hnone' {step : Step} (hstep : step.isReturn = false) :
      ∀ other ∈ work ++ [step], other.isReturn = false :=
    List.forall_mem_append.mpr ⟨hnone, by simpa using hstep⟩
  cases hends with
  | through | wrapped | wrappedEmpty =>
      exact ⟨work ++ [_], _, List.append_cons .., rfl, hnone' rfl⟩
  | bare | bareEmpty => exact ⟨work, _, rfl, rfl, hnone⟩

theorem forwardsCalls : ForwardsCalls body := by
  obtain ⟨work, ending, rfl, hwork, hends⟩ := hanswers
  intro call hcall
  rw [calls_append, calls_of_isWork hwork, List.nil_append] at hcall
  cases hends with
  | through operation arguments result =>
      obtain rfl : call = ⟨operation, arguments, some result⟩ := by simpa using hcall
      refine ⟨List.forall_mem_append.mpr ⟨isWrap_of_isWork hwork, ?_⟩, work, result, rfl⟩
      simp [Step.isWrap]
  | wrapped | wrappedEmpty | bare | bareEmpty => simp at hcall

theorem wrapsOnce (hcalls : calls body = []) (hwrapper : config.isWrapped = true) :
    WrapsOnce shape body := by
  obtain ⟨work, ending, rfl, hwork, hends⟩ := hanswers
  have hnone := isWrap_of_isWork hwork
  cases hends with
  | through => simp at hcalls
  | wrapped source result _ hcontent =>
      exact ⟨work, _, result, rfl, hnone, .inr ⟨_, source, hcontent, rfl⟩⟩
  | wrappedEmpty result _ hempty => exact ⟨work, _, result, rfl, hnone, .inl ⟨hempty, rfl⟩⟩
  | bare _ hbare _ | bareEmpty hbare _ => simp [hwrapper] at hbare

theorem staysBare (hcalls : calls body = []) (hwrapper : config.isWrapped = false) :
    StaysBare shape body := by
  obtain ⟨work, ending, rfl, hwork, hends⟩ := hanswers
  have hnone := isWrap_of_isWork hwork
  have hreturn : .returnEmpty ∉ work := fun hmem => by simpa using hwork _ hmem
  cases hends with
  | through => simp at hcalls
  | wrapped _ _ hwrapped _ | wrappedEmpty _ hwrapped _ => simp [hwrapper] at hwrapped
  | bare source _ hcontent =>
      refine ⟨List.forall_mem_append.mpr ⟨hnone, by simp [Step.isWrap]⟩, ?_⟩
      simp [hreturn, hcontent]
  | bareEmpty _ hempty =>
      refine ⟨List.forall_mem_append.mpr ⟨hnone, by simp [Step.isWrap]⟩, ?_⟩
      simp [hempty]

end Answers

/-! ## The bodies -/

namespace ResourceConfiguration

variable (config : ResourceConfiguration)

theorem respondRecord_answers (source : String) :
    Answers config (.item config.singleShape) (config.respondRecord source) :=
  .after (by simp) (.of_ends (respondWith_ends ..))

theorem createBody_answers : Answers config (.item config.singleShape) config.createBody :=
  .after (by simp [requestRecord, or_imp, forall_and]) (config.respondRecord_answers _)

theorem readBody_answers : Answers config (.item config.singleShape) config.readBody :=
  .after (by simp) (config.respondRecord_answers _)

theorem updateBody_answers : Answers config (.item config.singleShape) config.updateBody :=
  .after (by simp [requestRecord, or_imp, forall_and]) (config.respondRecord_answers _)

theorem replaceBody_answers : Answers config (.item config.singleShape) config.replaceBody := by
  refine .after ?_ (config.respondRecord_answers _)
  cases config.mapsRequest <;> simp

theorem deleteBody_answers : Answers config .empty config.deleteBody :=
  .after (by simp) (.of_ends (respondEmpty_ends config))

theorem listBody_answers : Answers config (.sequence config.listShape) config.listBody :=
  .after (by simp [or_imp, forall_and]) (.of_ends (respondWith_ends ..))

theorem searchBody_answers : Answers config (.page config.listShape) config.searchBody :=
  .after (by simp [or_imp, forall_and]) (.of_ends (respondWith_ends ..))

variable (relation : Relation)

theorem getBody_answers :
    Answers config (.item relation.responseShape) (config.getBody relation) :=
  .after (by simp [Relation.readOwnerStep, or_imp, forall_and]) (.of_ends (respondWith_ends ..))

theorem setBody_answers (shape : ResponseShape) : Answers config shape relation.setBody := by
  refine .after ?_ (.of_ends (.through _ _ _))
  simp [Relation.readOwnerStep, Relation.payloadValue, Relation.changeOwner, or_imp, forall_and]

theorem clearBody_answers : Answers config .empty (config.clearBody relation) :=
  .after (by simp [Relation.readOwnerStep, Relation.changeOwner])
    (.of_ends (respondEmpty_ends config))

theorem getAllBody_answers :
    Answers config (.sequence relation.responseShape) (config.getAllBody relation) :=
  .after (by simp [Relation.readOwnerStep, or_imp, forall_and]) (.of_ends (respondWith_ends ..))

theorem handOver_answers (shape : ResponseShape) (verb : String) :
    Answers config shape (relation.handOver verb) :=
  .after (by simp [Relation.payloadValue, or_imp, forall_and]) (.of_ends (.through _ _ _))

theorem addByIdBody_answers (shape : ResponseShape) :
    Answers config shape relation.addByIdBody :=
  .after (by simp [Relation.changeById, Relation.readOwnerStep, Relation.changeOwner])
    (.of_ends (.through _ _ _))

theorem removeByIdBody_answers : Answers config .empty (config.removeByIdBody relation) :=
  .after (by simp [Relation.changeById, Relation.readOwnerStep, Relation.changeOwner])
    (.of_ends (respondEmpty_ends config))

/-! ## All operations -/

variable {config} {relation} {operation : Operation}

theorem resourceContribution_answers
    (hoperation : operation ∈ (config.withRoutes .empty).resourceContributions) :
    operation.response = contractFor config operation.response.shape ∧
      Answers config operation.response.shape operation.body := by
  rw [resourceContributions_withoutRoutes] at hoperation
  simp only [List.mem_cons, List.not_mem_nil, or_false] at hoperation
  rcases hoperation with rfl | rfl | rfl | rfl | rfl | rfl | rfl
  · exact ⟨rfl, config.createBody_answers⟩
  · exact ⟨rfl, config.readBody_answers⟩
  · exact ⟨rfl, config.updateBody_answers⟩
  · exact ⟨rfl, config.replaceBody_answers⟩
  · exact ⟨rfl, config.deleteBody_answers⟩
  · exact ⟨rfl, config.listBody_answers⟩
  · exact ⟨rfl, config.searchBody_answers⟩

theorem relationContribution_answers
    (hoperation : operation ∈ (config.withRoutes .empty).relationContributions relation) :
    operation.response = contractFor config operation.response.shape ∧
      Answers config operation.response.shape operation.body := by
  rw [relationContributions_withoutRoutes] at hoperation
  cases hcardinality : relation.cardinality <;>
    simp only [hcardinality, List.mem_cons, List.not_mem_nil, or_false] at hoperation
  case single =>
    rcases hoperation with rfl | rfl | rfl
    · exact ⟨rfl, config.getBody_answers relation⟩
    · exact ⟨rfl, config.setBody_answers relation _⟩
    · exact ⟨rfl, config.clearBody_answers relation⟩
  case multiple =>
    rcases hoperation with rfl | rfl | rfl | rfl | rfl
    · exact ⟨rfl, config.getAllBody_answers relation⟩
    · exact ⟨rfl, config.handOver_answers relation _ _⟩
    · exact ⟨rfl, config.addByIdBody_answers relation _⟩
    · exact ⟨rfl, config.handOver_answers relation _ _⟩
    · exact ⟨rfl, config.removeByIdBody_answers relation⟩

theorem operation_answers (hoperation : operation ∈ config.synthesize.operations) :
    operation.response = contractFor config operation.response.shape ∧
      Answers config operation.response.shape operation.body := by
  obtain ⟨hplanned, -⟩ := mem_operations_iff.mp hoperation
  rcases mem_plannedOperations_iff.mp hplanned with hresource | ⟨relation, -, hmember⟩
  · exact resourceContribution_answers hresource
  · exact relationContribution_answers hmember

end ResourceConfiguration

/-! ## Promises -/

structure ResponseContract.Fits (contract : ResponseContract) (config : ResourceConfiguration) :
    Prop where
  wrapped_iff : contract.wrapped = true ↔ ∃ wrapper, config.wrapper = some wrapper
  wrappedType : ∀ wrapper ∈ config.wrapper,
    contract.declaredType = wrapper ++ "<" ++ contract.shape.bareType ++ ">"
  bareType : config.wrapper = none → contract.declaredType = contract.shape.bareType
  status : contract.status.code = if contract.shape = .empty then 204 else 200

theorem contractFor_fits (config : ResourceConfiguration) (shape : ResponseShape) :
    (contractFor config shape).Fits config where
  wrapped_iff := Option.isSome_iff_exists
  wrappedType wrapper hwrapper := by simp [contractFor, declaredType, Option.mem_def.mp hwrapper]
  bareType hnone := by simp [contractFor, declaredType, hnone]
  status := by cases shape <;> rfl

/--
Every operation returns once, at the end.  It forwards what another operation answered, and
otherwise puts its answer into the wrapper, if there is one; the contract says so.
-/
theorem answers_as_promised (config : ResourceConfiguration) :
    ∀ operation ∈ config.synthesize.operations,
      operation.response.Fits config ∧ ReturnsLast operation.body ∧
        ForwardsCalls operation.body ∧
        (calls operation.body = [] →
          (config.wrapper ≠ none → WrapsOnce operation.response.shape operation.body) ∧
            (config.wrapper = none → StaysBare operation.response.shape operation.body)) := by
  intro operation hoperation
  obtain ⟨hcontract, hanswers⟩ := ResourceConfiguration.operation_answers hoperation
  have hfits : operation.response.Fits config := by
    rw [hcontract]
    exact contractFor_fits config operation.response.shape
  refine ⟨hfits, hanswers.returnsLast, hanswers.forwardsCalls, fun hcalls => ⟨?_, ?_⟩⟩
  · intro hwrapper
    exact hanswers.wrapsOnce hcalls (Option.isSome_iff_ne_none.mpr hwrapper)
  · intro hwrapper
    exact hanswers.staysBare hcalls (by simp [ResourceConfiguration.isWrapped, hwrapper])

def ordersInEnvelopes : ResourceConfiguration :=
  { orders with wrapper := some "shop.Envelope" }

/-- The customer is put into an envelope where it is read, and not once more where it is set. -/
theorem ordersInEnvelopes_answer_once :
    (∃ reader ∈ ordersInEnvelopes.synthesize.operations, reader.name = "get_customer" ∧
      reader.response.declaredType = "shop.Envelope<shop.Customer>" ∧
        ∃ before source result, reader.body =
          before ++ [.wrapContent source .item result, .return result]) ∧
      ∃ setter ∈ ordersInEnvelopes.synthesize.operations, setter.name = "set_customer" ∧
        ∀ step ∈ setter.body, step.isWrap = false := by
  constructor
  · obtain ⟨reader, hreader, hname, hcalls, hshape⟩ :
        ∃ reader ∈ ordersInEnvelopes.synthesize.operations, reader.name = "get_customer" ∧
          calls reader.body = [] ∧ reader.response.shape = .item "shop.Customer" := by
      decide
    obtain ⟨hfits, -, -, hdirect⟩ := answers_as_promised ordersInEnvelopes reader hreader
    obtain ⟨before, wrap, result, hbody, -, hwrap⟩ := (hdirect hcalls).1 (by decide)
    rw [hshape] at hwrap
    obtain ⟨hempty, -⟩ | ⟨content, source, hcontent, rfl⟩ := hwrap
    · cases hempty
    · obtain rfl : ContentKind.item = content := Option.some.inj hcontent
      refine ⟨reader, hreader, hname, ?_, before, source, result, hbody⟩
      rw [hfits.wrappedType "shop.Envelope" rfl, hshape]
      rfl
  · obtain ⟨setter, hsetter, hname, call, hcall, -⟩ :
        ∃ setter ∈ ordersInEnvelopes.synthesize.operations, setter.name = "set_customer" ∧
          ∃ call ∈ calls setter.body, True := by
      decide
    obtain ⟨-, -, hforwards, -⟩ := answers_as_promised ordersInEnvelopes setter hsetter
    exact ⟨setter, hsetter, hname, (hforwards call hcall).1⟩

/-! ## Promises of caller and callee -/

/--
An operation that another one on the relation calls gets just the arguments that it has
parameters for, each a parameter of the caller or set before the call, and promises what the
caller does.
-/
theorem call_fits_callee (config : ResourceConfiguration)
    (hnames : (config.relations.map Relation.name).Nodup) :
    ∀ caller ∈ config.synthesize.operations, ∀ callee ∈ config.synthesize.operations,
      callee.relation = caller.relation → ∀ before arguments into after,
        caller.body = before ++ .delegate callee.name arguments into :: after →
          arguments = callee.parameters.map Parameter.name ∧
            (∀ argument ∈ arguments, argument ∈ caller.parameters.map Parameter.name ∨
              ∃ earlier ∈ before, earlier.into? = some argument) ∧
            callee.response = caller.response := by
  intro caller hcaller callee hcallee hsame before arguments into after hbody
  obtain ⟨hplanned, -⟩ := ResourceConfiguration.mem_operations_iff.mp hcaller
  obtain ⟨hcalleePlanned, -⟩ := ResourceConfiguration.mem_operations_iff.mp hcallee
  have hcall : ⟨callee.name, arguments, into⟩ ∈ calls caller.body := by simp [hbody]
  rcases ResourceConfiguration.mem_plannedOperations_iff.mp hplanned with
    hresource | ⟨relation, hrelation, hmember⟩
  · simp [ResourceConfiguration.calls_of_mem_resourceContributions hresource] at hcall
  -- the operation that is called is known by its relation and its name
  obtain ⟨fitting, hfitting, hname, hparameters, hresponse⟩ :=
    ResourceConfiguration.exists_fitting_callee hmember hcall
  have hmanages := ResourceConfiguration.relation_of_mem_relationContributions hmember
  obtain rfl := ResourceConfiguration.plannedOperation_eq_of_name hnames hrelation hfitting
    hcalleePlanned (hsame.trans hmanages) hname
  have hscoped : WellScoped (caller.parameters.map Parameter.name) caller.body :=
    wellScoped_of_checks (config.relationContribution_typed hmember).1
  exact ⟨hparameters.symm, hscoped before _ after hbody, hresponse⟩

theorem orders_call_fits :
    (orders.relations.map Relation.name).Nodup ∧
      ∃ caller ∈ orders.synthesize.operations, ∃ callee ∈ orders.synthesize.operations,
        callee.name = "get_customer" ∧ callee.parameters.map Parameter.name = ["id"] ∧
          callee.response = caller.response := by
  have hnames : (orders.relations.map Relation.name).Nodup := by decide
  obtain ⟨caller, hcaller, callee, hcallee, hname, hsame, hbody⟩ :
      ∃ caller ∈ orders.synthesize.operations, ∃ callee ∈ orders.synthesize.operations,
        callee.name = "get_customer" ∧ callee.relation = caller.relation ∧
          caller.body =
            [.readOwner "id" "entity", .invokeAccessor "entity" "setCustomer" (some "dto"),
              .update "entity" "entity"] ++
            .delegate callee.name ["id"] (some "response") :: [.return "response"] := by
    decide
  obtain ⟨harguments, -, hresponse⟩ :=
    call_fits_callee orders hnames caller hcaller callee hcallee hsame _ _ _ _ hbody
  exact ⟨hnames, caller, hcaller, callee, hcallee, hname, harguments.symm, hresponse⟩

end ApiSurface
