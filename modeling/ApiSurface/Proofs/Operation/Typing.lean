import ApiSurface.Proofs.Operation.Delegation

/-!
# Types of the variables in a body

A body is read from its parameters on: each step finds the variables that it reads, at the types
that it needs, and leaves one more variable behind.  The types of payloads and responses may
differ from the type of the record or related value that they stand for, and exactly where they
differ there is a mapping step.  `body_wellTyped` says so for every operation of a controller.
-/

namespace ApiSurface

/-! ## Reading and setting variables -/

namespace Step

def reads : Step → List String
  | .readOwner id _ | .deleteById id | .resolveReference _ id _ => [id]
  | .mapTo source _ _ | .assign source _ | .create source _ | .update source _
  | .mapEach source _ _ | .extractId source _ _ | .wrapContent source _ _ | .return source =>
      [source]
  | .assignId target id => [target, id]
  | .merge base changes _ => [base, changes]
  | .buildFilter filter _ _ => [filter]
  | .searchPage filter page size _ => [filter, page, size]
  | .readAccessor target _ _ => [target]
  | .invokeAccessor target _ value => target :: value.toList
  | .delegate _ arguments _ => arguments
  | .listAll _ | .wrapNoContent _ | .returnEmpty => []

def into? : Step → Option String
  | .readOwner _ into | .mapTo _ _ into | .assign _ into | .create _ into | .update _ into
  | .merge _ _ into | .listAll into | .buildFilter _ _ into | .searchPage _ _ _ into
  | .mapEach _ _ into | .readAccessor _ _ into | .resolveReference _ _ into
  | .extractId _ _ into | .wrapContent _ _ into | .wrapNoContent into => some into
  | .delegate _ _ into => into
  | .assignId _ _ | .deleteById _ | .invokeAccessor _ _ _ | .return _ | .returnEmpty => none

end Step

/-- Whatever a step reads is a parameter or was set by an earlier step. -/
def WellScoped (parameters : List String) (body : List Step) : Prop :=
  ∀ before step after, body = before ++ step :: after → ∀ name ∈ step.reads,
    name ∈ parameters ∨ ∃ earlier ∈ before, earlier.into? = some name

/-! ## Types -/

inductive Held where
  | content (kind : ContentKind) (type : String)
  | criteria (type : String)
  /-- A finished response: a wrapper, or what another operation answered. -/
  | response
  deriving DecidableEq, Repr

abbrev Held.value (type : String) : Held :=
  .content .item type

def ResponseShape.held? (shape : ResponseShape) : Option Held :=
  match shape with
  | .item type => some (.content .item type)
  | .sequence type => some (.content .sequence type)
  | .page type => some (.content .page type)
  | .empty => none

def Cardinality.contentKind : Cardinality → ContentKind
  | .single => .item
  | .multiple => .sequence

/-- Variables and what they hold, the latest first. -/
abbrev Scope :=
  List (String × Held)

namespace Scope

def ofParameters (parameters : List Parameter) : Scope :=
  parameters.map fun parameter => (parameter.name, .value parameter.type)

def held? (scope : Scope) (name : String) : Option Held :=
  List.lookup name scope

@[simp] theorem held?_cons_self (scope : Scope) (name : String) (held : Held) :
    held? ((name, held) :: scope) name = some held :=
  List.lookup_cons_self

@[simp] theorem held?_cons_ne (scope : Scope) {name other : String} (hne : name ≠ other)
    (held : Held) : held? ((other, held) :: scope) name = held? scope name := by
  rw [held?, List.lookup_cons, beq_false_of_ne hne]
  rfl

theorem mem_of_held?_eq_some {scope : Scope} {name : String} {held : Held}
    (hheld : scope.held? name = some held) : name ∈ scope.map Prod.fst := by
  induction scope with
  | nil => simp [held?] at hheld
  | cons first scope ih =>
      obtain ⟨other, held'⟩ := first
      by_cases heq : name = other
      · simp [heq]
      · rw [held?_cons_ne scope heq] at hheld
        exact List.mem_cons_of_mem _ (ih hheld)

end Scope

structure Frame where
  config : ResourceConfiguration
  relation : Option Relation
  shape : ResponseShape

namespace Step

def result? (frame : Frame) (scope : Scope) : Step → Option (String × Held)
  | .readOwner _ into | .create _ into | .update _ into | .merge _ _ into =>
      some (into, .value frame.config.resourceType)
  | .mapTo _ shape into => some (into, .value shape)
  | .assign source into => (scope.held? source).map (into, ·)
  | .listAll into => some (into, .content .sequence frame.config.resourceType)
  | .buildFilter _ shape into => some (into, .criteria shape)
  | .searchPage _ _ _ into => some (into, .content .page frame.config.resourceType)
  | .mapEach source shape into =>
      match scope.held? source with
      | some (.content kind _) => some (into, .content kind shape)
      | _ => none
  | .readAccessor _ _ into =>
      frame.relation.map fun relation =>
        (into, .content relation.cardinality.contentKind relation.relatedType)
  | .resolveReference relatedType _ into => some (into, .value relatedType)
  | .extractId _ _ into =>
      frame.relation.map fun relation => (into, .value relation.relatedIdType)
  | .delegate _ _ into => into.map (·, .response)
  | .wrapContent _ _ into | .wrapNoContent into => some (into, .response)
  | .assignId _ _ | .deleteById _ | .invokeAccessor _ _ _ | .return _ | .returnEmpty => none

def extend (frame : Frame) (scope : Scope) (step : Step) : Scope :=
  (step.result? frame scope).toList ++ scope

/-- What a step needs of the variables that it reads. -/
def Accepts (frame : Frame) (scope : Scope) : Step → Prop
  | .readOwner id _ | .deleteById id => scope.held? id = some (.value frame.config.idType)
  | .mapTo source _ _ => ∃ type, scope.held? source = some (.value type)
  | .assign source _ => ∃ held, scope.held? source = some held
  | .assignId target id =>
      scope.held? target = some (.value frame.config.resourceType) ∧
        scope.held? id = some (.value frame.config.idType)
  | .create source _ | .update source _ =>
      scope.held? source = some (.value frame.config.resourceType)
  | .merge base changes _ =>
      scope.held? base = some (.value frame.config.resourceType) ∧
        scope.held? changes = some (.value frame.config.resourceType)
  | .listAll _ => True
  | .buildFilter filter shape _ =>
      scope.held? filter = some (.value "String") ∧ shape = frame.config.resourceType
  | .searchPage filter page size _ =>
      scope.held? filter = some (.criteria frame.config.resourceType) ∧
        scope.held? page = some (.value "u32") ∧ scope.held? size = some (.value "u32")
  | .mapEach source _ _ =>
      ∃ kind type, kind ≠ .item ∧ scope.held? source = some (.content kind type)
  | .readAccessor target _ _ =>
      frame.relation ≠ none ∧ scope.held? target = some (.value frame.config.resourceType)
  | .invokeAccessor target _ value =>
      scope.held? target = some (.value frame.config.resourceType) ∧
        ∃ relation ∈ frame.relation, ∀ name ∈ value,
          scope.held? name = some (.value relation.relatedType)
  | .resolveReference relatedType id _ =>
      ∃ relation ∈ frame.relation, relatedType = relation.relatedType ∧
        scope.held? id = some (.value relation.relatedIdType)
  | .extractId source _ _ =>
      ∃ relation ∈ frame.relation, scope.held? source = some (.value relation.relatedType)
  | .delegate operation arguments _ =>
      ∃ relation ∈ frame.relation,
        ∃ callee ∈ (frame.config.withRoutes .empty).relationContributions relation,
          callee.name = operation ∧
            arguments.map scope.held? =
              callee.parameters.map fun parameter => some (.value parameter.type)
  | .wrapContent source kind _ =>
      ∃ type, frame.shape.held? = some (.content kind type) ∧
        scope.held? source = some (.content kind type)
  | .wrapNoContent _ | .returnEmpty => frame.shape = .empty
  | .return source =>
      ∃ held, scope.held? source = some held ∧
        (held = .response ∨ frame.config.isWrapped = false ∧ frame.shape.held? = some held)

def conversion? (scope : Scope) : Step → Option (String × String)
  | .mapTo source shape _ | .mapEach source shape _ =>
      match scope.held? source with
      | some (.content _ type) => some (type, shape)
      | _ => none
  | _ => none

end Step

def Checks (frame : Frame) : Scope → List Step → Prop
  | _, [] => True
  | scope, step :: rest => step.Accepts frame scope ∧ Checks frame (step.extend frame scope) rest

def conversions (frame : Frame) : Scope → List Step → List (String × String)
  | _, [] => []
  | scope, step :: rest =>
      (step.conversion? scope).toList ++ conversions frame (step.extend frame scope) rest

/-- The types that a payload has and is needed at, and those that a result has and is answered
at. -/
def Operation.crossings (operation : Operation) (subject : String) : List (String × String) :=
  (operation.parameters.filter fun parameter => parameter.source = .body).map
      (fun parameter => (parameter.type, subject)) ++
    if calls operation.body = [] then operation.response.shape.type?.toList.map (subject, ·)
    else []

/-! ## Typed bodies are scoped -/

namespace Step

theorem exists_held?_of_accepts {frame : Frame} {scope : Scope} {step : Step}
    (haccepts : step.Accepts frame scope) {name : String} (hname : name ∈ step.reads) :
    ∃ held, scope.held? name = some held := by
  cases step with
  | delegate operation arguments into =>
      obtain ⟨relation, -, callee, -, -, hheld⟩ := haccepts
      have hmem : scope.held? name ∈ arguments.map scope.held? := List.mem_map_of_mem hname
      rw [hheld] at hmem
      obtain ⟨parameter, -, heq⟩ := List.mem_map.mp hmem
      exact ⟨_, heq.symm⟩
  | _ => grind [reads, Accepts]

theorem into?_of_result? {frame : Frame} {scope : Scope} {step : Step} {name : String}
    {held : Held} (hresult : step.result? frame scope = some (name, held)) :
    step.into? = some name := by
  cases step <;> grind [result?, into?, Option.map_eq_some_iff]

end Step

theorem exists_before_of_checks {frame : Frame} {scope : Scope} {before after : List Step}
    {step : Step} (hchecks : Checks frame scope (before ++ step :: after)) {name : String}
    (hname : name ∈ step.reads) :
    name ∈ scope.map Prod.fst ∨ ∃ earlier ∈ before, earlier.into? = some name := by
  induction before generalizing scope with
  | nil =>
      obtain ⟨held, hheld⟩ := Step.exists_held?_of_accepts hchecks.1 hname
      exact .inl (Scope.mem_of_held?_eq_some hheld)
  | cons first before ih =>
      rcases ih hchecks.2 with hscope | ⟨earlier, hearlier, hinto⟩
      · rw [Step.extend, List.map_append, List.mem_append] at hscope
        -- the name is the one that the first step sets, or was in the scope before it
        rcases hscope with hresult | hscope
        · obtain ⟨⟨set, held⟩, hmem, rfl⟩ := List.mem_map.mp hresult
          have hfirst : first.result? frame scope = some (set, held) := by simpa using hmem
          exact .inr ⟨first, List.mem_cons_self, Step.into?_of_result? hfirst⟩
        · exact .inl hscope
      · exact .inr ⟨earlier, List.mem_cons_of_mem _ hearlier, hinto⟩

theorem wellScoped_of_checks {frame : Frame} {parameters : List Parameter} {body : List Step}
    (hchecks : Checks frame (.ofParameters parameters) body) :
    WellScoped (parameters.map Parameter.name) body := by
  rintro before step after rfl name hname
  have hbefore := exists_before_of_checks hchecks hname
  simpa [Scope.ofParameters, Function.comp_def] using hbefore

/-! ## Typed bodies, piece by piece -/

/-- Each step finds what it needs, and a mapping stands wherever the two types of a crossing
differ and nowhere else. -/
def Typed (frame : Frame) (scope : Scope) (body : List Step)
    (crossings : List (String × String)) : Prop :=
  Checks frame scope body ∧
    conversions frame scope body = crossings.filter fun crossing => crossing.1 ≠ crossing.2

section

variable {frame : Frame} {scope : Scope} {rest : List Step}
  {crossings : List (String × String)} {source shape into type : String}

theorem Typed.step {step : Step} (haccepts : step.Accepts frame scope)
    (hconversion : step.conversion? scope = none)
    (hrest : Typed frame (step.extend frame scope) rest crossings) :
    Typed frame scope (step :: rest) crossings := by
  refine ⟨⟨haccepts, hrest.1⟩, ?_⟩
  rw [conversions, hconversion]
  exact hrest.2

theorem Typed.same (hrest : Typed frame scope rest crossings) :
    Typed frame scope rest ((type, type) :: crossings) := by
  simpa [Typed] using hrest

theorem Typed.mapTo (hsource : scope.held? source = some (.value type)) (hne : type ≠ shape)
    (hrest : Typed frame ((into, .value shape) :: scope) rest crossings) :
    Typed frame scope (.mapTo source shape into :: rest) ((type, shape) :: crossings) := by
  refine ⟨⟨⟨type, hsource⟩, hrest.1⟩, ?_⟩
  rw [conversions, List.filter_cons_of_pos (by simpa using hne)]
  simp only [Step.conversion?, hsource]
  exact congrArg ((type, shape) :: ·) hrest.2

theorem Typed.mapEach {kind : ContentKind} (hkind : kind ≠ .item)
    (hsource : scope.held? source = some (.content kind type)) (hne : type ≠ shape)
    (hrest : Typed frame ((into, .content kind shape) :: scope) rest crossings) :
    Typed frame scope (.mapEach source shape into :: rest) ((type, shape) :: crossings) := by
  have hextend : (Step.mapEach source shape into).extend frame scope =
      (into, .content kind shape) :: scope := by
    simp [Step.extend, Step.result?, hsource]
  refine ⟨⟨⟨kind, type, hkind, hsource⟩, hextend ▸ hrest.1⟩, ?_⟩
  rw [conversions, hextend, List.filter_cons_of_pos (by simpa using hne)]
  simp only [Step.conversion?, hsource]
  exact congrArg ((type, shape) :: ·) hrest.2

/-- What comes behind `mapped` finds the mapped value, and all but the new variable as before. -/
theorem Typed.mapped {differs : Bool} (hdiffers : differs = (type != shape))
    (hsource : scope.held? source = some (.value type))
    (hrest : ∀ scope' : Scope,
      scope'.held? (ApiSurface.mapped differs source shape into).name = some (.value shape) →
      (∀ name, name ≠ into → scope'.held? name = scope.held? name) →
      Typed frame scope' rest crossings) :
    Typed frame scope ((ApiSurface.mapped differs source shape into).steps ++ rest)
      ((type, shape) :: crossings) := by
  subst hdiffers
  by_cases heq : type = shape
  · subst heq
    simp only [bne_self_eq_false] at hrest ⊢
    exact (hrest scope hsource fun _ _ => rfl).same
  · rw [bne_iff_ne.mpr heq] at hrest ⊢
    refine Typed.mapTo hsource heq (hrest _ ?_ fun name hname => ?_)
    · exact Scope.held?_cons_self _ _ _
    · exact Scope.held?_cons_ne _ hname _

theorem Typed.mappedEach {differs : Bool} {kind : ContentKind} (hkind : kind ≠ .item)
    (hdiffers : differs = (type != shape))
    (hsource : scope.held? source = some (.content kind type))
    (hrest : ∀ scope' : Scope,
      scope'.held? (ApiSurface.mappedEach differs source shape into).name =
        some (.content kind shape) →
      Typed frame scope' rest crossings) :
    Typed frame scope ((ApiSurface.mappedEach differs source shape into).steps ++ rest)
      ((type, shape) :: crossings) := by
  subst hdiffers
  by_cases heq : type = shape
  · subst heq
    simp only [bne_self_eq_false] at hrest ⊢
    exact (hrest scope hsource).same
  · rw [bne_iff_ne.mpr heq] at hrest ⊢
    exact Typed.mapEach hkind hsource heq (hrest _ (Scope.held?_cons_self _ _ _))

/-! ### The last steps -/

theorem Typed.returned (hresponse : scope.held? source = some .response) :
    Typed frame scope [.return source] [] :=
  .step ⟨_, hresponse, .inl rfl⟩ rfl ⟨trivial, rfl⟩

theorem Typed.respondEmpty (hshape : frame.shape = .empty) :
    Typed frame scope (ApiSurface.respondEmpty frame.config) [] := by
  unfold ApiSurface.respondEmpty
  split
  · exact .step hshape rfl (.returned (Scope.held?_cons_self _ _ _))
  · exact .step hshape rfl ⟨trivial, rfl⟩

theorem Typed.respondWith {held : Held} (hheld : frame.shape.held? = some held)
    (hsource : scope.held? source = some held) :
    Typed frame scope (ApiSurface.respondWith frame.config frame.shape source) [] := by
  obtain ⟨config, relation, shape⟩ := frame
  unfold ApiSurface.respondWith
  cases shape with
  | empty => simp [ResponseShape.held?] at hheld
  | _ type =>
      obtain rfl := Option.some.inj hheld
      simp only [ResponseShape.contentKind?]
      split
      case isTrue =>
        have hwrapped := Scope.held?_cons_self scope responseVariable .response
        exact .step ⟨type, rfl, hsource⟩ rfl (.returned hwrapped)
      case isFalse hbare =>
        have hbare : config.isWrapped = false := by simpa using hbare
        exact .step ⟨_, hsource, .inr ⟨hbare, rfl⟩⟩ rfl ⟨trivial, rfl⟩

theorem Typed.respondThrough {operation : String} {arguments : List String}
    (haccepts : (Step.delegate operation arguments (some responseVariable)).Accepts frame
      scope) :
    Typed frame scope (ApiSurface.respondThrough operation arguments) [] :=
  .step haccepts rfl (.returned (Scope.held?_cons_self _ _ _))

end

/-! ## The bodies on the resource -/

namespace ResourceConfiguration

variable (config : ResourceConfiguration)

theorem respondRecord_typed {scope : Scope} {source : String}
    (hsource : scope.held? source = some (.value config.resourceType)) :
    Typed ⟨config, none, .item config.singleShape⟩ scope (config.respondRecord source)
      [(config.resourceType, config.singleShape)] :=
  .mapped (bne_comm ..) hsource fun _ hresult _ => .respondWith rfl hresult

theorem createBody_typed :
    Typed ⟨config, none, .item config.singleShape⟩ (.ofParameters [config.requestParameter])
      config.createBody
      [(config.requestShape, config.resourceType), (config.resourceType, config.singleShape)] := by
  rw [createBody, List.append_assoc]
  refine .mapped rfl (Scope.held?_cons_self _ _ _) fun scope hentity _ => ?_
  exact .step hentity rfl (respondRecord_typed config (Scope.held?_cons_self _ _ _))

theorem readBody_typed :
    Typed ⟨config, none, .item config.singleShape⟩ (.ofParameters [config.idParameter])
      config.readBody [(config.resourceType, config.singleShape)] :=
  .step (Scope.held?_cons_self _ _ _) rfl
    (respondRecord_typed config (Scope.held?_cons_self _ _ _))

theorem updateBody_typed :
    Typed ⟨config, none, .item config.singleShape⟩
      (.ofParameters [config.idParameter, config.requestParameter]) config.updateBody
      [(config.requestShape, config.resourceType), (config.resourceType, config.singleShape)] := by
  rw [updateBody, List.append_assoc, List.append_assoc]
  refine .step (Scope.held?_cons_self _ _ _) rfl ?_
  refine .mapped rfl rfl fun scope hchanges hothers => ?_
  refine .step ⟨hothers "original" (by decide), hchanges⟩ rfl ?_
  refine .step (Scope.held?_cons_self _ _ _) rfl ?_
  exact respondRecord_typed config (Scope.held?_cons_self _ _ _)

theorem replaceBody_typed :
    Typed ⟨config, none, .item config.singleShape⟩
      (.ofParameters [config.idParameter, config.requestParameter]) config.replaceBody
      [(config.requestShape, config.resourceType), (config.resourceType, config.singleShape)] := by
  -- the record is in `changed` either way, at the type of the resource
  have hstore {scope : Scope}
      (hchanged : scope.held? "changed" = some (.value config.resourceType))
      (hid : scope.held? "id" = some (.value config.idType)) :
      Typed ⟨config, none, .item config.singleShape⟩ scope
        (.assignId "changed" "id" :: .update "changed" "saved" :: config.respondRecord "saved")
        [(config.resourceType, config.singleShape)] := by
    refine .step ⟨hchanged, hid⟩ rfl (.step hchanged rfl ?_)
    exact respondRecord_typed config (Scope.held?_cons_self _ _ _)
  by_cases heq : config.requestShape = config.resourceType
  · have hmaps : config.mapsRequest = false := by simp [mapsRequest, heq]
    simp only [replaceBody, hmaps, heq]
    refine Typed.same (.step ⟨.value config.requestShape, rfl⟩ rfl (hstore ?_ rfl))
    rw [← heq]
    rfl
  · have hmaps : config.mapsRequest = true := by simp [mapsRequest, heq]
    simp only [replaceBody, hmaps]
    exact Typed.mapTo rfl heq (hstore rfl rfl)

theorem deleteBody_typed :
    Typed ⟨config, none, .empty⟩ (.ofParameters [config.idParameter]) config.deleteBody [] :=
  .step (Scope.held?_cons_self _ _ _) rfl (.respondEmpty rfl)

theorem listBody_typed :
    Typed ⟨config, none, .sequence config.listShape⟩ (.ofParameters []) config.listBody
      [(config.resourceType, config.listShape)] := by
  rw [listBody, List.append_assoc]
  refine .step trivial rfl ?_
  exact .mappedEach (by decide) (bne_comm ..) (Scope.held?_cons_self _ _ _)
    fun _ hitems => .respondWith rfl hitems

theorem searchBody_typed :
    Typed ⟨config, none, .page config.listShape⟩ (.ofParameters config.searchParameters)
      config.searchBody [(config.resourceType, config.listShape)] := by
  rw [searchBody, List.append_assoc]
  refine .step ⟨rfl, rfl⟩ rfl (.step ⟨rfl, rfl, rfl⟩ rfl ?_)
  exact .mappedEach (by decide) (bne_comm ..) (Scope.held?_cons_self _ _ _)
    fun _ hitems => .respondWith rfl hitems

/-! ## The bodies on a relation -/

variable {relation : Relation}

theorem exists_reader (relation : Relation) :
    ∃ callee ∈ (config.withRoutes .empty).relationContributions relation,
      callee.name = relation.pluralOperationName "get" ∧
        callee.parameters = [config.idParameter] := by
  rw [relationContributions_withoutRoutes]
  cases relation.cardinality <;> exact ⟨_, List.mem_cons_self, rfl, rfl⟩

theorem exists_byId (hmultiple : relation.cardinality = .multiple) {verb : String}
    (hverb : verb = "add" ∨ verb = "remove") :
    ∃ callee ∈ (config.withRoutes .empty).relationContributions relation,
      callee.name = relation.byIdOperationName verb ∧
        callee.parameters = [config.idParameter, relation.idParameter] := by
  rw [relationContributions_withoutRoutes, hmultiple]
  rcases hverb with rfl | rfl
  · exact ⟨_, .tail _ (.tail _ (.head _)), rfl, rfl⟩
  · exact ⟨_, .tail _ (.tail _ (.tail _ (.tail _ (.head _)))), rfl, rfl⟩

theorem respondState_typed {shape : ResponseShape} {scope : Scope}
    (hid : scope.held? "id" = some (.value config.idType)) :
    Typed ⟨config, some relation, shape⟩ scope relation.respondState [] := by
  obtain ⟨callee, hcallee, hname, hparameters⟩ := config.exists_reader relation
  refine .respondThrough ⟨relation, rfl, callee, hcallee, hname, ?_⟩
  rw [hparameters, List.map_singleton, hid]
  rfl

theorem changeOwner_typed {shape : ResponseShape} {scope : Scope} {rest : List Step}
    {crossings : List (String × String)} {accessor : String} {value : Option String}
    (hentity : scope.held? "entity" = some (.value config.resourceType))
    (hvalue : ∀ name ∈ value, scope.held? name = some (.value relation.relatedType))
    (hrest : Typed ⟨config, some relation, shape⟩
      (("entity", .value config.resourceType) :: scope) rest crossings) :
    Typed ⟨config, some relation, shape⟩ scope (Relation.changeOwner accessor value ++ rest)
      crossings :=
  .step ⟨hentity, relation, rfl, hvalue⟩ rfl (.step hentity rfl hrest)

theorem changeById_typed {shape : ResponseShape} {rest : List Step} {accessor : String}
    (hrest : ∀ scope : Scope, scope.held? "id" = some (.value config.idType) →
      Typed ⟨config, some relation, shape⟩ scope rest []) :
    Typed ⟨config, some relation, shape⟩
      (.ofParameters [config.idParameter, relation.idParameter])
      (relation.changeById accessor ++ rest) [] := by
  refine .step rfl rfl (.step ⟨relation, rfl, rfl, rfl⟩ rfl ?_)
  refine changeOwner_typed config rfl ?_ (hrest _ rfl)
  rintro _ ⟨⟩
  rfl

theorem handOver_typed {shape : ResponseShape} (hmultiple : relation.cardinality = .multiple)
    {verb : String} (hverb : verb = "add" ∨ verb = "remove") :
    Typed ⟨config, some relation, shape⟩
      (.ofParameters [config.idParameter, relation.payloadParameter]) (relation.handOver verb)
      [(relation.responseShape, relation.relatedType)] := by
  rw [Relation.handOver, List.append_assoc]
  refine .mapped rfl rfl fun scope hrelated hothers => ?_
  refine .step ⟨relation, rfl, hrelated⟩ rfl ?_
  obtain ⟨callee, hcallee, hname, hparameters⟩ := config.exists_byId hmultiple hverb
  refine .respondThrough ⟨relation, rfl, callee, hcallee, hname, ?_⟩
  have hid : scope.held? "id" = some (.value config.idType) := hothers "id" (by decide)
  rw [hparameters]
  change [Scope.held? (("relation_id", .value relation.relatedIdType) :: scope) "id",
    Scope.held? (("relation_id", .value relation.relatedIdType) :: scope) "relation_id"] = _
  rw [Scope.held?_cons_ne scope (by decide), hid, Scope.held?_cons_self]
  rfl

theorem readRelation_typed {shape : ResponseShape} {rest : List Step}
    {crossings : List (String × String)}
    (hrest : ∀ scope : Scope,
      scope.held? "related" =
        some (.content relation.cardinality.contentKind relation.relatedType) →
      Typed ⟨config, some relation, shape⟩ scope rest crossings) :
    Typed ⟨config, some relation, shape⟩ (.ofParameters [config.idParameter])
      ([Relation.readOwnerStep, .readAccessor "entity" relation.accessors.get "related"] ++ rest)
      crossings :=
  .step rfl rfl (.step ⟨nofun, rfl⟩ rfl (hrest _ rfl))

theorem getBody_typed (hsingle : relation.cardinality = .single) :
    Typed ⟨config, some relation, .item relation.responseShape⟩
      (.ofParameters [config.idParameter]) (config.getBody relation)
      [(relation.relatedType, relation.responseShape)] := by
  rw [getBody, List.append_assoc]
  refine readRelation_typed config fun scope hrelated => ?_
  rw [hsingle] at hrelated
  exact .mapped (bne_comm ..) hrelated fun _ hresult _ => .respondWith rfl hresult

theorem setBody_typed :
    Typed ⟨config, some relation, .item relation.responseShape⟩
      (.ofParameters [config.idParameter, relation.payloadParameter]) relation.setBody
      [(relation.responseShape, relation.relatedType)] := by
  rw [Relation.setBody, List.append_assoc, List.append_assoc]
  refine .step rfl rfl (.mapped rfl rfl fun scope hrelated hothers => ?_)
  have hentity : scope.held? "entity" = some (.value config.resourceType) :=
    hothers "entity" (by decide)
  have hid : scope.held? "id" = some (.value config.idType) := hothers "id" (by decide)
  refine changeOwner_typed config hentity ?_ (respondState_typed config hid)
  rintro _ ⟨⟩
  exact hrelated

theorem clearBody_typed :
    Typed ⟨config, some relation, .empty⟩ (.ofParameters [config.idParameter])
      (config.clearBody relation) [] := by
  rw [clearBody, List.append_assoc]
  exact .step rfl rfl (changeOwner_typed config rfl (by simp) (.respondEmpty rfl))

theorem getAllBody_typed (hmultiple : relation.cardinality = .multiple) :
    Typed ⟨config, some relation, .sequence relation.responseShape⟩
      (.ofParameters [config.idParameter]) (config.getAllBody relation)
      [(relation.relatedType, relation.responseShape)] := by
  rw [getAllBody, List.append_assoc]
  refine readRelation_typed config fun scope hrelated => ?_
  rw [hmultiple] at hrelated
  exact .mappedEach (by decide) (bne_comm ..) hrelated fun _ hitems => .respondWith rfl hitems

theorem addByIdBody_typed :
    Typed ⟨config, some relation, .sequence relation.responseShape⟩
      (.ofParameters [config.idParameter, relation.idParameter]) relation.addByIdBody [] :=
  changeById_typed config fun _ hid => respondState_typed config hid

theorem removeByIdBody_typed :
    Typed ⟨config, some relation, .empty⟩
      (.ofParameters [config.idParameter, relation.idParameter])
      (config.removeByIdBody relation) [] :=
  changeById_typed config fun _ _ => .respondEmpty rfl

/-! ## All operations -/

def Makes (config : ResourceConfiguration) (operation : Operation) : Option Relation → Prop
  | none => operation ∈ config.resourceContributions
  | some relation => relation ∈ config.relations ∧
      operation ∈ config.relationContributions relation

def subjectType (config : ResourceConfiguration) (relation : Option Relation) : String :=
  relation.elim config.resourceType Relation.relatedType

theorem exists_makes {operation : Operation}
    (hoperation : operation ∈ config.synthesize.operations) :
    ∃ relation, config.Makes operation relation := by
  rw [synthesize_operations, List.mem_append, List.mem_flatMap] at hoperation
  rcases hoperation with hresource | ⟨relation, hrelation, hmember⟩
  · exact ⟨none, hresource⟩
  · exact ⟨some relation, hrelation, hmember⟩

theorem resourceContribution_typed {operation : Operation}
    (hoperation : operation ∈ (config.withRoutes .empty).resourceContributions) :
    Typed ⟨config, none, operation.response.shape⟩ (.ofParameters operation.parameters)
      operation.body (operation.crossings config.resourceType) := by
  -- nothing on the resource is answered by another operation, so each result is a crossing
  have hcalls := calls_of_mem_resourceContributions hoperation
  rw [Operation.crossings, if_pos hcalls]
  rw [resourceContributions_withoutRoutes] at hoperation
  simp only [List.mem_cons, List.not_mem_nil, or_false] at hoperation
  rcases hoperation with rfl | rfl | rfl | rfl | rfl | rfl | rfl
  · exact config.createBody_typed
  · exact config.readBody_typed
  · exact config.updateBody_typed
  · exact config.replaceBody_typed
  · exact config.deleteBody_typed
  · exact config.listBody_typed
  · exact config.searchBody_typed

theorem relationContribution_typed {operation : Operation}
    (hoperation : operation ∈ (config.withRoutes .empty).relationContributions relation) :
    Typed ⟨config, some relation, operation.response.shape⟩
      (.ofParameters operation.parameters) operation.body
      (operation.crossings relation.relatedType) := by
  rw [relationContributions_withoutRoutes] at hoperation
  cases hcardinality : relation.cardinality <;>
    simp only [hcardinality, List.mem_cons, List.not_mem_nil, or_false] at hoperation
  case single =>
    rcases hoperation with rfl | rfl | rfl
    · rw [Operation.crossings, if_pos (by simp [relationOperation])]
      exact config.getBody_typed hcardinality
    · rw [Operation.crossings, if_neg (by simp [relationOperation])]
      exact config.setBody_typed
    · rw [Operation.crossings, if_pos (by simp [relationOperation])]
      exact config.clearBody_typed
  case multiple =>
    rcases hoperation with rfl | rfl | rfl | rfl | rfl
    · rw [Operation.crossings, if_pos (by simp [relationOperation])]
      exact config.getAllBody_typed hcardinality
    · rw [Operation.crossings, if_neg (by simp [relationOperation])]
      exact config.handOver_typed hcardinality (.inl rfl)
    · rw [Operation.crossings, if_neg (by simp [relationOperation])]
      exact config.addByIdBody_typed
    · rw [Operation.crossings, if_neg (by simp [relationOperation])]
      exact config.handOver_typed hcardinality (.inr rfl)
    · rw [Operation.crossings, if_pos (by simp [relationOperation])]
      exact config.removeByIdBody_typed

end ResourceConfiguration

/--
Each body reads only parameters and what its earlier steps set, finds every value at the type
that it needs, and maps a payload or a result exactly if its two types differ.
-/
theorem body_wellTyped (config : ResourceConfiguration) :
    ∀ operation ∈ config.synthesize.operations,
      (∃ relation, config.Makes operation relation) ∧
        ∀ relation, config.Makes operation relation →
          WellScoped (operation.parameters.map Parameter.name) operation.body ∧
            Typed ⟨config, relation, operation.response.shape⟩
              (.ofParameters operation.parameters) operation.body
              (operation.crossings (config.subjectType relation)) := by
  intro operation hoperation
  refine ⟨config.exists_makes hoperation, fun relation hmakes => ?_⟩
  -- what is made is planned too, and the planned operations are in the table
  have htyped : Typed ⟨config, relation, operation.response.shape⟩
      (.ofParameters operation.parameters) operation.body
      (operation.crossings (config.subjectType relation)) := by
    cases relation with
    | none =>
        exact config.resourceContribution_typed
          (ResourceConfiguration.planned_of_mem_resourceContributions hmakes)
    | some relation =>
        exact config.relationContribution_typed
          (ResourceConfiguration.planned_of_mem_relationContributions hmakes.2)
  exact ⟨wellScoped_of_checks htyped.1, htyped⟩

def ordersWithForms : ResourceConfiguration :=
  { orders with
    relations := [{ Relation.plain "customer" .single "shop.Customer" with
      responseShape := "shop.CustomerForm" }] }

theorem ordersWithForms_set_wellTyped :
    ∃ operation ∈ ordersWithForms.synthesize.operations,
      ∃ relation ∈ ordersWithForms.relations,
        operation.name = "set_customer" ∧
          WellScoped (operation.parameters.map Parameter.name) operation.body ∧
          conversions ⟨ordersWithForms, some relation, operation.response.shape⟩
            (.ofParameters operation.parameters) operation.body =
              [("shop.CustomerForm", "shop.Customer")] := by
  obtain ⟨operation, hoperation, relation, hrelation, hmember, hname, hcrossings⟩ :
      ∃ operation ∈ ordersWithForms.synthesize.operations,
        ∃ relation ∈ ordersWithForms.relations,
          operation ∈ ordersWithForms.relationContributions relation ∧
            operation.name = "set_customer" ∧
              operation.crossings relation.relatedType =
                [("shop.CustomerForm", "shop.Customer")] := by
    decide
  obtain ⟨hscoped, -, hconversions⟩ :=
    (body_wellTyped ordersWithForms operation hoperation).2 (some relation) ⟨hrelation, hmember⟩
  rw [ResourceConfiguration.subjectType, Option.elim_some, hcrossings] at hconversions
  exact ⟨operation, hoperation, relation, hrelation, hname, hscoped, hconversions⟩

end ApiSurface
