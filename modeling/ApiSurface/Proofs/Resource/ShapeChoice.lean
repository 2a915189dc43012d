import ApiSurface.Proofs.Catalog.FlatValues
import ApiSurface.Proofs.Operation.Response
import ApiSurface.Proofs.Resource.Assembly

/-!
# Which shapes a resource has

A marker may refer to a shape for everything, to one for lists and to one for requests.  Where it
is silent, lists and requests have the shape of single responses, and these have the resource type
(`shapes_follow_marker`).  An operation on the resource maps a value exactly if the shapes that it
takes or gives are not all the resource type, so a resource uses transfer objects exactly if some
such operation maps.
-/

namespace ApiSurface

/-! ## References -/

/-- The type that a reference means, or another type where there is no reference. -/
def DeclaredTypes.Means (declared : DeclaredTypes) (location : String) (reference? : Option String)
    (other type : String) : Prop :=
  match reference? with
  | none => type = other
  | some reference => declared.shape location reference = .ok type

namespace DtoShapes

variable {declared : DeclaredTypes} {values : MarkerValues} {resourceType single type : String}

theorem lookup_eq_ok_iff {keys : List String} {other : String} :
    lookup declared values keys other = .ok type ↔
      declared.Means values.location (values.firstOf? keys) other type := by
  unfold lookup DeclaredTypes.Means
  cases values.firstOf? keys with
  | none => simp [eq_comm]
  | some reference => rfl

/-- The common keys decide the shape of single responses, so a shape that looks at a key of its own
first falls back on that one, whether the common keys have a value or not. -/
theorem lookup_cons_eq_ok_iff {key : String}
    (hsingle : lookup declared values commonKeys resourceType = .ok single) :
    lookup declared values (key :: commonKeys) single = .ok type ↔
      declared.Means values.location (values.text? key) single type := by
  rw [lookup_eq_ok_iff] at hsingle ⊢
  rw [MarkerValues.firstOf?_cons]
  cases values.text? key with
  | some reference => rfl
  | none =>
      rw [Option.none_or]
      cases hcommon : values.firstOf? commonKeys with
      | none => rfl
      | some reference =>
          rw [hcommon] at hsingle
          simp only [DeclaredTypes.Means] at hsingle ⊢
          rw [hsingle, Except.ok.injEq, eq_comm]

theorem means_of_resolve {shapes : DtoShapes}
    (hshapes : resolve declared values resourceType = .ok shapes) :
    declared.Means values.location (values.firstOf? commonKeys) resourceType shapes.single ∧
      declared.Means values.location (values.text? "dtoConfig/list") shapes.single shapes.list ∧
      declared.Means values.location (values.text? "dtoConfig/request") shapes.single
        shapes.request := by
  obtain ⟨single, hsingle, hrest⟩ := bind_eq_ok_iff.mp hshapes
  obtain ⟨list, hlist, hrest⟩ := bind_eq_ok_iff.mp hrest
  obtain ⟨request, hrequest, hok⟩ := bind_eq_ok_iff.mp hrest
  cases hok
  exact ⟨lookup_eq_ok_iff.mp hsingle, (lookup_cons_eq_ok_iff hsingle).mp hlist,
    (lookup_cons_eq_ok_iff hsingle).mp hrequest⟩

end DtoShapes

/-! ## Mapping steps -/

def Step.isMap : Step → Bool
  | .mapTo _ _ _ | .mapEach _ _ _ => true
  | _ => false

def maps (body : List Step) : Bool :=
  body.any Step.isMap

@[simp] theorem maps_nil : maps [] = false := rfl

@[simp] theorem maps_cons (step : Step) (body : List Step) :
    maps (step :: body) = (step.isMap || maps body) :=
  List.any_cons

@[simp] theorem maps_append (body other : List Step) :
    maps (body ++ other) = (maps body || maps other) :=
  List.any_append

theorem maps_eq_false_iff {body : List Step} :
    maps body = false ↔ ∀ step ∈ body, step.isMap = false := by
  simp [maps]

@[simp] theorem maps_mapped (differs : Bool) (source shape into : String) :
    maps (mapped differs source shape into).steps = differs := by
  cases differs <;> rfl

@[simp] theorem maps_mappedEach (differs : Bool) (source shape into : String) :
    maps (mappedEach differs source shape into).steps = differs := by
  cases differs <;> rfl

theorem Ends.maps_eq_false {config : ResourceConfiguration} {shape : ResponseShape}
    {ending : List Step} (hends : Ends config shape ending) : maps ending = false := by
  cases hends <;> rfl

@[simp] theorem maps_respondEmpty (config : ResourceConfiguration) :
    maps (respondEmpty config) = false :=
  (respondEmpty_ends config).maps_eq_false

@[simp] theorem maps_respondWith (config : ResourceConfiguration) (shape : ResponseShape)
    (source : String) : maps (respondWith config shape source) = false :=
  (respondWith_ends config shape source).maps_eq_false

namespace ResourceConfiguration

@[simp] theorem maps_respondRecord (config : ResourceConfiguration) (source : String) :
    maps (config.respondRecord source) = config.mapsSingle := by
  simp [respondRecord]

theorem maps_replaceBody (config : ResourceConfiguration) :
    maps config.replaceBody = (config.mapsRequest || config.mapsSingle) := by
  unfold replaceBody
  cases config.mapsRequest <;> simp [Step.isMap]

theorem maps_resourceContributions (config : ResourceConfiguration) :
    (config.withRoutes .empty).resourceContributions.map
        (fun operation => (operation.kind, maps operation.body)) =
      [(.create, config.mapsRequest || config.mapsSingle), (.read, config.mapsSingle),
        (.updatePartial, config.mapsRequest || config.mapsSingle),
        (.replace, config.mapsRequest || config.mapsSingle), (.delete, false),
        (.list, config.mapsList), (.search, config.mapsList)] := by
  rw [resourceContributions_withoutRoutes]
  simp [operation, maps_replaceBody, createBody, readBody, updateBody, deleteBody, listBody,
    searchBody, requestRecord, Step.isMap]

theorem resourceContributions_map_nothing_iff (config : ResourceConfiguration) :
    (∀ operation ∈ (config.withRoutes .empty).resourceContributions,
        maps operation.body = false) ↔
      (config.mapsSingle || config.mapsList || config.mapsRequest) = false := by
  have htable : (∀ operation ∈ (config.withRoutes .empty).resourceContributions,
      maps operation.body = false) ↔
      ∀ entry ∈ (config.withRoutes .empty).resourceContributions.map
        (fun operation => (operation.kind, maps operation.body)), entry.2 = false := by
    simp
  rw [htable, maps_resourceContributions]
  simp
  tauto

theorem operations_map_nothing_iff (config : ResourceConfiguration) :
    (∀ operation ∈ (config.withRoutes .empty).synthesize.operations,
        operation.relation = none → ∀ step ∈ operation.body, step.isMap = false) ↔
      (config.mapsSingle || config.mapsList || config.mapsRequest) = false := by
  rw [← resourceContributions_map_nothing_iff]
  constructor
  · intro hnone operation hoperation
    exact maps_eq_false_iff.mpr (hnone operation (mem_plannedOperations_iff.mpr (.inl hoperation))
      (relation_of_mem_resourceContributions hoperation))
  · intro hnone operation hoperation hrelation
    rcases mem_plannedOperations_iff.mp hoperation with hresource | ⟨relation, -, hmember⟩
    · exact maps_eq_false_iff.mp (hnone operation hresource)
    · rw [relation_of_mem_relationContributions hmember] at hrelation
      cases hrelation

end ResourceConfiguration

/-! ## Assembled resources -/

/--
The shape of single responses is what the first common key with a value refers to, or the resource
type; those of lists and of requests are what their own key refers to, or this shape.  The resource
uses no transfer objects exactly if all of them are the resource type, and exactly if no operation
on it maps a value.
-/
theorem shapes_follow_marker (declared : DeclaredTypes) (declaration : ResourceDeclaration)
    (settings : Settings) {assembled : AssembledResource}
    (hassembled : assemble declared declaration settings = .ok assembled) :
    let values := declaration.values
    let config := assembled.configuration
    declared.Means values.location ((values.text? "dtoConfig/value").or (values.text? "dto"))
        config.resourceType config.singleShape ∧
      declared.Means values.location (values.text? "dtoConfig/list") config.singleShape
        config.listShape ∧
      declared.Means values.location (values.text? "dtoConfig/request") config.singleShape
        config.requestShape ∧
      (config.usesDto = false ↔ config.singleShape = config.resourceType ∧
        config.listShape = config.resourceType ∧ config.requestShape = config.resourceType) ∧
      (config.usesDto = false ↔ ∀ operation ∈ (config.withRoutes .empty).synthesize.operations,
        operation.relation = none → ∀ step ∈ operation.body, step.isMap = false) ∧
      ((∀ key ∈ ["dtoConfig/value", "dto", "dtoConfig/list", "dtoConfig/request"],
        values.text? key = none) → config.usesDto = false) := by
  intro values config
  obtain ⟨hresolve, hflag⟩ := shapes_of_assemble hassembled
  obtain ⟨hsingle, hlist, hrequest⟩ := DtoShapes.means_of_resolve hresolve
  have hcommon : values.firstOf? DtoShapes.commonKeys =
      (values.text? "dtoConfig/value").or (values.text? "dto") := by
    rw [DtoShapes.commonKeys, MarkerValues.firstOf?_pair]
  have hplain : config.usesDto = false ↔ config.singleShape = config.resourceType ∧
      config.listShape = config.resourceType ∧ config.requestShape = config.resourceType := by
    rw [hflag]
    simp [ResourceConfiguration.mapsSingle, ResourceConfiguration.mapsList,
      ResourceConfiguration.mapsRequest, config, and_assoc]
  rw [hcommon] at hsingle
  refine ⟨hsingle, hlist, hrequest, hplain, ?_, ?_⟩
  · rw [hflag, ResourceConfiguration.operations_map_nothing_iff]
  · intro hunset
    simp only [List.forall_mem_cons, List.not_mem_nil, false_implies, implies_true,
      and_true] at hunset
    obtain ⟨hvalue, hdto, hlistKey, hrequestKey⟩ := hunset
    rw [hvalue, hdto] at hsingle
    rw [hlistKey] at hlist
    rw [hrequestKey] at hrequest
    exact hplain.mpr ⟨hsingle, hlist.trans hsingle, hrequest.trans hsingle⟩

def formsMarker : Marker :=
  ⟨"CrudResource", [("dto", .string "OrderForm"),
    ("dtoConfig", .object [("list", .string "shop.OrderRow"), ("value", .string " ")]),
    ("entity", .string "shop.Order")]⟩

def formsController : TypeDecl :=
  ⟨"shop.OrderController", [formsMarker], [], []⟩

def formsDeclaration : ResourceDeclaration :=
  ⟨formsController, formsMarker.valuesAt "shop.OrderController"⟩

def formsTypes : DeclaredTypes :=
  ⟨[formsController, .bare "shop.Order", .bare "shop.OrderForm"]⟩

theorem formsDeclaration_shapes :
    ∃ assembled, assemble formsTypes formsDeclaration .default = .ok assembled ∧
      assembled.configuration.singleShape = "shop.OrderForm" ∧
      assembled.configuration.listShape = "shop.OrderRow" ∧
      assembled.configuration.requestShape = "shop.OrderForm" ∧
      assembled.configuration.usesDto = true ∧
      ∃ operation ∈ (assembled.configuration.withRoutes .empty).synthesize.operations,
        operation.relation = none ∧ ∃ step ∈ operation.body, step.isMap = true := by
  obtain ⟨assembled, hassembled⟩ : ∃ assembled,
      assemble formsTypes formsDeclaration .default = .ok assembled :=
    exists_eq_ok_of_isOk (by decide +kernel)
  obtain ⟨hsingle, hlist, hrequest, hplain, hmaps, -⟩ :=
    shapes_follow_marker formsTypes formsDeclaration .default hassembled
  have hcommon : (formsDeclaration.values.text? "dtoConfig/value").or
      (formsDeclaration.values.text? "dto") = some "OrderForm" := by decide +kernel
  have hlistKey : formsDeclaration.values.text? "dtoConfig/list" = some "shop.OrderRow" := by
    decide +kernel
  have hrequestKey : formsDeclaration.values.text? "dtoConfig/request" = none := by
    decide +kernel
  have hform : formsTypes.shape formsDeclaration.values.location "OrderForm" =
      .ok "shop.OrderForm" := by decide +kernel
  have hrow : formsTypes.shape formsDeclaration.values.location "shop.OrderRow" =
      .ok "shop.OrderRow" := by decide +kernel
  have hresource : assembled.configuration.resourceType = "shop.Order" := by
    have hcomputed : (assemble formsTypes formsDeclaration .default).toOption.map
        (fun assembled => assembled.configuration.resourceType) = some "shop.Order" := by
      decide +kernel
    rw [hassembled] at hcomputed
    exact Option.some.inj hcomputed
  rw [hcommon] at hsingle
  rw [hlistKey] at hlist
  rw [hrequestKey] at hrequest
  have hsingle := Except.ok.inj (hform.symm.trans hsingle)
  have hlist := Except.ok.inj (hrow.symm.trans hlist)
  have huses : assembled.configuration.usesDto ≠ false := by
    rw [Ne, hplain, ← hsingle, hresource]
    exact fun hsame => absurd hsame.1 (by decide)
  refine ⟨assembled, hassembled, hsingle.symm, hlist.symm, hrequest.trans hsingle.symm,
    eq_true_of_ne_false huses, ?_⟩
  rw [Ne, hmaps] at huses
  push Not at huses
  simpa using huses

end ApiSurface
