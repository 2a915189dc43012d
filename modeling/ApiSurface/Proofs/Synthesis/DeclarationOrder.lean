import ApiSurface.Proofs.Resource.Refusal
import ApiSurface.Proofs.Synthesis.CatalogReport
import Mathlib.Data.List.Forall2
import Mathlib.Data.List.Nodup

/-!
# The order of declarations

All that is read from a catalog while a resource is assembled are two lookups: the type of an id,
and the types of a simple name.  If the ids are distinct, another order of the declarations
changes neither the one type nor, up to their order, the many (`SameLookups`).  Every resolver is
followed once through such a change of catalogs.  The candidates of an ambiguous name are all
that shows it.
-/

namespace ApiSurface

/-! ## Alike up to the order of candidates -/

/-- Errors that differ at most in the order of the candidates for an ambiguous name. -/
inductive ConfigurationError.Alike : ConfigurationError → ConfigurationError → Prop
  | same (error : ConfigurationError) : Alike error error
  | reordered (resource name : String) {candidates others : List String}
      (hcandidates : candidates.Perm others) :
      Alike (.ambiguousDto resource name candidates) (.ambiguousDto resource name others)

inductive Issue.Alike : Issue → Issue → Prop
  | same (issue : Issue) : Alike issue issue
  | ambiguous (location : String) {error other : ConfigurationError} (herror : error.Alike other) :
      Alike ⟨location, .ambiguousRelationDto error⟩ ⟨location, .ambiguousRelationDto other⟩

theorem issuesAlike_refl (issues : List Issue) : List.Forall₂ Issue.Alike issues issues :=
  List.forall₂_same.mpr fun issue _ => .same issue

structure RelationScan.Alike (scan other : RelationScan) : Prop where
  relations : scan.relations = other.relations
  issues : List.Forall₂ Issue.Alike scan.issues other.issues

structure AssembledResource.Alike (assembled other : AssembledResource) : Prop where
  configuration : assembled.configuration = other.configuration
  issues : List.Forall₂ Issue.Alike assembled.issues other.issues

inductive Agree {α : Type} (same : α → α → Prop) :
    Except ConfigurationError α → Except ConfigurationError α → Prop
  | error {error other : ConfigurationError} (herror : error.Alike other) :
      Agree same (.error error) (.error other)
  | ok {value other : α} (hvalue : same value other) : Agree same (.ok value) (.ok other)

namespace Agree

variable {α β : Type} {same : α → α → Prop}

theorem refl (hsame : ∀ value, same value value) (result : Except ConfigurationError α) :
    Agree same result result := by
  cases result with
  | error error => exact .error (.same error)
  | ok value => exact .ok (hsame value)

theorem bind {sameRest : β → β → Prop} {first second : Except ConfigurationError α}
    {rest others : α → Except ConfigurationError β} (hfirst : Agree same first second)
    (hrest : ∀ value other, same value other → Agree sameRest (rest value) (others other)) :
    Agree sameRest (first >>= rest) (second >>= others) := by
  cases hfirst with
  | error herror => exact .error herror
  | ok hvalue => exact hrest _ _ hvalue

theorem bindEq {sameRest : β → β → Prop} {first second : Except ConfigurationError α}
    {rest others : α → Except ConfigurationError β} (hfirst : Agree Eq first second)
    (hrest : ∀ value, Agree sameRest (rest value) (others value)) :
    Agree sameRest (first >>= rest) (second >>= others) :=
  hfirst.bind fun value _ hvalue => hvalue ▸ hrest value

end Agree

/-! ## The two lookups -/

/-- Catalogs in which an id means the same type, and a simple name stands for the same types. -/
structure DeclaredTypes.SameLookups (declared other : DeclaredTypes) : Prop where
  named?_eq : ∀ id, declared.named? id = other.named? id
  withSimpleName_perm : ∀ name, (declared.withSimpleName name).Perm (other.withSimpleName name)

theorem named?_eq_some_iff {declared : DeclaredTypes} {id : String} {type : TypeDecl}
    (hdistinct : (declared.types.map TypeDecl.id).Nodup) :
    declared.named? id = some type ↔ type ∈ declared.types ∧ type.id = id := by
  refine ⟨mem_of_named?_eq_some, ?_⟩
  rintro ⟨htype, hid⟩
  obtain ⟨found, hfound⟩ : ∃ found, declared.named? id = some found :=
    Option.isSome_iff_exists.mp (named?_isSome_iff.mpr ⟨type, htype, hid⟩)
  obtain ⟨hmember, hfoundId⟩ := mem_of_named?_eq_some hfound
  have hsame : found = type :=
    List.inj_on_of_nodup_map hdistinct hmember htype (hfoundId.trans hid.symm)
  rw [hfound, hsame]

theorem sameLookups_of_perm {types others : List TypeDecl}
    (hdistinct : (types.map TypeDecl.id).Nodup) (hperm : types.Perm others) :
    DeclaredTypes.SameLookups ⟨types⟩ ⟨others⟩ where
  named?_eq id := by
    have hothers : (others.map TypeDecl.id).Nodup := (hperm.map _).nodup_iff.mp hdistinct
    refine Option.ext fun type => ?_
    rw [named?_eq_some_iff hdistinct, named?_eq_some_iff hothers, hperm.mem_iff]
  withSimpleName_perm name := hperm.filter _

theorem perm_cases {α : Type} {items others : List α} (hperm : items.Perm others) :
    (items = [] ∧ others = []) ∨ (∃ only, items = [only] ∧ others = [only]) ∨
      ∃ first second rest otherFirst otherSecond otherRest,
        items = first :: second :: rest ∧ others = otherFirst :: otherSecond :: otherRest := by
  have hlength := hperm.length_eq
  rcases items with _ | ⟨first, _ | ⟨second, rest⟩⟩
  · exact .inl ⟨rfl, hperm.nil_eq.symm⟩
  · exact .inr (.inl ⟨first, rfl, (List.singleton_perm.mp hperm).symm⟩)
  · rcases others with _ | ⟨otherFirst, _ | ⟨otherSecond, otherRest⟩⟩
    · simp at hlength
    · simp at hlength
    · exact .inr (.inr ⟨_, _, _, _, _, _, rfl, rfl⟩)

namespace DeclaredTypes.SameLookups

variable {declared other : DeclaredTypes} (hlookups : declared.SameLookups other)

include hlookups

/-! ## References -/

theorem fields_eq (id : String) : declared.fields id = other.fields id := by
  rw [fields, fields, hlookups.named?_eq]

theorem methods_eq (id : String) : declared.methods id = other.methods id := by
  rw [methods, methods, hlookups.named?_eq]

theorem resolve?_eq (reference : String) :
    declared.resolve? reference = other.resolve? reference := by
  simp only [resolve?, hlookups.named?_eq]
  obtain ⟨hnone, hnone'⟩ | ⟨only, hone, hone'⟩ | ⟨_, _, _, _, _, _, hmany, hmany'⟩ :=
    perm_cases (hlookups.withSimpleName_perm reference)
  · rw [hnone, hnone']
  · rw [hone, hone']
  · simp only [hmany, hmany']

theorem shape_agree (resource reference : String) :
    Agree Eq (declared.shape resource reference) (other.shape resource reference) := by
  have hperm := hlookups.withSimpleName_perm reference
  simp only [shape, hlookups.named?_eq]
  split
  · exact .ok rfl
  · obtain ⟨hnone, hnone'⟩ | ⟨only, hone, hone'⟩ | ⟨_, _, _, _, _, _, hmany, hmany'⟩ :=
      perm_cases hperm
    · rw [hnone, hnone']
      exact .ok rfl
    · rw [hone, hone']
      exact .ok rfl
    · rw [hmany, hmany'] at hperm ⊢
      exact .error (.reordered resource reference (hperm.map TypeDecl.id))

theorem identifier_eq (type : TypeDecl) :
    Identifier.resolve? declared type = Identifier.resolve? other type := by
  simp only [Identifier.resolve?, Identifier.markedField?, hlookups.fields_eq,
    hlookups.methods_eq]

/-! ## Metadata and routes -/

theorem lookup_agree (values : MarkerValues) (keys : List String) (unset : String) :
    Agree Eq (DtoShapes.lookup declared values keys unset)
      (DtoShapes.lookup other values keys unset) := by
  unfold DtoShapes.lookup
  cases values.firstOf? keys with
  | none => exact .ok rfl
  | some reference => exact hlookups.shape_agree values.location reference

theorem shapes_agree (values : MarkerValues) (resourceType : String) :
    Agree Eq (DtoShapes.resolve declared values resourceType)
      (DtoShapes.resolve other values resourceType) :=
  (hlookups.lookup_agree values _ _).bindEq fun _ =>
    (hlookups.lookup_agree values _ _).bindEq fun _ =>
      (hlookups.lookup_agree values _ _).bindEq fun _ => .ok rfl

theorem entity_eq (declaring : TypeDecl) (values : MarkerValues) :
    ResourceMetadata.entity declared declaring values =
      ResourceMetadata.entity other declaring values := by
  simp only [ResourceMetadata.entity, hlookups.resolve?_eq]

theorem metadata_agree (declaring : TypeDecl) (values : MarkerValues) (settings : Settings) :
    Agree Eq (ResourceMetadata.resolve declared declaring values settings)
      (ResourceMetadata.resolve other declaring values settings) := by
  unfold ResourceMetadata.resolve
  simp only [hlookups.entity_eq, ResourceMetadata.identifierOf, hlookups.identifier_eq]
  refine (Agree.refl (fun _ => rfl) _).bindEq fun entity => ?_
  exact (hlookups.shapes_agree values entity.id).bindEq fun shapes => .refl (fun _ => rfl) _

theorem routes_eq (type : TypeDecl) :
    RouteTable.scrape declared type = RouteTable.scrape other type := by
  rw [RouteTable.scrape, RouteTable.scrape, handRoutes, handRoutes, hlookups.methods_eq]

/-! ## Relations -/

theorem related?_eq (source : RelationField) :
    source.related? declared = source.related? other :=
  hlookups.resolve?_eq source.reference

theorem relatedType_eq (source : RelationField) :
    source.relatedType declared = source.relatedType other := by
  rw [RelationField.relatedType, RelationField.relatedType, hlookups.related?_eq]

theorem relatedIdentifier?_eq (source : RelationField) :
    source.relatedIdentifier? declared = source.relatedIdentifier? other := by
  have hidentifier : Identifier.resolve? declared = Identifier.resolve? other :=
    funext hlookups.identifier_eq
  rw [RelationField.relatedIdentifier?, RelationField.relatedIdentifier?, hlookups.related?_eq,
    hidentifier]

theorem discoverDto_eq (settings : Settings) (type : String) :
    RelationField.discoverDto declared settings type =
      RelationField.discoverDto other settings type := by
  unfold RelationField.discoverDto
  extract_lets name inNamespace
  -- A candidate is taken only if it is alone, and then it is alone in every order.
  obtain ⟨hnone, hnone'⟩ | ⟨only, hone, hone'⟩ | ⟨_, _, _, _, _, _, hmany, hmany'⟩ :=
    perm_cases ((hlookups.withSimpleName_perm name).filter inNamespace)
  · rw [hnone, hnone']
  · rw [hone, hone']
  · rw [hmany, hmany']

theorem statedShape_agree (source : RelationField) :
    Agree Eq (source.statedShape declared) (source.statedShape other) := by
  unfold RelationField.statedShape
  cases source.explicitText? "dto" with
  | none => exact .ok rfl
  | some reference =>
      exact (hlookups.shape_agree source.owner.id reference).bindEq fun _ => .ok rfl

theorem responseShape_eq (settings : Settings) (source : RelationField) :
    source.responseShape declared settings = source.responseShape other settings := by
  have hagree := hlookups.statedShape_agree source
  simp only [RelationField.responseShape, hlookups.discoverDto_eq, hlookups.relatedType_eq]
  generalize source.statedShape declared = shape at hagree ⊢
  generalize source.statedShape other = otherShape at hagree ⊢
  cases hagree with
  | error herror => rfl
  | ok hshape => rw [hshape]

theorem accessor_eq (source : RelationField) (kind : AccessorKind) :
    source.accessor declared kind = source.accessor other kind := by
  simp only [RelationField.accessor, RelationField.markedAccessor?, RelationField.accessorTypes,
    hlookups.related?_eq, hlookups.methods_eq]

theorem relation_eq (settings : Settings) (source : RelationField) :
    source.relation declared settings = source.relation other settings := by
  have haccessor : source.accessor declared = source.accessor other :=
    funext (hlookups.accessor_eq source)
  simp only [RelationField.relation, hlookups.relatedIdentifier?_eq, hlookups.relatedType_eq,
    hlookups.responseShape_eq, haccessor]

theorem shapeIssues_alike (source : RelationField) :
    List.Forall₂ Issue.Alike (source.shapeIssues declared) (source.shapeIssues other) := by
  have hagree := hlookups.statedShape_agree source
  unfold RelationField.shapeIssues
  generalize source.statedShape declared = shape at hagree ⊢
  generalize source.statedShape other = otherShape at hagree ⊢
  cases hagree with
  | error herror => exact .cons (.ambiguous source.location herror) .nil
  | ok _ => exact .nil

theorem issues_alike (source : RelationField) :
    List.Forall₂ Issue.Alike (source.issues declared) (source.issues other) := by
  have hidentifier : source.identifierIssues declared = source.identifierIssues other := by
    simp only [RelationField.identifierIssues, hlookups.related?_eq, hlookups.relatedType_eq,
      hlookups.relatedIdentifier?_eq]
  rw [RelationField.issues, RelationField.issues, hidentifier]
  exact List.rel_append (issuesAlike_refl _) (hlookups.shapeIssues_alike source)

theorem scan_alike (settings : Settings) (fields : List RelationField) :
    (RelationScan.ofFields declared settings fields).Alike
      (.ofFields other settings fields) where
  relations := List.map_congr_left fun source _ => hlookups.relation_eq settings source
  issues := by
    have hfields : List.Forall₂ Eq fields fields := List.forall₂_same.mpr fun _ _ => rfl
    exact List.rel_flatMap hfields fun source _ hsource => hsource ▸ hlookups.issues_alike source

theorem relations_agree (metadata : ResourceMetadata) (settings : Settings) :
    Agree RelationScan.Alike (relationsOf declared metadata settings)
      (relationsOf other metadata settings) := by
  have hempty : RelationScan.empty.Alike .empty := ⟨rfl, .nil⟩
  unfold relationsOf
  rw [hlookups.named?_eq]
  split
  · split
    · next entity _ =>
        unfold RelationScan.ofType
        rw [DeclaredTypes.relationFields, DeclaredTypes.relationFields, hlookups.fields_eq]
        extract_lets fields
        split
        · exact .error (.same _)
        · exact .ok (hlookups.scan_alike settings _)
    · exact .ok hempty
  · exact .ok hempty

/-! ## Assembly and reports -/

theorem assemble_agree (declaration : ResourceDeclaration) (settings : Settings) :
    Agree AssembledResource.Alike (assemble declared declaration settings)
      (assemble other declaration settings) := by
  unfold assemble
  extract_lets declaring
  rw [hlookups.routes_eq]
  refine (hlookups.metadata_agree _ _ settings).bindEq fun metadata => ?_
  refine (Agree.refl (fun _ => rfl) _).bindEq fun routes => ?_
  refine (hlookups.relations_agree metadata settings).bind fun scan otherScan hscan => ?_
  refine (Agree.refl (fun _ => rfl) _).bindEq fun security => .ok ?_
  exact ⟨by rw [hscan.relations], hscan.issues⟩

end DeclaredTypes.SameLookups

/-! ## Reports -/

structure ResourceFailure.Alike (failure other : ResourceFailure) : Prop where
  label : failure.label = other.label
  error : failure.error.Alike other.error

namespace CatalogReport

structure Alike (report other : CatalogReport) : Prop where
  resources : report.resources = other.resources
  failures : List.Forall₂ ResourceFailure.Alike report.failures other.failures
  issues : List.Forall₂ Issue.Alike report.issues other.issues

theorem Alike.append {left right otherLeft otherRight : CatalogReport}
    (hleft : left.Alike otherLeft) (hright : right.Alike otherRight) :
    (left ++ right).Alike (otherLeft ++ otherRight) where
  resources := congrArg₂ (· ++ ·) hleft.resources hright.resources
  failures := List.rel_append hleft.failures hright.failures
  issues := List.rel_append hleft.issues hright.issues

section

variable {declared other : DeclaredTypes} (hlookups : declared.SameLookups other)

include hlookups

theorem contribution_alike (settings : Settings) (declaration : ResourceDeclaration) :
    (contribution declared settings declaration).Alike
      (contribution other settings declaration) := by
  have hagree := hlookups.assemble_agree declaration settings
  unfold contribution
  generalize assemble declared declaration settings = assembled at hagree ⊢
  generalize assemble other declaration settings = otherAssembled at hagree ⊢
  cases hagree with
  | error herror => exact ⟨rfl, .cons ⟨rfl, herror⟩ .nil, .nil⟩
  | ok hsame =>
      refine ⟨?_, .nil, hsame.issues⟩
      simp only [AssembledResource.synthesized, hsame.configuration]

theorem ofDeclarations_alike (settings : Settings) (declarations : List ResourceDeclaration) :
    (ofDeclarations declared settings declarations).Alike
      (ofDeclarations other settings declarations) := by
  induction declarations with
  | nil => exact ⟨rfl, .nil, .nil⟩
  | cons declaration declarations ih =>
      rw [ofDeclarations_cons, ofDeclarations_cons]
      exact (contribution_alike hlookups settings declaration).append ih

end

/-- The entries of a report in another order, alike one by one. -/
def Reordered {α : Type} (alike : α → α → Prop) (entries others : List α) : Prop :=
  ∃ reordered, entries.Perm reordered ∧ List.Forall₂ alike reordered others

theorem ofDeclarations_perm (declared : DeclaredTypes) (settings : Settings)
    {declarations others : List ResourceDeclaration} (hperm : declarations.Perm others) :
    let report := ofDeclarations declared settings declarations
    let other := ofDeclarations declared settings others
    report.resources.Perm other.resources ∧ report.failures.Perm other.failures ∧
      report.issues.Perm other.issues := by
  simp only [ofDeclarations_eq]
  exact ⟨hperm.filterMap _, hperm.filterMap _, hperm.flatMap_right _⟩

end CatalogReport

/--
Whoever reorders declarations with distinct ids changes neither which declaration can be
assembled nor the configuration that comes of it; what an error says is the same up to the order
of its candidates.  The report on all declarations has the same entries in another order.
-/
theorem assemble_agrees_of_perm {types others : List TypeDecl}
    (hdistinct : (types.map TypeDecl.id).Nodup) (hperm : types.Perm others)
    (settings : Settings) :
    (∀ declaration, Agree AssembledResource.Alike (assemble ⟨types⟩ declaration settings)
        (assemble ⟨others⟩ declaration settings)) ∧
      let report := CatalogReport.ofTypes ⟨types⟩ settings
      let other := CatalogReport.ofTypes ⟨others⟩ settings
      report.resources.Perm other.resources ∧
        CatalogReport.Reordered ResourceFailure.Alike report.failures other.failures ∧
        CatalogReport.Reordered Issue.Alike report.issues other.issues := by
  have hlookups := sameLookups_of_perm hdistinct hperm
  refine ⟨fun declaration => hlookups.assemble_agree declaration settings, ?_⟩
  have hdeclarations : (DeclaredTypes.resourceDeclarations ⟨types⟩).Perm
      (DeclaredTypes.resourceDeclarations ⟨others⟩) := hperm.flatMap_right _
  obtain ⟨hresources, hfailures, hissues⟩ :=
    CatalogReport.ofDeclarations_perm ⟨types⟩ settings hdeclarations
  have halike := CatalogReport.ofDeclarations_alike hlookups settings
    (DeclaredTypes.resourceDeclarations ⟨others⟩)
  exact ⟨halike.resources ▸ hresources, ⟨_, hfailures, halike.failures⟩,
    ⟨_, hissues, halike.issues⟩⟩

def formTypes : List TypeDecl :=
  [.bare "web.Form", .bare "print.Form",
    ⟨"shop.Order", [⟨"CrudResource", [("entity", .string "Order"), ("dto", .string "Form")]⟩],
      [], []⟩,
    ⟨"shop.Item", [⟨"CrudResource", [("entity", .string "Item")]⟩],
      [⟨"order", "Order", [⟨"Relation", [("dto", .string "Form")]⟩]⟩], []⟩]

/-- The order of the candidates does change when the declarations are reversed. -/
theorem formTypes_reversed :
    (formTypes.map TypeDecl.id).Nodup ∧ formTypes.Perm formTypes.reverse ∧
      (∀ declaration, Agree AssembledResource.Alike (assemble ⟨formTypes⟩ declaration .default)
        (assemble ⟨formTypes.reverse⟩ declaration .default)) ∧
      let report := CatalogReport.ofTypes ⟨formTypes⟩ .default
      let other := CatalogReport.ofTypes ⟨formTypes.reverse⟩ .default
      report.failures = [⟨"shop.Order (Order)",
          .ambiguousDto "shop.Order" "Form" ["web.Form", "print.Form"]⟩] ∧
        other.failures = [⟨"shop.Order (Order)",
          .ambiguousDto "shop.Order" "Form" ["print.Form", "web.Form"]⟩] ∧
        report.resources.length = 1 ∧ report.resources.Perm other.resources ∧
        CatalogReport.Reordered ResourceFailure.Alike report.failures other.failures ∧
        CatalogReport.Reordered Issue.Alike report.issues other.issues := by
  have hdistinct : (formTypes.map TypeDecl.id).Nodup := by decide
  have hperm : formTypes.Perm formTypes.reverse := (List.reverse_perm formTypes).symm
  obtain ⟨hassemble, hreport⟩ := assemble_agrees_of_perm hdistinct hperm .default
  exact ⟨hdistinct, hperm, hassemble, by decide +kernel, by decide +kernel, by decide +kernel,
    hreport⟩

end ApiSurface
