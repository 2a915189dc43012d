import ApiSurface.Command.Basic
import ApiSurface.Proofs.Command.Writing
import ApiSurface.Proofs.Resource.Assembly
import ApiSurface.Proofs.Synthesis.CatalogReport
import Mathlib.Data.List.Forall2

/-!
# What a lint report says

The severity of an issue shows where it comes from: errors are declarations that could not be
configured, warnings were met while relations were resolved, and hints are about resources that
were configured.  So the verdict on a catalog depends on its declarations only, and leaving out
what is no error does not change it (`report_of_catalog`).
-/

namespace ApiSurface

/-! ## Warnings -/

theorem RelationField.severity_of_mem_issues {declared : DeclaredTypes} {source : RelationField}
    {issue : Issue} (hissue : issue ∈ source.issues declared) : issue.severity = .warning := by
  rw [issues, List.mem_append, List.mem_append] at hissue
  rcases hissue with (hcardinality | hidentifier) | hshape
  · unfold cardinalityIssues at hcardinality
    split at hcardinality
    · cases hcardinality
    · obtain rfl := List.mem_singleton.mp hcardinality
      rfl
  · unfold identifierIssues at hidentifier
    split at hidentifier
    · obtain rfl := List.mem_singleton.mp hidentifier
      rfl
    · split at hidentifier
      · cases hidentifier
      · obtain rfl := List.mem_singleton.mp hidentifier
        rfl
  · unfold shapeIssues at hshape
    split at hshape
    · cases hshape
    · obtain rfl := List.mem_singleton.mp hshape
      rfl

section

variable {declared : DeclaredTypes} {declaration : ResourceDeclaration} {settings : Settings}
  {assembled : AssembledResource}

theorem severity_of_assemble
    (hassembled : assemble declared declaration settings = .ok assembled) :
    ∀ issue ∈ assembled.issues, issue.severity = .warning := by
  obtain ⟨entity, -, hissues⟩ := issues_of_assemble hassembled
  intro issue hissue
  rw [hissues] at hissue
  split at hissue
  · obtain ⟨source, -, hsource⟩ := List.mem_flatMap.mp hissue
    exact RelationField.severity_of_mem_issues hsource
  · cases hissue

theorem named?_resourceType_of_assemble
    (hassembled : assemble declared declaration settings = .ok assembled) :
    ∃ entity, declared.named? assembled.configuration.resourceType = some entity := by
  obtain ⟨metadata, _, _, _, hmetadata, -, -, -, rfl⟩ := exists_parts_of_assemble hassembled
  obtain ⟨entity, hof⟩ := exists_entity_of_resolve hmetadata
  obtain ⟨reference, -, hresolve⟩ := hof.namesEntity
  refine ⟨entity, ?_⟩
  change declared.named? metadata.resourceType = some entity
  rw [hof.resourceType, named?_id_of_resolve?_eq_some hresolve]

end

namespace CatalogReport

variable {declared : DeclaredTypes} {settings : Settings}

theorem severity_of_mem_issues {issue : Issue}
    (hissue : issue ∈ (ofTypes declared settings).issues) : issue.severity = .warning := by
  rw [ofTypes, ofDeclarations_eq] at hissue
  obtain ⟨declaration, -, hissue⟩ := List.mem_flatMap.mp hissue
  split at hissue
  · next hassembled => exact severity_of_assemble hassembled issue hissue
  · cases hissue

theorem named?_of_mem_resources {resource : SynthesizedResource}
    (hresource : resource ∈ (ofTypes declared settings).resources) :
    ∃ entity, declared.named? resource.configuration.resourceType = some entity := by
  rw [ofTypes, ofDeclarations_eq] at hresource
  obtain ⟨declaration, -, hresource⟩ := List.mem_filterMap.mp hresource
  split at hresource
  · next hassembled =>
      obtain rfl := Option.some.inj hresource
      exact named?_resourceType_of_assemble hassembled
  · cases hresource

theorem exists_mem_failures_iff :
    (∃ failure, failure ∈ (ofTypes declared settings).failures) ↔
      ∃ declaration ∈ declared.resourceDeclarations, ∃ error,
        assemble declared declaration settings = .error error := by
  simp only [ofTypes, ofDeclarations_eq, List.mem_filterMap]
  constructor
  · rintro ⟨failure, declaration, hdeclaration, hfailure⟩
    refine ⟨declaration, hdeclaration, ?_⟩
    split at hfailure
    · cases hfailure
    · next error hassembled => exact ⟨error, hassembled⟩
  · rintro ⟨declaration, hdeclaration, error, hassembled⟩
    exact ⟨⟨declaration.label, error⟩, declaration, hdeclaration, by rw [hassembled]⟩

end CatalogReport

/-! ## Hints -/

def ResourceConfiguration.calledSlots (config : ResourceConfiguration) :
    List (Relation × AccessorKind) :=
  config.relations.flatMap fun relation =>
    (Accessors.requiredKinds relation.cardinality).map (relation, ·)

/-- The type declares methods, and none of them has this name. -/
def TypeDecl.lacks (type : TypeDecl) (accessor : String) : Bool :=
  !type.methods.isEmpty && decide (∀ method ∈ type.methods, method.name ≠ accessor)

namespace Lint

/-- That a resource has no operation is one hint, and so is each called slot whose accessor the
entity lacks. -/
def hintsOn (entity : TypeDecl) (resource : SynthesizedResource) : List Issue :=
  let config := resource.configuration
  let lacking := config.calledSlots.filter fun (relation, kind) =>
    entity.lacks (relation.accessors.slot kind)
  (if resource.operations.operations = [] then [⟨config.controllerName, .noOperations⟩] else []) ++
    lacking.map fun (relation, kind) =>
      ⟨config.resourceType ++ "#" ++ relation.name,
        .accessorNotDeclared (relation.accessors.slot kind)⟩

theorem severity_of_mem_hintsOn {entity : TypeDecl} {resource : SynthesizedResource}
    {issue : Issue} (hissue : issue ∈ hintsOn entity resource) : issue.severity = .info := by
  rw [hintsOn, List.mem_append] at hissue
  rcases hissue with hsurface | haccessor
  · split at hsurface
    · obtain rfl := List.mem_singleton.mp hsurface
      rfl
    · cases hsurface
  · obtain ⟨slot, -, rfl⟩ := List.mem_map.mp haccessor
    rfl

theorem relationIssues_eq {entity : TypeDecl} (hmethods : entity.methods ≠ [])
    (resourceType : String) (relation : Relation) :
    relationIssues entity.methods resourceType relation =
      ((Accessors.requiredKinds relation.cardinality).filter fun kind =>
        entity.lacks (relation.accessors.slot kind)).map fun kind =>
          ⟨resourceType ++ "#" ++ relation.name,
            .accessorNotDeclared (relation.accessors.slot kind)⟩ := by
  have hlacks (accessor : String) :
      (!entity.methods.any fun method => method.name == accessor) = entity.lacks accessor := by
    rw [Bool.eq_iff_iff]
    simp [TypeDecl.lacks, hmethods]
  simp only [relationIssues, Accessors.requiredFor, List.filter_map, List.map_map, hlacks]
  rfl

theorem resourceIssues_eq {declared : DeclaredTypes} {resource : SynthesizedResource}
    {entity : TypeDecl}
    (hnamed : declared.named? resource.configuration.resourceType = some entity) :
    resourceIssues declared resource = hintsOn entity resource := by
  have hmethods : declared.methods resource.configuration.resourceType = entity.methods := by
    rw [DeclaredTypes.methods, hnamed]
    rfl
  rw [resourceIssues, operationIssues, hintsOn, accessorIssues, hmethods]
  simp only [List.isEmpty_iff]
  congr 1
  by_cases hnone : entity.methods = []
  · simp [TypeDecl.lacks, hnone]
  · rw [if_neg hnone]
    simp only [funext (relationIssues_eq hnone _), ResourceConfiguration.calledSlots,
      List.filter_flatMap, List.map_flatMap, List.filter_map, List.map_map]
    rfl

theorem exists_hintsOn_of_mem_resources {declared : DeclaredTypes} {settings : Settings}
    {resource : SynthesizedResource}
    (hresource : resource ∈ (CatalogReport.ofTypes declared settings).resources) :
    ∃ entity, declared.named? resource.configuration.resourceType = some entity ∧
      resourceIssues declared resource = hintsOn entity resource := by
  obtain ⟨entity, hnamed⟩ := CatalogReport.named?_of_mem_resources hresource
  exact ⟨entity, hnamed, resourceIssues_eq hnamed⟩

theorem severity_of_mem_hints {declared : DeclaredTypes} {settings : Settings} {issue : Issue}
    (hissue : issue ∈
      (CatalogReport.ofTypes declared settings).resources.flatMap (resourceIssues declared)) :
    issue.severity = .info := by
  obtain ⟨resource, hresource, hissue⟩ := List.mem_flatMap.mp hissue
  obtain ⟨entity, -, heq⟩ := exists_hintsOn_of_mem_resources hresource
  exact severity_of_mem_hintsOn (heq ▸ hissue)

/-! ## The verdict -/

theorem failure?_isSome_iff {issues : List Issue} :
    (failure? issues).isSome ↔ ∃ issue ∈ issues, issue.severity = .error := by
  simp [failure?, withSeverity, apply_ite Option.isSome, List.filter_eq_nil_iff]

theorem failure?_withSeverity_error (issues : List Issue) :
    failure? (withSeverity .error issues) = failure? issues := by
  have hagain : withSeverity .error (withSeverity .error issues) = withSeverity .error issues := by
    simp [withSeverity]
  rw [failure?, failure?, hagain]

theorem failure?_report_isSome_iff (declared : DeclaredTypes) (settings : Settings) :
    (failure? (report declared (CatalogReport.ofTypes declared settings))).isSome ↔
      ∃ declaration ∈ declared.resourceDeclarations, ∃ error,
        assemble declared declaration settings = .error error := by
  rw [failure?_isSome_iff, ← CatalogReport.exists_mem_failures_iff, report]
  simp only [List.mem_append, List.mem_map]
  constructor
  · rintro ⟨issue, (⟨failure, hfailure, -⟩ | hwarning) | hhint, herror⟩
    · exact ⟨failure, hfailure⟩
    · simp [CatalogReport.severity_of_mem_issues hwarning] at herror
    · simp [severity_of_mem_hints hhint] at herror
  · rintro ⟨failure, hfailure⟩
    exact ⟨failure.error.issue, .inl (.inl ⟨failure, hfailure, rfl⟩), rfl⟩

end Lint

/-- A run fails if the catalog cannot be loaded, or if it is asked to fail and there are errors.
What is shown has no part in that. -/
theorem lint_outcome (formatter : List String → Option String) (environment : Environment)
    (options : LintOptions) (session : Session) :
    (lint (Session.host formatter) environment options session).1 =
      match (SynthesizedCatalog.load (Session.host formatter) environment options.catalog
        options.config (fun _ => .quiet) session).1 with
      | .error failure => .error failure
      | .ok catalog =>
          match Lint.failure? (Lint.report catalog.declared catalog.report) with
          | some message => if options.failsOnError then .error (.lint message) else .ok ()
          | none => .ok () := by
  rw [lint, Run.bind_apply]
  rcases SynthesizedCatalog.load (Session.host formatter) environment options.catalog
    options.config (fun _ => .quiet) session with ⟨failure | catalog, loaded⟩
  · rfl
  · have hshown : Lint.failure? (if options.errorsOnly then
          Lint.withSeverity .error (Lint.report catalog.declared catalog.report)
        else Lint.report catalog.declared catalog.report) =
        Lint.failure? (Lint.report catalog.declared catalog.report) := by
      split
      · exact Lint.failure?_withSeverity_error _
      · rfl
    dsimp only
    rw [Run.bind_apply, Run.lift_apply, hshown]
    cases options.failsOnError <;>
      cases Lint.failure? (Lint.report catalog.declared catalog.report) <;> rfl

/--
A report lists an error for each declaration that could not be configured, then the issues of those
that could, none of them an error, and then the hints on each resource.  There is something to fail
for exactly if some declaration could not be configured, and showing only errors never changes
that.
-/
theorem report_of_catalog (declared : DeclaredTypes) (settings : Settings) :
    let catalog := CatalogReport.ofTypes declared settings
    let issues := Lint.report declared catalog
    (∃ hints : List (List Issue),
      issues = (catalog.failures.map fun failure => failure.error.issue) ++ catalog.issues ++
          hints.flatten ∧
        (∀ failure ∈ catalog.failures, failure.error.issue.severity = .error ∧
          failure.error.issue.message = failure.error.message) ∧
        (∀ issue ∈ catalog.issues, issue.severity ≠ .error) ∧
        List.Forall₂ (fun resource notes =>
          ∃ entity, declared.named? resource.configuration.resourceType = some entity ∧
            notes = Lint.hintsOn entity resource) catalog.resources hints ∧
        ∀ issue ∈ hints.flatten, issue.severity = .info) ∧
      ((Lint.failure? issues).isSome ↔
        ∃ declaration ∈ declared.resourceDeclarations, ∃ error,
          assemble declared declaration settings = .error error) ∧
      Lint.failure? (Lint.withSeverity .error issues) = Lint.failure? issues ∧
      ∀ formatter environment (options : LintOptions) session,
        (lint (Session.host formatter) environment { options with errorsOnly := true }
            session).1 =
          (lint (Session.host formatter) environment { options with errorsOnly := false }
            session).1 := by
  intro catalog issues
  have hwarnings : ∀ issue ∈ catalog.issues, issue.severity ≠ .error := fun issue hissue => by
    simp [CatalogReport.severity_of_mem_issues hissue]
  refine ⟨⟨catalog.resources.map (Lint.resourceIssues declared), rfl, fun _ _ => ⟨rfl, rfl⟩,
    hwarnings, ?_, fun _ => Lint.severity_of_mem_hints⟩,
    Lint.failure?_report_isSome_iff declared settings, Lint.failure?_withSeverity_error issues,
    fun formatter environment options session => ?_⟩
  · rw [List.forall₂_map_right_iff, List.forall₂_same]
    exact fun resource => Lint.exists_hintsOn_of_mem_resources
  · rw [lint_outcome, lint_outcome]

end ApiSurface
