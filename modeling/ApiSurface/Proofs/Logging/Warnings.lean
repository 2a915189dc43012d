import ApiSurface.Logging.ResourceEvents
import ApiSurface.Proofs.Resource.Assembly
import ApiSurface.Proofs.Synthesis.CatalogReport
import Mathlib.Data.List.Flatten
import Mathlib.Data.List.Perm.Basic

/-!
# Warnings of a synthesis

The issues of a resource are reported twice: where its relations are resolved, and again where the
catalog takes them up from its lifecycle.  As long as a resource can be assembled these are its
only warnings, so a run has two warnings for every issue of its report, one from each part of the
program (`warnings_of_assembling`).
-/

namespace ApiSurface

def warnings (events : List Event) : List Event :=
  events.filter fun event => event.level = .warn

theorem warnings_append (before after : List Event) :
    warnings (before ++ after) = warnings before ++ warnings after :=
  List.filter_append ..

theorem warnings_flatMap {α : Type} (values : List α) (events : α → List Event) :
    warnings (values.flatMap events) = values.flatMap fun value => warnings (events value) :=
  List.filter_flatMap ..

theorem warnings_eq_nil {events : List Event} (hlevels : ∀ event ∈ events, event.level ≠ .warn) :
    warnings events = [] :=
  List.filter_eq_nil_iff.mpr fun event hevent => by simpa using hlevels event hevent

theorem warnings_issues (source : EventSource) (issues : List Issue) :
    warnings (issues.map (Issue.event source)) = issues.map (Issue.event source) := by
  simp [warnings, List.filter_map, Issue.event, Function.comp_def]

/-! ## One resource -/

variable {declared : DeclaredTypes} {settings : Settings}

theorem warnings_relationEvents {entity : TypeDecl} {scan : RelationScan}
    (hscan : RelationScan.ofType declared entity settings = .ok scan) :
    warnings (relationEvents declared entity settings) =
      scan.issues.map (Issue.event .relations) := by
  have hdiscovered (relations : List Relation) :
      warnings (relations.map (Relation.event entity)) = [] :=
    warnings_eq_nil (by simp [Relation.event])
  rw [relationEvents, hscan, warnings_append, hdiscovered, List.nil_append, warnings_issues]

theorem warnings_scanEvents {metadata : ResourceMetadata} {scan : RelationScan}
    (hscan : relationsOf declared metadata settings = .ok scan) :
    warnings (scanEvents declared metadata settings) =
      scan.issues.map (Issue.event .relations) := by
  rw [relationsOf] at hscan
  rw [scanEvents]
  by_cases hwith : metadata.withRelations
  · rw [if_pos hwith] at hscan ⊢
    cases hentity : declared.named? metadata.resourceType with
    | none =>
        rw [hentity] at hscan
        cases hscan
        rfl
    | some entity =>
        rw [hentity] at hscan
        exact warnings_relationEvents hscan
  · rw [if_neg hwith] at hscan ⊢
    cases hscan
    rfl

theorem warnings_assemblyEvents {declaration : ResourceDeclaration} {assembled : AssembledResource}
    (hassembled : assemble declared declaration settings = .ok assembled) :
    warnings (assemblyEvents declared declaration settings) =
      assembled.issues.map (Issue.event .relations) := by
  obtain ⟨metadata, routes, scan, security, hmetadata, hroutes, hscan, -, hparts⟩ :=
    exists_parts_of_assemble hassembled
  have hconfigured : warnings [assembled.configuration.event] = [] := rfl
  have hissues : assembled.issues = scan.issues := by rw [hparts]
  simp only [assemblyEvents, hmetadata, hroutes, hassembled]
  rw [warnings_append, warnings_scanEvents hscan, hconfigured, List.append_nil, hissues]

theorem warnings_declarationEvents {declaration : ResourceDeclaration}
    {assembled : AssembledResource}
    (hassembled : assemble declared declaration settings = .ok assembled)
    (verbosity : Verbosity) :
    warnings (declarationEvents declared settings verbosity declaration) =
      assembled.issues.map (Issue.event .relations) ++
        assembled.issues.map (Issue.event .synthesis) := by
  have hoperations : warnings (synthesisEvents verbosity assembled.configuration) = [] := by
    refine warnings_eq_nil ?_
    simp only [synthesisEvents, List.forall_mem_map, Outcome.event]
    intro outcome _
    split <;> simp
  have hresource :
      warnings (if verbosity = .quiet then [] else [assembled.synthesized.event]) = [] := by
    split <;> rfl
  simp only [declarationEvents, hassembled, warnings_append, warnings_assemblyEvents hassembled,
    warnings_issues, hoperations, hresource, List.append_nil]

/-! ## All resources -/

def DeclaredTypes.assembling (declared : DeclaredTypes) (settings : Settings) :
    List ResourceDeclaration :=
  declared.resourceDeclarations.filter fun declaration =>
    (assemble declared declaration settings).isOk

open CatalogReport (contribution)

theorem issues_ofTypes (declared : DeclaredTypes) (settings : Settings) :
    (CatalogReport.ofTypes declared settings).issues =
      (declared.assembling settings).flatMap fun declaration =>
        (contribution declared settings declaration).issues := by
  rw [CatalogReport.ofTypes, DeclaredTypes.assembling]
  induction declared.resourceDeclarations with
  | nil => rfl
  | cons declaration declarations ih =>
      rw [CatalogReport.ofDeclarations_cons, CatalogReport.issues_append, ih]
      cases hassembled : assemble declared declaration settings with
      | ok assembled => simp [hassembled, Except.isOk, Except.toBool]
      | error error => simp [hassembled, Except.isOk, Except.toBool, contribution]

theorem map_issues_ofTypes (declared : DeclaredTypes) (settings : Settings)
    (source : EventSource) :
    (CatalogReport.ofTypes declared settings).issues.map (Issue.event source) =
      (declared.assembling settings).flatMap fun declaration =>
        (contribution declared settings declaration).issues.map (Issue.event source) := by
  rw [issues_ofTypes, List.map_flatMap]

theorem warnings_assembling (declared : DeclaredTypes) (settings : Settings)
    (verbosity : Verbosity) :
    warnings ((declared.assembling settings).flatMap
        (declarationEvents declared settings verbosity)) =
      (declared.assembling settings).flatMap fun declaration =>
        let issues := (contribution declared settings declaration).issues
        issues.map (Issue.event .relations) ++ issues.map (Issue.event .synthesis) := by
  rw [warnings_flatMap]
  refine List.flatMap_congr fun declaration hdeclaration => ?_
  obtain ⟨assembled, hassembled⟩ := exists_eq_ok_of_isOk (List.mem_filter.mp hdeclaration).2
  rw [warnings_declarationEvents hassembled]
  simp [contribution, hassembled]

theorem warnings_assembling_perm (declared : DeclaredTypes) (settings : Settings)
    (verbosity : Verbosity) :
    (warnings ((declared.assembling settings).flatMap
        (declarationEvents declared settings verbosity))).Perm
      ((CatalogReport.ofTypes declared settings).issues.map (Issue.event .relations) ++
        (CatalogReport.ofTypes declared settings).issues.map (Issue.event .synthesis)) := by
  rw [warnings_assembling, map_issues_ofTypes, map_issues_ofTypes]
  exact (List.flatMap_append_perm _ _ _).symm

/-- What an event says, whichever part of the program says it. -/
def Event.content (event : Event) : String × List (String × Json) :=
  (event.message, event.fields)

theorem map_content_issues (source : EventSource) (issues : List Issue) :
    (issues.map (Issue.event source)).map Event.content = issues.map fun issue =>
      (issue.message,
        [("location", .string issue.location), ("kind", .string issue.kind)]) :=
  List.map_map

/--
Among the events of the resources that can be assembled, the warnings of the relations are the
issues of the report, in order, and so are the warnings of the synthesis, and there are no others:
every issue is warned of twice, in the same words.
-/
theorem warnings_of_assembling (declared : DeclaredTypes) (settings : Settings)
    (verbosity : Verbosity) :
    let issues := (CatalogReport.ofTypes declared settings).issues
    let events := (declared.assembling settings).flatMap
      (declarationEvents declared settings verbosity)
    events.Sublist (catalogEvents declared settings verbosity) ∧
      (warnings events).filter (fun event => event.source = .relations) =
        issues.map (Issue.event .relations) ∧
      (warnings events).filter (fun event => event.source = .synthesis) =
        issues.map (Issue.event .synthesis) ∧
      ((warnings events).map Event.content).Perm
        ((issues ++ issues).map fun issue =>
          (issue.message,
            [("location", .string issue.location), ("kind", .string issue.kind)])) := by
  refine ⟨List.filter_sublist.flatMap _, ?_, ?_, ?_⟩
  · rw [warnings_assembling, List.filter_flatMap, map_issues_ofTypes]
    simp [List.filter_map, Issue.event, Function.comp_def]
  · rw [warnings_assembling, List.filter_flatMap, map_issues_ofTypes]
    simp [List.filter_map, Issue.event, Function.comp_def]
  · have htwice := (warnings_assembling_perm declared settings verbosity).map Event.content
    rwa [List.map_append, map_content_issues, map_content_issues, ← List.map_append] at htwice

def taggedTypes : DeclaredTypes :=
  ⟨[⟨"shop.OrderController", [⟨"CrudResource", [("entity", .string "Order")]⟩], [], []⟩,
    ⟨"shop.Order", [],
      [⟨"id", "i64", [⟨"Id", []⟩]⟩, ⟨"tags", "Tag", [⟨"ManyToOne", []⟩]⟩], []⟩]⟩

theorem tagged_warned_twice :
    let issues := (CatalogReport.ofTypes taggedTypes .default).issues
    let events := (taggedTypes.assembling .default).flatMap
      (declarationEvents taggedTypes .default .quiet)
    issues = [⟨"shop.Order#tags", .unresolvedRelatedType "Tag"⟩] ∧
      ¬ ((warnings events).map Event.content).Perm
        (issues.map fun issue =>
          (issue.message,
            [("location", .string issue.location), ("kind", .string issue.kind)])) := by
  refine ⟨by decide +kernel, fun honce => ?_⟩
  have hlength := honce.length_eq
  rw [List.length_map, List.length_map] at hlength
  exact absurd hlength (by decide +kernel)

end ApiSurface
