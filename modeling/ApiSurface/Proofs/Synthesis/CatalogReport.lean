import ApiSurface.Proofs.Synthesis.Lifecycle
import ApiSurface.Synthesis.CatalogReport

/-!
# What a catalog report holds

A report is put together from the contributions of the declarations, side by side and in order
(`ofDeclarations_append`).  The contribution of a declaration is decided by its assembly alone:
a new lifecycle is never out of order, and a configured one always gives a resource.
-/

namespace ApiSurface

namespace CatalogReport

/-! ## Reports side by side -/

instance : Append CatalogReport :=
  ⟨fun left right =>
    ⟨left.resources ++ right.resources, left.failures ++ right.failures,
      left.issues ++ right.issues⟩⟩

@[simp] theorem resources_append (left right : CatalogReport) :
    (left ++ right).resources = left.resources ++ right.resources :=
  rfl

@[simp] theorem failures_append (left right : CatalogReport) :
    (left ++ right).failures = left.failures ++ right.failures :=
  rfl

@[simp] theorem issues_append (left right : CatalogReport) :
    (left ++ right).issues = left.issues ++ right.issues :=
  rfl

attribute [ext] CatalogReport

theorem append_assoc (first second third : CatalogReport) :
    first ++ second ++ third = first ++ (second ++ third) := by
  ext1 <;> simp

theorem empty_append (report : CatalogReport) : empty ++ report = report := by
  ext1 <;> simp [empty]

theorem append_empty (report : CatalogReport) : report ++ empty = report := by
  ext1 <;> simp [empty]

/-! ## One declaration -/

def contribution (declared : DeclaredTypes) (settings : Settings)
    (declaration : ResourceDeclaration) : CatalogReport :=
  match assemble declared declaration settings with
  | .error error => ⟨[], [⟨declaration.label, error⟩], []⟩
  | .ok assembled => ⟨[assembled.synthesized], [], assembled.issues⟩

theorem add_eq_append (declared : DeclaredTypes) (settings : Settings)
    (report : CatalogReport) (declaration : ResourceDeclaration) :
    report.add declared settings declaration =
      report ++ contribution declared settings declaration := by
  unfold add contribution
  cases hassembled : assemble declared declaration settings with
  | error error =>
      rw [Lifecycle.configure_of_error rfl hassembled]
      ext1 <;> simp
  | ok assembled =>
      have hconfigure : Lifecycle.configure declared declaration settings .unresolved =
          .ok assembled.configuration
            ⟨.configured, some assembled.configuration, none, assembled.issues⟩ :=
        Lifecycle.configure_of_ok rfl hassembled
      have hsynthesize : Lifecycle.synthesize
            ⟨.configured, some assembled.configuration, none, assembled.issues⟩ =
          .ok assembled.configuration.synthesize
            ⟨.synthesized, some assembled.configuration,
              some assembled.configuration.synthesize, assembled.issues⟩ :=
        Lifecycle.synthesize_of_some rfl rfl
      simp only [hconfigure, hsynthesize, Lifecycle.resource?]
      ext1 <;> simp [AssembledResource.synthesized]

/-! ## All declarations -/

theorem foldl_add_eq_append (declared : DeclaredTypes) (settings : Settings)
    (report : CatalogReport) (declarations : List ResourceDeclaration) :
    declarations.foldl (add declared settings) report =
      report ++ ofDeclarations declared settings declarations := by
  induction declarations generalizing report with
  | nil => exact (append_empty report).symm
  | cons declaration declarations ih =>
      rw [ofDeclarations, List.foldl_cons, List.foldl_cons, ih, ih, add_eq_append, add_eq_append,
        empty_append, append_assoc]

theorem ofDeclarations_cons (declared : DeclaredTypes) (settings : Settings)
    (declaration : ResourceDeclaration) (declarations : List ResourceDeclaration) :
    ofDeclarations declared settings (declaration :: declarations) =
      contribution declared settings declaration ++
        ofDeclarations declared settings declarations := by
  rw [ofDeclarations, List.foldl_cons, foldl_add_eq_append, add_eq_append, empty_append]

theorem ofDeclarations_append (declared : DeclaredTypes) (settings : Settings)
    (before after : List ResourceDeclaration) :
    ofDeclarations declared settings (before ++ after) =
      ofDeclarations declared settings before ++ ofDeclarations declared settings after := by
  rw [ofDeclarations, List.foldl_append, foldl_add_eq_append, foldl_add_eq_append, empty_append]

theorem ofDeclarations_eq (declared : DeclaredTypes) (settings : Settings)
    (declarations : List ResourceDeclaration) :
    ofDeclarations declared settings declarations =
      ⟨declarations.filterMap fun declaration =>
          match assemble declared declaration settings with
          | .ok assembled => some assembled.synthesized
          | .error _ => none,
        declarations.filterMap fun declaration =>
          match assemble declared declaration settings with
          | .ok _ => none
          | .error error => some ⟨declaration.label, error⟩,
        declarations.flatMap fun declaration =>
          match assemble declared declaration settings with
          | .ok assembled => assembled.issues
          | .error _ => []⟩ := by
  induction declarations with
  | nil => rfl
  | cons declaration declarations ih =>
      rw [ofDeclarations_cons, ih, contribution]
      cases hassembled : assemble declared declaration settings <;>
        ext1 <;> simp [hassembled]

theorem length_ofDeclarations (declared : DeclaredTypes) (settings : Settings)
    (declarations : List ResourceDeclaration) :
    (ofDeclarations declared settings declarations).resources.length +
        (ofDeclarations declared settings declarations).failures.length =
      declarations.length := by
  induction declarations with
  | nil => rfl
  | cons declaration declarations ih =>
      rw [ofDeclarations_cons, contribution]
      cases assemble declared declaration settings <;> simp <;> omega

/--
Every declaration is found at one place of the report, among the resources if it can be assembled
and else among the failures, each list in the order of the declarations; the issues are those of
the declarations that can be assembled.  Whatever stands before and after a declaration
contributes the same with it and without it.
-/
theorem ofTypes_contributions (declared : DeclaredTypes) (settings : Settings) :
    let report := ofTypes declared settings
    let declarations := declared.resourceDeclarations
    (report.resources = declarations.filterMap fun declaration =>
        match assemble declared declaration settings with
        | .ok assembled => some ⟨assembled.configuration, assembled.configuration.synthesize⟩
        | .error _ => none) ∧
      (report.failures = declarations.filterMap fun declaration =>
        match assemble declared declaration settings with
        | .ok _ => none
        | .error error => some ⟨declaration.label, error⟩) ∧
      report.resources.length + report.failures.length = declarations.length ∧
      (report.issues = declarations.flatMap fun declaration =>
        match assemble declared declaration settings with
        | .ok assembled => assembled.issues
        | .error _ => []) ∧
      ∀ before declaration after,
        ofDeclarations declared settings (before ++ declaration :: after) =
          ofDeclarations declared settings before ++
            ofDeclarations declared settings [declaration] ++
            ofDeclarations declared settings after := by
  refine ⟨congrArg resources (ofDeclarations_eq declared settings _),
    congrArg failures (ofDeclarations_eq declared settings _),
    length_ofDeclarations declared settings _,
    congrArg issues (ofDeclarations_eq declared settings _), fun before declaration after => ?_⟩
  have hnone : ofDeclarations declared settings [] = empty := rfl
  rw [ofDeclarations_append, ofDeclarations_cons, ofDeclarations_cons, hnone, append_empty,
    append_assoc]

end CatalogReport

end ApiSurface
