import ApiSurface.Proofs.Resource.Refusal

/-!
# What a reference means

A reference means a declared type, is the simple name of several declarations, or stands for a
type outside the catalog.  The look-up of a type and the look-up of a shape draw the same lines
between the three (`shape_agrees_with_resolve?`), although they test ids, namespaces and simple
names in different orders.
-/

namespace ApiSurface

open Naming

namespace DeclaredTypes

/-- A reference without a namespace that is no id but the simple name of several declarations. -/
def IsAmbiguous (declared : DeclaredTypes) (reference : String) : Prop :=
  isQualified reference = false ∧ (∀ type ∈ declared.types, type.id ≠ reference) ∧
    2 ≤ (declared.withSimpleName reference).length

instance (declared : DeclaredTypes) (reference : String) :
    Decidable (declared.IsAmbiguous reference) :=
  inferInstanceAs (Decidable (_ ∧ _ ∧ _))

variable {declared : DeclaredTypes} {resource reference : String}

theorem findsAmbiguity_iff {problem : ConfigurationError} :
    FindsAmbiguity declared resource reference problem ↔
      declared.IsAmbiguous reference ∧ problem =
        .ambiguousDto resource reference ((declared.withSimpleName reference).map TypeDecl.id) := by
  simp only [FindsAmbiguity, IsAmbiguous, and_assoc]

/-! ## Declared types -/

theorem shape_of_named? {type : TypeDecl} (hnamed : declared.named? reference = some type) :
    declared.shape resource reference = .ok reference := by
  rw [shape, hnamed, Option.isSome_some, Bool.or_true, if_pos rfl]

theorem shape_of_resolve? {type : TypeDecl} (hresolve : declared.resolve? reference = some type) :
    declared.shape resource reference = .ok type.id := by
  cases hnamed : declared.named? reference with
  | some found =>
      rw [resolve?, hnamed, Option.some.injEq] at hresolve
      rw [shape_of_named? hnamed, ← hresolve, (mem_of_named?_eq_some hnamed).2]
  | none =>
      simp only [resolve?, hnamed] at hresolve
      split at hresolve
      · cases hresolve
      · next hplain =>
          split at hresolve
          · next only honly =>
              cases hresolve
              simp [shape, hnamed, hplain, honly]
          · cases hresolve

/-! ## Other references -/

theorem shape_of_isAmbiguous (hambiguous : declared.IsAmbiguous reference) (resource : String) :
    declared.shape resource reference = .error
      (.ambiguousDto resource reference ((declared.withSimpleName reference).map TypeDecl.id)) :=
  shape_eq_error_iff.mpr (findsAmbiguity_iff.mpr ⟨hambiguous, rfl⟩)

theorem resolve?_of_isAmbiguous (hambiguous : declared.IsAmbiguous reference) :
    declared.resolve? reference = none := by
  cases hresolve : declared.resolve? reference with
  | none => rfl
  | some type =>
      -- the shape cannot be refused and be the id of the type
      have herror := shape_of_isAmbiguous hambiguous type.id
      rw [shape_of_resolve? hresolve] at herror
      cases herror

theorem shape_of_external (hresolve : declared.resolve? reference = none)
    (hunique : ¬ declared.IsAmbiguous reference) :
    declared.shape resource reference = .ok reference := by
  cases hnamed : declared.named? reference with
  | some type =>
      rw [resolve?, hnamed] at hresolve
      cases hresolve
  | none =>
      have hfresh : ∀ type ∈ declared.types, type.id ≠ reference := by
        simpa using List.find?_eq_none.mp hnamed
      simp only [resolve?, hnamed] at hresolve
      by_cases hqualified : isQualified reference = true
      · rw [shape, hqualified, Bool.true_or, if_pos rfl]
      · rw [if_neg hqualified] at hresolve
        rcases hcandidates : declared.withSimpleName reference with _ | ⟨first, _ | ⟨second, rest⟩⟩
        · simp [shape, hnamed, hqualified, hcandidates]
        · simp [hcandidates] at hresolve
        · have hmany : 2 ≤ (declared.withSimpleName reference).length := by simp [hcandidates]
          exact absurd ⟨Bool.eq_false_iff.mpr hqualified, hfresh, hmany⟩ hunique

theorem shape_of_shape {id : String} (hshape : declared.shape resource reference = .ok id)
    (other : String) : declared.shape other id = .ok id := by
  cases hresolve : declared.resolve? reference with
  | some type =>
      rw [shape_of_resolve? hresolve] at hshape
      cases hshape
      exact shape_of_named? (named?_id_of_resolve?_eq_some hresolve)
  | none =>
      have hunique : ¬ declared.IsAmbiguous reference := by
        intro hambiguous
        rw [shape_of_isAmbiguous hambiguous] at hshape
        cases hshape
      rw [shape_of_external hresolve hunique] at hshape
      cases hshape
      exact shape_of_external hresolve hunique

end DeclaredTypes

/-! ## Both look-ups -/

/--
Where a reference finds a type, its shape is the id of this type.  It is refused exactly if it is
ambiguous, with the ids of all declarations of this simple name in their order, and then it finds
no type.  Every other reference stands for itself.  A shape stands for itself, too.
-/
theorem shape_agrees_with_resolve? (declared : DeclaredTypes) (resource reference : String) :
    (∀ type, declared.resolve? reference = some type →
        declared.shape resource reference = .ok type.id) ∧
      (∀ problem, declared.shape resource reference = .error problem ↔
        declared.IsAmbiguous reference ∧ problem = .ambiguousDto resource reference
          ((declared.withSimpleName reference).map TypeDecl.id)) ∧
      (declared.IsAmbiguous reference → declared.resolve? reference = none) ∧
      (declared.resolve? reference = none → ¬ declared.IsAmbiguous reference →
        declared.shape resource reference = .ok reference) ∧
      ∀ id, declared.shape resource reference = .ok id →
        ∀ other, declared.shape other id = .ok id := by
  refine ⟨fun type => DeclaredTypes.shape_of_resolve?, fun problem => ?_,
    DeclaredTypes.resolve?_of_isAmbiguous, DeclaredTypes.shape_of_external,
    fun id => DeclaredTypes.shape_of_shape⟩
  rw [shape_eq_error_iff, DeclaredTypes.findsAmbiguity_iff]

def orderTypes : DeclaredTypes :=
  ⟨[.bare "shop.Order", .bare "shop.OrderDto", .bare "legacy::OrderDto",
    .bare "List<shop.Order>"]⟩

theorem orderTypes_shapes :
    ((orderTypes.resolve? "Order").map TypeDecl.id = some "shop.Order" ∧
        orderTypes.shape "shop.OrderController" "Order" = .ok "shop.Order" ∧
        orderTypes.shape "shop.InvoiceController" "shop.Order" = .ok "shop.Order") ∧
      (orderTypes.IsAmbiguous "OrderDto" ∧ orderTypes.resolve? "OrderDto" = none ∧
        orderTypes.shape "shop.OrderController" "OrderDto" =
          .error (.ambiguousDto "shop.OrderController" "OrderDto"
            ["shop.OrderDto", "legacy::OrderDto"])) ∧
      orderTypes.resolve? "Invoice" = none ∧ ¬ orderTypes.IsAmbiguous "Invoice" ∧
        orderTypes.shape "shop.OrderController" "Invoice" = .ok "Invoice" := by
  obtain ⟨hfound, -, -, -, hagain⟩ :=
    shape_agrees_with_resolve? orderTypes "shop.OrderController" "Order"
  obtain ⟨-, hrefused, hnone, -, -⟩ :=
    shape_agrees_with_resolve? orderTypes "shop.OrderController" "OrderDto"
  obtain ⟨-, -, -, hexternal, -⟩ :=
    shape_agrees_with_resolve? orderTypes "shop.OrderController" "Invoice"
  have hresolve : (orderTypes.resolve? "Order").map TypeDecl.id = some "shop.Order" := by
    decide +kernel
  have hambiguous : orderTypes.IsAmbiguous "OrderDto" := by decide +kernel
  have hids : (orderTypes.withSimpleName "OrderDto").map TypeDecl.id =
      ["shop.OrderDto", "legacy::OrderDto"] := by decide +kernel
  have hmissing : orderTypes.resolve? "Invoice" = none := by
    have hnone : (orderTypes.resolve? "Invoice").isNone := by decide +kernel
    exact Option.isNone_iff_eq_none.mp hnone
  have hother : ¬ orderTypes.IsAmbiguous "Invoice" := by decide +kernel
  have hshape : orderTypes.shape "shop.OrderController" "Order" = .ok "shop.Order" := by
    obtain ⟨type, htype, hid⟩ := Option.map_eq_some_iff.mp hresolve
    rw [hfound type htype, hid]
  refine ⟨⟨hresolve, hshape, hagain _ hshape _⟩, ⟨hambiguous, hnone hambiguous, ?_⟩, hmissing,
    hother, hexternal hmissing hother⟩
  rw [hrefused, hids]
  exact ⟨hambiguous, rfl⟩

end ApiSurface
