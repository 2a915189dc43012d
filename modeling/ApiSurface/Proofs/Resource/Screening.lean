import Mathlib.Data.List.Basic

/-!
# Checks in a row

A computation that stops at its first error is described by a list of checks and by what each of
them finds: it fails exactly if some check finds something, and with what the first such check
finds (`Screens`).  The description of a sequence, or of a traversal, is put together from those
of its parts.
-/

namespace ApiSurface

variable {β γ ε : Type} {finds : β → ε → Prop}

/-! ## The first finding -/

/-- What the first check that finds something finds. -/
inductive FirstFinding (finds : β → ε → Prop) : List β → ε → Prop
  | here {check : β} {checks : List β} {error : ε} (hfinds : finds check error) :
      FirstFinding finds (check :: checks) error
  | later {check : β} {checks : List β} {error : ε} (hnone : ∀ other, ¬ finds check other)
      (hlater : FirstFinding finds checks error) : FirstFinding finds (check :: checks) error

theorem FirstFinding.exists_finds {checks : List β} {error : ε}
    (hfirst : FirstFinding finds checks error) : ∃ check ∈ checks, finds check error := by
  induction hfirst with
  | here hfinds => exact ⟨_, List.mem_cons_self, hfinds⟩
  | later _ _ ih =>
      obtain ⟨check, hcheck, hfinds⟩ := ih
      exact ⟨check, List.mem_cons_of_mem _ hcheck, hfinds⟩

theorem exists_firstFinding_iff {checks : List β} :
    (∃ error, FirstFinding finds checks error) ↔
      ∃ check ∈ checks, ∃ error, finds check error := by
  constructor
  · rintro ⟨error, hfirst⟩
    obtain ⟨check, hcheck, hfinds⟩ := hfirst.exists_finds
    exact ⟨check, hcheck, error, hfinds⟩
  · rintro ⟨check, hcheck, hfinds⟩
    induction checks with
    | nil => cases hcheck
    | cons first checks ih =>
        by_cases hhere : ∃ error, finds first error
        · obtain ⟨error, herror⟩ := hhere
          exact ⟨error, .here herror⟩
        · rcases List.mem_cons.mp hcheck with rfl | hlater
          · exact absurd hfinds hhere
          · obtain ⟨error, herror⟩ := ih hlater
            exact ⟨error, .later (not_exists.mp hhere) herror⟩

theorem not_firstFinding_nil (error : ε) : ¬ FirstFinding finds [] error :=
  nofun

theorem firstFinding_cons_iff {check : β} {checks : List β} {error : ε} :
    FirstFinding finds (check :: checks) error ↔
      finds check error ∨ (∀ other, ¬ finds check other) ∧ FirstFinding finds checks error := by
  constructor
  · rintro (hfinds | ⟨hnone, hlater⟩)
    · exact .inl hfinds
    · exact .inr ⟨hnone, hlater⟩
  · rintro (hfinds | ⟨hnone, hlater⟩)
    · exact .here hfinds
    · exact .later hnone hlater

theorem firstFinding_append_iff {before after : List β} {error : ε} :
    FirstFinding finds (before ++ after) error ↔
      FirstFinding finds before error ∨
        (∀ other, ¬ FirstFinding finds before other) ∧ FirstFinding finds after error := by
  induction before with
  | nil => simp [not_firstFinding_nil]
  | cons check before ih =>
      simp only [List.cons_append, firstFinding_cons_iff, ih]
      grind

theorem firstFinding_singleton_iff {check : β} {error : ε} :
    FirstFinding finds [check] error ↔ finds check error := by
  simp [firstFinding_cons_iff, not_firstFinding_nil]

theorem firstFinding_iff_split {checks : List β} {error : ε} :
    FirstFinding finds checks error ↔
      ∃ before check after, checks = before ++ check :: after ∧
        (∀ earlier ∈ before, ∀ other, ¬ finds earlier other) ∧ finds check error := by
  constructor
  · intro hfirst
    induction hfirst with
    | here hfinds => exact ⟨[], _, _, rfl, by simp, hfinds⟩
    | later hnone _ ih =>
        obtain ⟨before, check, after, rfl, hbefore, hfinds⟩ := ih
        exact ⟨_ :: before, check, after, rfl, List.forall_mem_cons.mpr ⟨hnone, hbefore⟩, hfinds⟩
  · rintro ⟨before, check, after, rfl, hbefore, hfinds⟩
    induction before with
    | nil => exact .here hfinds
    | cons first before ih =>
        obtain ⟨hnone, hbefore⟩ := List.forall_mem_cons.mp hbefore
        exact .later hnone (ih hbefore)

/-! ## Computations that stop at the first finding -/

theorem bind_eq_ok_iff {α δ : Type} {first : Except ε α} {rest : α → Except ε δ} {result : δ} :
    (first >>= rest) = .ok result ↔ ∃ value, first = .ok value ∧ rest value = .ok result := by
  cases first with
  | error found =>
      change Except.error found = .ok result ↔ _
      simp
  | ok value =>
      change rest value = .ok result ↔ _
      simp

theorem bind_ok_eq_error_iff {α δ : Type} {first : Except ε α} {rest : α → δ} {error : ε} :
    (first >>= fun value => .ok (rest value)) = .error error ↔ first = .error error := by
  cases first with
  | error found =>
      change Except.error found = .error error ↔ _
      rw [Except.error.injEq, Except.error.injEq]
  | ok value =>
      change Except.ok (rest value) = .error error ↔ _
      simp

def Screens (finds : β → ε → Prop) (checks : List β) {α : Type} (result : Except ε α) : Prop :=
  ∀ error, result = .error error ↔ FirstFinding finds checks error

namespace Screens

variable {α δ : Type} {checks before after : List β}

theorem ok (value : α) : Screens finds [] (.ok value : Except ε α) :=
  fun error => by simp [not_firstFinding_nil]

theorem single {check : β} {result : Except ε α}
    (hfinds : ∀ error, result = .error error ↔ finds check error) :
    Screens finds [check] result :=
  fun error => (hfinds error).trans firstFinding_singleton_iff.symm

theorem not_firstFinding {result : Except ε α} (hscreens : Screens finds checks result)
    {value : α} (hok : result = .ok value) (error : ε) : ¬ FirstFinding finds checks error := by
  rw [← hscreens error, hok]
  nofun

theorem bind {first : Except ε α} {rest : α → Except ε δ} (hfirst : Screens finds before first)
    (hrest : ∀ value, first = .ok value → Screens finds after (rest value)) :
    Screens finds (before ++ after) (first >>= rest) := by
  intro error
  rw [firstFinding_append_iff]
  cases hresult : first with
  | error found =>
      have hfound : FirstFinding finds before found := (hfirst found).mp hresult
      have hstops : (.error found >>= rest : Except ε δ) = .error found := rfl
      rw [hstops, ← hfirst error, hresult, Except.error.injEq, Except.error.injEq]
      constructor
      · exact .inl
      · rintro (heq | ⟨hnone, -⟩)
        · exact heq
        · exact absurd hfound (hnone found)
  | ok value =>
      have hnone := hfirst.not_firstFinding hresult
      rw [← hrest value hresult error]
      constructor
      · exact fun heq => .inr ⟨hnone, heq⟩
      · rintro (hfound | ⟨-, heq⟩)
        · exact absurd hfound (hnone error)
        · exact heq

theorem andThen {first : Except ε α} {rest : α → δ} (hfirst : Screens finds checks first) :
    Screens finds checks (first >>= fun value => .ok (rest value)) :=
  fun error => bind_ok_eq_error_iff.trans (hfirst error)

theorem mapM {items : List γ} {perform : γ → Except ε α} {checksOf : γ → List β}
    (hperform : ∀ item ∈ items, Screens finds (checksOf item) (perform item)) :
    Screens finds (items.flatMap checksOf) (items.mapM perform) := by
  induction items with
  | nil => exact ok []
  | cons item items ih =>
      rw [List.mapM_cons, List.flatMap_cons]
      refine (hperform item List.mem_cons_self).bind fun value _ => ?_
      exact (ih fun other hother => hperform other (List.mem_cons_of_mem _ hother)).andThen

end Screens

end ApiSurface
