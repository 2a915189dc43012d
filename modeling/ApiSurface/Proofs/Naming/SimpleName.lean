import ApiSurface.Naming.TypeId
import Mathlib.Data.List.Infix

/-!
# Simple names

A type id is split where its last separator begins, whichever of the two it is and whatever other
separators it overlaps (`splitLast?_eq_some_iff`).  An id without type arguments therefore ends in
its simple name: it is this name itself, or the name stands behind a namespace and a separator.  A
name without separators is the simple name of every id that ends so (`simpleNameChars_eq_iff`).
-/

namespace ApiSurface.Naming

/-- The id is the simple name itself, or the name behind a namespace and a separator. -/
def EndsInName (simple id : List Char) : Prop :=
  id = simple ∨ ∃ (space : List Char) (separator : Separator),
    id = space ++ separator.chars ++ simple

/-! ## Separators in a text -/

theorem leadingSeparator?_eq_some_iff {cs simple : List Char} {separator : Separator} :
    leadingSeparator? cs = some (separator, simple) ↔ cs = separator.chars ++ simple := by
  constructor
  · intro hlead
    unfold leadingSeparator? at hlead
    split at hlead <;> cases hlead <;> rfl
  · rintro rfl
    cases separator <;> rfl

def HasSeparator (cs : List Char) : Prop :=
  ∃ separator : Separator, separator.chars <:+: cs

theorem HasSeparator.mono {cs ds : List Char} (hpiece : cs <:+: ds) (hcs : HasSeparator cs) :
    HasSeparator ds := by
  obtain ⟨separator, hseparator⟩ := hcs
  exact ⟨separator, hseparator.trans hpiece⟩

theorem not_hasSeparator_nil : ¬ HasSeparator [] := by
  rintro ⟨_ | _, hseparator⟩ <;> simp [Separator.chars] at hseparator

theorem leadingSeparator?_eq_none_iff {cs : List Char} :
    leadingSeparator? cs = none ↔ ∀ separator : Separator, ¬ separator.chars <+: cs := by
  constructor
  · rintro hnone separator ⟨simple, rfl⟩
    rw [leadingSeparator?_eq_some_iff.mpr rfl] at hnone
    cases hnone
  · intro hnone
    cases hlead : leadingSeparator? cs with
    | none => rfl
    | some found =>
        have heq := leadingSeparator?_eq_some_iff.mp hlead
        exact absurd ⟨found.2, heq.symm⟩ (hnone found.1)

theorem hasSeparator_cons_iff {c : Char} {rest : List Char} :
    HasSeparator (c :: rest) ↔ leadingSeparator? (c :: rest) ≠ none ∨ HasSeparator rest := by
  simp [HasSeparator, List.infix_cons_iff, exists_or, leadingSeparator?_eq_none_iff]

/-! ## The last separator -/

theorem splitLast?_eq_none_iff {cs : List Char} : splitLast? cs = none ↔ ¬ HasSeparator cs := by
  induction cs with
  | nil => exact iff_of_true rfl not_hasSeparator_nil
  | cons c rest ih =>
      rw [splitLast?, hasSeparator_cons_iff, not_or, ← ih]
      cases splitLast? rest with
      | some later => simp
      | none => cases leadingSeparator? (c :: rest) <;> simp

theorem isLast_of_splitLast? {cs : List Char} {split : SplitId}
    (hsplit : splitLast? cs = some split) :
    cs = split.namespaceChars ++ split.separator.chars ++ split.simple ∧
      ¬ HasSeparator (split.separator.chars ++ split.simple).tail := by
  induction cs generalizing split with
  | nil => cases hsplit
  | cons c rest ih =>
      rw [splitLast?] at hsplit
      cases hrest : splitLast? rest with
      | some later =>
          simp only [hrest, Option.some.injEq] at hsplit
          subst hsplit
          obtain ⟨happend, hlast⟩ := ih hrest
          exact ⟨congrArg (c :: ·) happend, hlast⟩
      | none =>
          simp only [hrest] at hsplit
          split at hsplit
          · next separator simple hlead =>
              cases hsplit
              have happend := leadingSeparator?_eq_some_iff.mp hlead
              refine ⟨happend, ?_⟩
              rw [← happend]
              exact splitLast?_eq_none_iff.mp hrest
          · cases hsplit

theorem splitLast?_append_of_last {separator : Separator} {simple : List Char}
    (hlast : ¬ HasSeparator (separator.chars ++ simple).tail) (space : List Char) :
    splitLast? (space ++ separator.chars ++ simple) = some ⟨space, separator, simple⟩ := by
  induction space with
  | nil =>
      have hnone := splitLast?_eq_none_iff.mpr hlast
      cases separator with
      | dot =>
          change splitLast? simple = none at hnone
          change splitLast? ('.' :: simple) = _
          rw [splitLast?, hnone]
          rfl
      | colons =>
          change splitLast? (':' :: simple) = none at hnone
          change splitLast? (':' :: ':' :: simple) = _
          rw [splitLast?, hnone]
          rfl
  | cons c space ih => rw [List.cons_append, List.cons_append, splitLast?, ih]

theorem splitLast?_eq_some_iff {cs : List Char} {split : SplitId} :
    splitLast? cs = some split ↔
      cs = split.namespaceChars ++ split.separator.chars ++ split.simple ∧
        ¬ HasSeparator (split.separator.chars ++ split.simple).tail := by
  refine ⟨isLast_of_splitLast?, ?_⟩
  rintro ⟨rfl, hlast⟩
  exact splitLast?_append_of_last hlast split.namespaceChars

theorem append_of_splitLast? {cs : List Char} {split : SplitId}
    (hsplit : splitLast? cs = some split) :
    cs = split.namespaceChars ++ split.separator.chars ++ split.simple :=
  (splitLast?_eq_some_iff.mp hsplit).1

theorem not_hasSeparator_simple {cs : List Char} {split : SplitId}
    (hsplit : splitLast? cs = some split) : ¬ HasSeparator split.simple := by
  have hlast := (splitLast?_eq_some_iff.mp hsplit).2
  have hsuffix : split.simple <:+ (split.separator.chars ++ split.simple).tail := by
    cases split.separator with
    | dot => exact List.suffix_refl _
    | colons => exact List.suffix_cons _ _
  exact fun hsimple => hlast (hsimple.mono hsuffix.isInfix)

theorem not_hasSeparator_of_notMem {simple : List Char} (hdot : '.' ∉ simple)
    (hcolon : ':' ∉ simple) : ¬ HasSeparator simple := by
  rintro ⟨_ | _, hseparator⟩
  · exact hdot (hseparator.subset (by simp [Separator.chars]))
  · exact hcolon (hseparator.subset (by simp [Separator.chars]))

theorem not_hasSeparator_tail {simple : List Char} (hdot : '.' ∉ simple) (hcolon : ':' ∉ simple)
    (separator : Separator) : ¬ HasSeparator (separator.chars ++ simple).tail := by
  cases separator with
  | dot => exact not_hasSeparator_of_notMem hdot hcolon
  | colons =>
      -- the second colon alone is no separator
      change ¬ HasSeparator (':' :: simple)
      rintro ⟨_ | _, hseparator⟩
      · exact hdot (by simpa using hseparator.subset (List.mem_singleton_self '.'))
      · have htwo := hseparator.sublist.count_le ':'
        have hone : (':' :: simple).count ':' = 1 := by simp [List.count_eq_zero.mpr hcolon]
        rw [hone] at htwo
        exact absurd htwo (by decide)

/-! ## Simple names -/

theorem endsInName_simpleNameChars (id : List Char) : EndsInName (simpleNameChars id) id := by
  unfold simpleNameChars splitId?
  split
  · next split hsplit =>
      split at hsplit
      · cases hsplit
      · exact .inr ⟨_, _, append_of_splitLast? hsplit⟩
  · exact .inl rfl

theorem simpleNameChars_eq_iff {simple id : List Char} (hdot : '.' ∉ simple)
    (hcolon : ':' ∉ simple) (harguments : '<' ∉ id) :
    simpleNameChars id = simple ↔ EndsInName simple id := by
  constructor
  · rintro rfl
    exact endsInName_simpleNameChars id
  · rintro (rfl | ⟨space, separator, rfl⟩)
    · have hnone := splitLast?_eq_none_iff.mpr (not_hasSeparator_of_notMem hdot hcolon)
      rw [simpleNameChars, splitId?, hnone, ite_self]
    · rw [simpleNameChars, splitId?, if_neg (by simpa using harguments),
        splitLast?_append_of_last (not_hasSeparator_tail hdot hcolon separator)]

end ApiSurface.Naming
