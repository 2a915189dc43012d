import ApiSurface.Text.Blank
import ApiSurface.Text.Word
import Mathlib.Data.List.DropRight

/-!
# Trimmed text

Trimming a second time cuts nothing, and white space around a text does not change what is left
of it (`trimChars_between`).  White space is no part of a word.
-/

namespace ApiSurface.Text

theorem trimChars_eq_rdropWhile (cs : List Char) :
    trimChars cs = (cs.dropWhile isBlank).rdropWhile isBlank :=
  rfl

theorem dropWhile_rdropWhile_dropWhile (cut : Char → Bool) (cs : List Char) :
    ((cs.dropWhile cut).rdropWhile cut).dropWhile cut = (cs.dropWhile cut).rdropWhile cut := by
  rw [List.dropWhile_eq_self_iff]
  intro hpos
  -- What is left of the text begins as it did before its end was cut.
  have hkept := List.rdropWhile_prefix cut (cs.dropWhile cut)
  rw [hkept.getElem hpos]
  exact List.dropWhile_get_zero_not cut cs _

theorem dropWhile_trimChars (cs : List Char) :
    (trimChars cs).dropWhile isBlank = trimChars cs :=
  dropWhile_rdropWhile_dropWhile isBlank cs

theorem trimChars_trimChars (cs : List Char) : trimChars (trimChars cs) = trimChars cs := by
  rw [trimChars_eq_rdropWhile (trimChars cs), dropWhile_trimChars, trimChars_eq_rdropWhile,
    List.rdropWhile_idempotent]

theorem trim_trim (text : String) : trim (trim text) = trim text := by
  simp [trim, trimChars_trimChars]

theorem head?_trimChars {first : Char} (hfirst : isBlank first = false) (rest : List Char) :
    (trimChars (first :: rest)).head? = some first := by
  rw [trimChars_eq_rdropWhile, List.dropWhile_cons_of_neg (by simp [hfirst])]
  have hkept := List.rdropWhile_prefix isBlank (first :: rest)
  cases hcut : (first :: rest).rdropWhile isBlank with
  | nil =>
      have hblank := List.rdropWhile_eq_nil_iff.mp hcut first List.mem_cons_self
      rw [hfirst] at hblank
      cases hblank
  | cons c cs =>
      rw [hcut, List.cons_prefix_cons] at hkept
      rw [List.head?_cons, hkept.1]

/-! ## White space around a text -/

section

variable {before after cs : List Char}

theorem trimChars_append_left (hbefore : ∀ c ∈ before, isBlank c = true) :
    trimChars (before ++ cs) = trimChars cs := by
  rw [trimChars_eq_rdropWhile, List.dropWhile_append_of_pos hbefore, ← trimChars_eq_rdropWhile]

theorem trimChars_append_right (hafter : ∀ c ∈ after, isBlank c = true) :
    trimChars (cs ++ after) = trimChars cs := by
  rw [trimChars_eq_rdropWhile, trimChars_eq_rdropWhile, List.dropWhile_append]
  split
  · next hblank =>
      rw [List.isEmpty_iff.mp hblank, List.dropWhile_eq_nil_iff.mpr hafter]
  · rw [List.rdropWhile, List.reverse_append,
      List.dropWhile_append_of_pos (by simpa using hafter), List.rdropWhile]

theorem trimChars_between (hbefore : ∀ c ∈ before, isBlank c = true)
    (hafter : ∀ c ∈ after, isBlank c = true) :
    trimChars (before ++ cs ++ after) = trimChars cs := by
  rw [trimChars_append_right hafter, trimChars_append_left hbefore]

theorem trimChars_of_forall (hcs : ∀ c ∈ cs, isBlank c = false) : trimChars cs = cs := by
  have hfirst : cs.dropWhile isBlank = cs := by
    rw [List.dropWhile_eq_self_iff]
    intro hpos
    simp [hcs _ (List.getElem_mem hpos)]
  rw [trimChars_eq_rdropWhile, hfirst, List.rdropWhile_eq_self_iff]
  intro hne
  simp [hcs _ (List.getLast_mem hne)]

theorem trimChars_eq_self {first last : Char} {middle : List Char}
    (hfirst : isBlank first = false) (hlast : isBlank last = false) :
    trimChars (first :: (middle ++ [last])) = first :: (middle ++ [last]) := by
  rw [trimChars_eq_rdropWhile, List.dropWhile_cons_of_neg (by simp [hfirst]), ← List.cons_append,
    List.rdropWhile_concat_neg _ _ _ (by simp [hlast])]

end

/-! ## Words -/

/-- The code points with the White_Space property. -/
def blankCodes : List Nat :=
  [9, 10, 11, 12, 13, 0x20, 0x85, 0xA0, 0x1680, 0x2000, 0x2001, 0x2002, 0x2003, 0x2004, 0x2005,
    0x2006, 0x2007, 0x2008, 0x2009, 0x200A, 0x2028, 0x2029, 0x202F, 0x205F, 0x3000]

theorem toNat_mem_blankCodes {c : Char} (hblank : isBlank c = true) : c.toNat ∈ blankCodes := by
  simp only [isBlank, Bool.or_eq_true, Bool.and_eq_true, decide_eq_true_eq, beq_iff_eq] at hblank
  simp only [blankCodes, List.mem_cons, List.not_mem_nil, or_false]
  omega

theorem isWord_of_isBlank {c : Char} (hblank : isBlank c = true) : isWord c = false := by
  have hcodes : ∀ code ∈ blankCodes, isWord (Char.ofNat code) = false := by decide +kernel
  rw [← Char.ofNat_toNat c]
  exact hcodes _ (toNat_mem_blankCodes hblank)

end ApiSurface.Text
