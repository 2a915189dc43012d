import ApiSurface.Naming.Casing
import Mathlib

/-!
# Characters that snake case leaves alone

Lower-casing turns capitals into letters, or into characters outside ASCII.  An ASCII character
that is no letter therefore has itself as its only source (`mem_lowerChar_iff`), and if it is no
break either, a name in snake case has it exactly where the name has it.
-/

namespace ApiSurface

namespace Text

/-! ## ASCII characters -/

theorem mem_lowerChar_of_isAscii {c d : Char} (hsource : isAscii c = true)
    (hletter : d.isAlpha = false) : d ∈ lowerChar c ↔ c = d := by
  have hlowered : lowerChar c = [c.toLower] := if_pos hsource
  rw [hlowered, List.mem_singleton]
  by_cases hcapital : c.isUpper = true
  · have hsourceLetter : c.isAlpha = true := Bool.or_eq_true_iff.mpr (Or.inl hcapital)
    apply iff_of_false
    · rintro rfl
      rw [Char.isAlpha_toLower_eq_isAlpha, hsourceLetter] at hletter
      cases hletter
    · rintro rfl
      rw [hsourceLetter] at hletter
      cases hletter
  · rw [Char.toLower_eq_of_not_isUpper hcapital, eq_comm]

/-! ## Characters outside ASCII -/

/-- The images of a run are characters outside ASCII, or the run lies within ASCII. -/
def CodeShift.StaysOutside (run : CodeShift) : Prop :=
  run.last < 128 ∨
    (128 ≤ run.first + run.shift ∧ run.last + run.shift < 0xD800) ∨
    (0xE000 ≤ run.first + run.shift ∧ run.last + run.shift < 0x110000)

instance (run : CodeShift) : Decidable run.StaysOutside :=
  inferInstanceAs (Decidable (_ ∨ _ ∨ _))

def kelvinShift : CodeShift :=
  ⟨0x212A, 0x212A, 1, -8383⟩

theorem lowerShifts_stayOutside :
    ∀ run ∈ lowerShifts, run.StaysOutside ∨ run = kelvinShift := by
  decide +kernel

theorem CodeShift.shifted?_eq_some_iff {run : CodeShift} {code image : Nat} :
    run.shifted? code = some image ↔
      (CodeRun.mk run.first run.last run.step).contains code = true ∧
        (code + run.shift).toNat = image := by
  unfold shifted?
  split
  · next hcontains => simp [hcontains]
  · next hcontains => simp [hcontains]

theorem isAscii_ofNat {code : Nat} (hlarge : 128 ≤ code) (hvalid : code.isValidChar) :
    isAscii (Char.ofNat code) = false := by
  have hcode : (Char.ofNat code).toNat = code := by
    rw [Char.ofNat, dif_pos hvalid]
    rfl
  simp [isAscii, hcode, hlarge]

theorem CodeShift.StaysOutside.isAscii_image {run : CodeShift} (hrun : run.StaysOutside)
    {code : Nat} (hlarge : 128 ≤ code) (hfirst : run.first ≤ code) (hlast : code ≤ run.last) :
    isAscii (Char.ofNat (code + run.shift).toNat) = false := by
  rcases hrun with hwithin | ⟨hlow, hhigh⟩ | ⟨hlow, hhigh⟩
  · omega
  · have hvalid : (code + run.shift).toNat.isValidChar := Or.inl (by omega)
    exact isAscii_ofNat (by omega) hvalid
  · have hvalid : (code + run.shift).toNat.isValidChar := Or.inr ⟨by omega, by omega⟩
    exact isAscii_ofNat (by omega) hvalid

theorem shiftedBy_lowerShifts {c : Char} (hsource : isAscii c = false) :
    isAscii (shiftedBy lowerShifts c) = false ∨ shiftedBy lowerShifts c = 'k' := by
  unfold shiftedBy
  split
  next image hfound =>
    obtain ⟨run, hrun, hshifted⟩ := List.exists_of_findSome?_eq_some hfound
    obtain ⟨hcontains, rfl⟩ := CodeShift.shifted?_eq_some_iff.mp hshifted
    simp only [CodeRun.contains, Bool.and_eq_true, decide_eq_true_eq] at hcontains
    obtain ⟨⟨hfirst, hlast⟩, -⟩ := hcontains
    have hlarge : 128 ≤ c.toNat := by simpa [isAscii] using hsource
    rcases lowerShifts_stayOutside run hrun with houtside | rfl
    · exact Or.inl (houtside.isAscii_image hlarge hfirst hlast)
    · have hkelvin : c.toNat = 0x212A := Nat.le_antisymm hlast hfirst
      rw [hkelvin]
      exact Or.inr rfl
  next => exact Or.inl hsource

theorem mem_lowerChar_of_not_isAscii {c d : Char} (hsource : isAscii c = false)
    (hmem : d ∈ lowerChar c) : isAscii d = false ∨ d.isLower = true := by
  have hlowered : lowerChar c = mapCase lowerShifts lowerExpansions c := by
    simp [lowerChar, hsource]
  rw [hlowered, mapCase] at hmem
  split at hmem
  next first codes hfound =>
    have hentry : (first, codes) ∈ lowerExpansions := List.mem_of_find?_eq_some hfound
    have hexpansions : ∀ entry ∈ lowerExpansions, ∀ code ∈ entry.2,
        isAscii (Char.ofNat code) = false ∨ (Char.ofNat code).isLower = true := by decide
    obtain ⟨code, hcode, rfl⟩ := List.mem_map.mp hmem
    exact hexpansions _ hentry code hcode
  next =>
    rw [List.mem_singleton.mp hmem]
    rcases shiftedBy_lowerShifts hsource with houtside | hletter
    · exact Or.inl houtside
    · exact Or.inr (by rw [hletter]; rfl)

theorem mem_lowerChar_iff {c d : Char} (hascii : isAscii d = true)
    (hletter : d.isAlpha = false) : d ∈ lowerChar c ↔ c = d := by
  cases hsource : isAscii c with
  | true => exact mem_lowerChar_of_isAscii hsource hletter
  | false =>
      constructor
      · intro hmem
        rcases mem_lowerChar_of_not_isAscii hsource hmem with houtside | hsmall
        · rw [hascii] at houtside
          cases houtside
        · rw [Char.isAlpha, hsmall, Bool.or_true] at hletter
          cases hletter
      · rintro rfl
        rw [hascii] at hsource
        cases hsource

end Text

namespace Naming

open Text

/-! ## Names -/

theorem mem_snakeFrom_iff {d : Char} (hascii : isAscii d = true) (hletter : d.isAlpha = false)
    (hbreak : isSnakeBreak d = false) (context : SnakeContext) (cs : List Char) :
    d ∈ snakeFrom context cs ↔ d ∈ cs := by
  have hunderscore : d ≠ '_' := by
    rintro rfl
    cases hbreak
  have hother : ∀ c, isSnakeBreak c = true → d ≠ c := by
    rintro c hc rfl
    rw [hbreak] at hc
    cases hc
  -- the context decides on underscores only, so nothing is needed of it
  induction cs generalizing context with
  | nil => rfl
  | cons c rest ih =>
      rw [snakeFrom]
      by_cases hc : isSnakeBreak c = true
      · have hne := hother c hc
        rw [if_pos hc]
        split <;> simp [ih, hne, hunderscore]
      · rw [if_neg hc]
        have hlowered : d ∈ lowerChar c ↔ d = c :=
          (mem_lowerChar_iff hascii hletter).trans eq_comm
        by_cases hupper : isUppercase c = true
        · rw [if_pos hupper]
          split <;> simp [ih, hunderscore, hlowered]
        · rw [if_neg hupper]
          simp [ih]

theorem slash_mem_snakeCase_iff (name : String) :
    '/' ∈ (snakeCase name).toList ↔ '/' ∈ name.toList := by
  rw [snakeCase, String.toList_ofList]
  exact mem_snakeFrom_iff (by decide) (by decide) (by decide) _ _

end Naming

end ApiSurface
