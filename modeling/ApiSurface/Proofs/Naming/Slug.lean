import ApiSurface.Proofs.Naming.SnakeCase
import ApiSurface.Proofs.Naming.SnakeForm
import ApiSurface.Proofs.Text.Trimming

/-!
# The form of slugs

In lower case a title has no capital ASCII letter, whatever script it is written in, so that each of
its characters is one of a slug or becomes an underscore (`isSlug_slug`).  A text in that form is
its own slug (`slug_eq_self`).
-/

namespace ApiSurface

namespace Text

/-! ## Lower case -/

theorem isUpper_of_not_isAscii {c : Char} (houtside : isAscii c = false) : c.isUpper = false := by
  rw [Bool.eq_false_iff]
  intro hcapital
  have hlast : c.toNat ≤ 'Z'.toNat := (of_decide_eq_true hcapital).2
  have hlarge : 128 ≤ c.toNat := by simpa [isAscii] using houtside
  exact absurd (hlarge.trans hlast) (by decide)

theorem isUpper_of_mem_lowerChar {c d : Char} (hmem : d ∈ lowerChar c) : d.isUpper = false := by
  cases hsource : isAscii c with
  | true =>
      rw [lowerChar_of_isAscii hsource, List.mem_singleton] at hmem
      rw [hmem, Char.isUpper_toLower_eq_false]
  | false =>
      rcases mem_lowerChar_of_not_isAscii hsource hmem with houtside | hsmall
      · exact isUpper_of_not_isAscii houtside
      · exact Bool.eq_false_iff.mpr (Char.not_isUpper_of_isLower hsmall)

theorem isUpper_of_mem_lowercaseFrom {cs : List Char} {afterCased : Bool} {d : Char}
    (hmem : d ∈ lowercaseFrom afterCased cs) : d.isUpper = false := by
  induction cs generalizing afterCased with
  | nil => cases hmem
  | cons c rest ih =>
      rw [lowercaseFrom] at hmem
      rcases List.mem_append.mp hmem with hfirst | hrest
      · split at hfirst
        · -- both small forms of sigma are outside ASCII
          rw [List.mem_singleton] at hfirst
          subst hfirst
          split <;> rfl
        · exact isUpper_of_mem_lowerChar hfirst
      · exact ih hrest

end Text

namespace Naming

open Text

/-! ## Characters of slugs -/

def isSlugChar (c : Char) : Bool :=
  c.isLower || c.isDigit || c == '_'

theorem isSlugChar_iff {c : Char} :
    isSlugChar c = true ↔ (c.isLower = true ∨ c.isDigit = true) ∨ c = '_' := by
  simp [isSlugChar]

theorem isUpper_of_isSlugChar {c : Char} (hslug : isSlugChar c = true) : c.isUpper = false := by
  rw [Bool.eq_false_iff]
  rcases isSlugChar_iff.mp hslug with (hsmall | hdigit) | rfl
  · exact Char.not_isUpper_of_isLower hsmall
  · intro hcapital
    have hfirst : 'A'.toNat ≤ c.toNat := (of_decide_eq_true hcapital).1
    have hlast : c.toNat ≤ '9'.toNat := of_decide_eq_true (Bool.and_eq_true_iff.mp hdigit).2
    exact absurd (hfirst.trans hlast) (by decide)
  · decide

theorem isAscii_of_isSlugChar {c : Char} (hslug : isSlugChar c = true) : isAscii c = true := by
  rcases isSlugChar_iff.mp hslug with (hsmall | hdigit) | rfl
  · have hlast : c.toNat ≤ 'z'.toNat := of_decide_eq_true (Bool.and_eq_true_iff.mp hsmall).2
    exact decide_eq_true (Nat.lt_of_le_of_lt hlast (by decide))
  · have hlast : c.toNat ≤ '9'.toNat := of_decide_eq_true (Bool.and_eq_true_iff.mp hdigit).2
    exact decide_eq_true (Nat.lt_of_le_of_lt hlast (by decide))
  · decide

def slugChar (c : Char) : Char :=
  if c.isAlphanum then c else '_'

theorem isSlugChar_slugChar {c : Char} (hsmall : c.isUpper = false) :
    isSlugChar (slugChar c) = true := by
  unfold slugChar
  split
  · next hletter =>
      rw [Char.isAlphanum, Char.isAlpha, hsmall, Bool.false_or] at hletter
      rw [isSlugChar, hletter, Bool.true_or]
  · decide

theorem slugChar_eq_self {c : Char} (hslug : isSlugChar c = true) : slugChar c = c := by
  unfold slugChar
  split
  · rfl
  · next hother =>
      rcases isSlugChar_iff.mp hslug with (hsmall | hdigit) | hunderscore
      · exact absurd (by simp [Char.isAlphanum, Char.isAlpha, hsmall]) hother
      · exact absurd (by simp [Char.isAlphanum, hdigit]) hother
      · exact hunderscore.symm

/-! ## Slugs of titles -/

/-- A text of slug characters with no underscore at its ends. -/
structure IsSlug (text : String) : Prop where
  chars : ∀ c ∈ text.toList, isSlugChar c = true
  no_leading : text.toList.head? ≠ some '_'
  no_trailing : text.toList.getLast? ≠ some '_'

theorem slugChars_eq (cs : List Char) :
    slugChars cs =
      (((lowercaseChars cs).map slugChar).dropWhile (· == '_')).rdropWhile (· == '_') :=
  rfl

theorem isSlugChar_of_mem_slugChars {cs : List Char} {c : Char} (hmem : c ∈ slugChars cs) :
    isSlugChar c = true := by
  have hfront := (List.rdropWhile_prefix _ _).subset hmem
  have hspelled := (List.dropWhile_suffix _).subset hfront
  obtain ⟨source, hsource, rfl⟩ := List.mem_map.mp hspelled
  exact isSlugChar_slugChar (isUpper_of_mem_lowercaseFrom hsource)

theorem head?_slugChars (cs : List Char) : (slugChars cs).head? ≠ some '_' := by
  have hkept : (slugChars cs).dropWhile (· == '_') = slugChars cs :=
    dropWhile_rdropWhile_dropWhile (· == '_') _
  intro hhead
  obtain ⟨rest, hrest⟩ := List.head?_eq_some_iff.mp hhead
  rw [hrest, List.dropWhile_eq_self_iff] at hkept
  exact hkept (by simp) rfl

theorem getLast?_slugChars (cs : List Char) : (slugChars cs).getLast? ≠ some '_' := by
  intro hlast
  obtain ⟨hne, hunderscore⟩ := List.mem_getLast?_eq_getLast hlast
  exact List.rdropWhile_last_not (· == '_') _ hne (beq_iff_eq.mpr hunderscore.symm)

theorem isSlug_slug (title : String) : IsSlug (slug title) := by
  constructor <;> rw [slug, String.toList_ofList]
  · exact fun c => isSlugChar_of_mem_slugChars
  · exact head?_slugChars title.toList
  · exact getLast?_slugChars title.toList

/-- Of these capitals one has a plain small letter, the other a letter and a mark. -/
example : slug "_\u212A & \u0130!" = "k___i" := by
  decide +kernel

/-! ## Slugs of slugs -/

theorem lowercaseChars_eq_self {cs : List Char} (hchars : ∀ c ∈ cs, isSlugChar c = true) :
    lowercaseChars cs = cs := by
  have hascii : ∀ c ∈ cs, isAscii c = true := fun c hc => isAscii_of_isSlugChar (hchars c hc)
  rw [lowercaseChars, lowercaseFrom_of_ascii hascii]
  refine (List.map_congr_left fun c hc => ?_).trans (List.map_id cs)
  exact Char.toLower_eq_of_not_isUpper (by simp [isUpper_of_isSlugChar (hchars c hc)])

theorem slug_eq_self {text : String} (htext : IsSlug text) : slug text = text := by
  have hspelled : (lowercaseChars text.toList).map slugChar = text.toList := by
    rw [lowercaseChars_eq_self htext.chars]
    refine (List.map_congr_left fun c hc => ?_).trans (List.map_id _)
    exact slugChar_eq_self (htext.chars c hc)
  have hfront : text.toList.dropWhile (· == '_') = text.toList := by
    rw [List.dropWhile_eq_self_iff]
    intro hpos hunderscore
    refine htext.no_leading ?_
    rw [List.head?_eq_getElem?, List.getElem?_eq_getElem hpos, beq_iff_eq.mp hunderscore]
  have hend : text.toList.rdropWhile (· == '_') = text.toList := by
    rw [List.rdropWhile_eq_self_iff]
    intro hne hunderscore
    refine htext.no_trailing ?_
    rw [List.getLast?_eq_some_getLast hne, beq_iff_eq.mp hunderscore]
  rw [slug, slugChars_eq, hspelled, hfront, hend, String.ofList_toList]

end Naming

end ApiSurface
