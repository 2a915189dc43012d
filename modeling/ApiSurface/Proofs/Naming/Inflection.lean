import ApiSurface.Naming.Inflection
import Mathlib.Data.List.Infix

/-!
# Plurals and their singulars

The plural of a word is made by one of three rules, and its ending decides by which rule the
singular is taken.  What `ies` stands for, what takes `es` after `x` and `ch`, and a plain `s` are
undone by the rule that fits; but no rule for singulars knows `shes`, so that only the `s` is taken
off and an `e` is left (`singular_plural_iff`).
-/

namespace ApiSurface

/-! ## Endings -/

namespace Text

theorem length_le_byteLength (cs : List Char) : cs.length ≤ byteLength cs := by
  induction cs with
  | nil => exact Nat.le_refl 0
  | cons c rest ih =>
      have hsize := c.utf8Size_pos
      rw [byteLength, List.length_cons]
      omega

theorem lt_byteLength_append {front tail : List Char} {bound : Nat}
    (hlong : bound < front.length + tail.length) : bound < byteLength (front ++ tail) := by
  have hbytes := length_le_byteLength (front ++ tail)
  rw [List.length_append] at hbytes
  omega

theorem endsWith_self (text tail : List Char) : endsWith tail (text ++ tail) = true := by
  simp [endsWith]

theorem endsWith_append (ending text tail : List Char) :
    endsWith (ending ++ tail) (text ++ tail) = endsWith ending text := by
  rw [Bool.eq_iff_iff, endsWith, endsWith, List.isSuffixOf_iff_suffix, List.isSuffixOf_iff_suffix]
  exact (List.suffix_append_inj_of_length_eq rfl).trans (and_iff_left rfl)

theorem getLast?_of_endsWith {ending text : List Char} (hne : ending ≠ [])
    (hends : endsWith ending text = true) : text.getLast? = ending.getLast? := by
  obtain ⟨front, rfl⟩ := List.isSuffixOf_iff_suffix.mp hends
  rw [List.getLast?_append_of_ne_nil front hne]

theorem endsWith_eq_false {ending text : List Char} (hne : ending ≠ [])
    (hlast : text.getLast? ≠ ending.getLast?) : endsWith ending text = false :=
  Bool.eq_false_iff.mpr fun hends => hlast (getLast?_of_endsWith hne hends)

theorem dropEnd_append {count : Nat} {tail : List Char} (hcount : tail.length = count)
    (front : List Char) : dropEnd count (front ++ tail) = front := by
  simp [dropEnd, hcount]

theorem lowerAscii_append (front tail : List Char) :
    lowerAscii (front ++ tail) = lowerAscii front ++ lowerAscii tail :=
  List.map_append

theorem lowerAscii_eq_self {cs : List Char} (hsmall : ∀ c ∈ cs, c.isLower = true) :
    lowerAscii cs = cs := by
  refine (List.map_congr_left fun c hc => ?_).trans (List.map_id cs)
  have hletter := Bool.and_eq_true_iff.mp (hsmall c hc)
  have hlow : 97 ≤ c.toNat := of_decide_eq_true hletter.1
  unfold Char.toLower
  split
  · next hcapital =>
      have hhigh : c.toNat ≤ 90 := hcapital.2
      omega
  · rfl

end Text

namespace Naming

open Text

variable {word : List Char}

/-! ## Singulars -/

theorem singularChars_append_ies (hword : word ≠ []) :
    singularChars (word ++ ['i', 'e', 's']) = word ++ ['y'] := by
  have hpos := List.length_pos_of_ne_nil hword
  have hlong : 3 < byteLength (word ++ ['i', 'e', 's']) := lt_byteLength_append (by simp; omega)
  have hends : endsWith ['i', 'e', 's'] (lowerAscii (word ++ ['i', 'e', 's'])) = true := by
    rw [lowerAscii_append]
    exact endsWith_self _ _
  simp [singularChars, hends, hlong, dropEnd_append]

/-- The endings of words that lose `es` in the singular. -/
def esEndings : List (List Char) :=
  [['s', 's'], ['u', 's'], ['x'], ['c', 'h']]

theorem singularChars_append_es (hword : 3 ≤ word.length) {ending : List Char}
    (hending : ending ∈ esEndings) (hends : endsWith ending (lowerAscii word) = true) :
    singularChars (word ++ ['e', 's']) = word := by
  have hlong : 4 < byteLength (word ++ ['e', 's']) := lt_byteLength_append (by simp; omega)
  have hplural (other : List Char) :
      endsWith (other ++ ['e', 's']) (lowerAscii (word ++ ['e', 's'])) =
        endsWith other (lowerAscii word) := by
    rw [lowerAscii_append]
    exact endsWith_append _ _ _
  have hies : endsWith ['i', 'e', 's'] (lowerAscii (word ++ ['e', 's'])) = false := by
    have hlast : ∀ ending ∈ esEndings, ending ≠ [] ∧ ending.getLast? ≠ some 'i' := by decide
    obtain ⟨hne, hother⟩ := hlast ending hending
    refine (hplural ['i']).trans (endsWith_eq_false (by simp) ?_)
    rwa [getLast?_of_endsWith hne hends]
  have hes := (hplural ending).trans hends
  simp only [esEndings, List.mem_cons, List.not_mem_nil, or_false] at hending
  rcases hending with rfl | rfl | rfl | rfl <;>
    simp only [List.cons_append, List.nil_append] at hes <;>
    simp [singularChars, hies, hes, hlong, dropEnd_append]

def otherEndings : List (List Char) :=
  [['i', 'e'], ['s', 's', 'e'], ['u', 's', 'e'], ['x', 'e'], ['c', 'h', 'e'], ['s'], ['u'], ['i']]

theorem singularChars_append_s (hword : word ≠ [])
    (hends : ∀ ending ∈ otherEndings, endsWith ending (lowerAscii word) = false) :
    singularChars (word ++ ['s']) = word := by
  have hpos := List.length_pos_of_ne_nil hword
  have hlong : 1 < byteLength (word ++ ['s']) := lt_byteLength_append (by simp; omega)
  have hplural : ∀ ending ∈ otherEndings,
      endsWith (ending ++ ['s']) (lowerAscii (word ++ ['s'])) = false := by
    intro ending hending
    rw [lowerAscii_append]
    exact (endsWith_append _ _ _).trans (hends ending hending)
  have hs : endsWith ['s'] (word ++ ['s']) = true := endsWith_self _ _
  simp only [otherEndings, List.forall_mem_cons, List.cons_append, List.nil_append] at hplural
  simp [singularChars, withoutEnding, hplural, hs, dropEnd_append]
  omega

theorem endsWith_otherEndings (hlast : ∀ c ∈ ['e', 'i', 'u', 's'], word.getLast? ≠ some c) :
    ∀ ending ∈ otherEndings, endsWith ending word = false := by
  have hendings : ∀ ending ∈ otherEndings, ending ≠ [] ∧
      ending.getLast? ∈ ['e', 'i', 'u', 's'].map some := by decide
  intro ending hending
  obtain ⟨hne, hends⟩ := hendings ending hending
  obtain ⟨c, hc, hlastChar⟩ := List.mem_map.mp hends
  refine endsWith_eq_false hne ?_
  rw [← hlastChar]
  exact hlast c hc

/-- No rule knows `shes`, so an `e` is left. -/
theorem singularChars_append_shes (front : List Char) :
    singularChars (front ++ ['s', 'h', 'e', 's']) = front ++ ['s', 'h', 'e'] := by
  have hends : ∀ ending ∈ otherEndings,
      endsWith ending (lowerAscii (front ++ ['s', 'h', 'e'])) = false := by
    rw [lowerAscii_append]
    simp [otherEndings, lowerAscii, endsWith, List.isSuffixOf, List.isPrefixOf]
  simpa using singularChars_append_s (by simp) hends

/-! ## Plurals -/

theorem pluralChars_cases (word : List Char) :
    (endsWith ['y'] (lowerAscii word) = true ∧
        pluralChars word = dropEnd 1 word ++ ['i', 'e', 's']) ∨
      (∃ ending ∈ [['s'], ['x'], ['c', 'h'], ['s', 'h']],
        endsWith ending (lowerAscii word) = true ∧ pluralChars word = word ++ ['e', 's']) ∨
      endsWith ['s', 'h'] (lowerAscii word) = false ∧ pluralChars word = word ++ ['s'] := by
  unfold pluralChars
  dsimp only
  split
  · next hies =>
      simp only [Bool.and_eq_true] at hies
      exact .inl ⟨hies.1.1.1.1, rfl⟩
  · split
    · next hes =>
        refine .inr (.inl ?_)
        simpa [or_assoc] using hes
    · next hes =>
        refine .inr (.inr ⟨?_, rfl⟩)
        simp only [Bool.not_eq_true, Bool.or_eq_false_iff] at hes
        exact hes.2

theorem singularChars_pluralChars (hsmall : ∀ c ∈ word, c.isLower = true)
    (hlong : 3 ≤ word.length) (hlast : ∀ c ∈ ['e', 'i', 'u', 's'], word.getLast? ≠ some c) :
    singularChars (pluralChars word) =
      if endsWith ['s', 'h'] word then word ++ ['e'] else word := by
  have hlower : lowerAscii word = word := lowerAscii_eq_self hsmall
  have hcases := pluralChars_cases word
  rw [hlower] at hcases
  rcases hcases with ⟨hy, hplural⟩ | ⟨ending, hending, hes, hplural⟩ | ⟨hsh, hplural⟩
  · obtain ⟨front, rfl⟩ := List.isSuffixOf_iff_suffix.mp hy
    have hfront : front ≠ [] := by
      rintro rfl
      simp at hlong
    have hother : endsWith ['s', 'h'] (front ++ ['y']) = false :=
      endsWith_eq_false (by simp) (by simp)
    have hcut : dropEnd 1 (front ++ ['y']) = front := dropEnd_append rfl front
    rw [hplural, hcut, singularChars_append_ies hfront, hother]
    rfl
  · rw [hplural]
    simp only [List.mem_cons, List.not_mem_nil, or_false] at hending
    rcases hending with rfl | rfl | rfl | rfl
    · exact absurd (getLast?_of_endsWith (by simp) hes) (hlast 's' (by simp))
    · have hother : endsWith ['s', 'h'] word = false :=
        endsWith_eq_false (by simp) (by simp [getLast?_of_endsWith (by simp) hes])
      rw [singularChars_append_es hlong (by decide) (hlower.symm ▸ hes), hother]
      rfl
    · have hother : endsWith ['s', 'h'] word = false := by
        obtain ⟨front, rfl⟩ := List.isSuffixOf_iff_suffix.mp hes
        simp [endsWith, List.isSuffixOf, List.isPrefixOf]
      rw [singularChars_append_es hlong (by decide) (hlower.symm ▸ hes), hother]
      rfl
    · obtain ⟨front, rfl⟩ := List.isSuffixOf_iff_suffix.mp hes
      rw [hes]
      simpa using singularChars_append_shes front
  · have hne : word ≠ [] := List.length_pos_iff.mp (by omega)
    have hplain := endsWith_otherEndings hlast
    rw [hplural, singularChars_append_s hne (hlower.symm ▸ hplain), hsh]
    rfl

def EndsIn (ending word : String) : Prop :=
  ending.toList <:+ word.toList

instance (ending word : String) : Decidable (EndsIn ending word) :=
  inferInstanceAs (Decidable (_ <:+ _))

theorem endsIn_iff_endsWith {ending word : String} :
    EndsIn ending word ↔ endsWith ending.toList word.toList = true :=
  List.isSuffixOf_iff_suffix.symm

def IsSmall (word : String) : Prop :=
  ∀ c ∈ word.toList, c.isLower = true

instance (word : String) : Decidable (IsSmall word) :=
  List.decidableBAll (fun c : Char => c.isLower = true) word.toList

/-- A word of at least three small letters that does not end in `e`, `i`, `u` or `s`. -/
def IsRegular (word : String) : Prop :=
  IsSmall word ∧ 3 ≤ word.length ∧ ∀ ending ∈ ["e", "i", "u", "s"], ¬EndsIn ending word

instance (word : String) : Decidable (IsRegular word) :=
  inferInstanceAs (Decidable (_ ∧ _ ∧ _))

/--
A regular word is the singular of its plural, unless it ends in `sh`: then the singular of its
plural has an `e` more.
-/
theorem singular_plural_iff {word : String} (hregular : IsRegular word) :
    (singular (plural word) = word ↔ ¬EndsIn "sh" word) ∧
      (EndsIn "sh" word → singular (plural word) = word ++ "e") := by
  obtain ⟨hsmall, hlong, hlast⟩ := hregular
  have hlastChar : ∀ c ∈ ['e', 'i', 'u', 's'], word.toList.getLast? ≠ some c := by
    intro c hc hends
    obtain ⟨front, hfront⟩ := List.getLast?_eq_some_iff.mp hends
    have hletter : String.singleton c ∈ ["e", "i", "u", "s"] :=
      List.mem_map_of_mem (f := String.singleton) hc
    exact hlast _ hletter ⟨front, by simp [hfront]⟩
  have hresult : singular (plural word) = if EndsIn "sh" word then word ++ "e" else word := by
    have hchars := singularChars_pluralChars hsmall (by rwa [String.length_toList]) hlastChar
    rw [singular, plural, String.toList_ofList, hchars]
    simp only [endsIn_iff_endsWith]
    by_cases hsh : endsWith ['s', 'h'] word.toList = true <;> simp [hsh]
  have hlonger : word ++ "e" ≠ word := by
    intro heq
    simpa using congrArg String.length heq
  by_cases hsh : EndsIn "sh" word
  · simp [hresult, hsh, hlonger]
  · simp [hresult, hsh]

theorem category_singular_plural :
    IsRegular "category" ∧ singular (plural "category") = "category" ∧
      IsRegular "brush" ∧ singular (plural "brush") = "brushe" := by
  have hcategory : IsRegular "category" := by decide +kernel
  have hbrush : IsRegular "brush" := by decide +kernel
  exact ⟨hcategory, (singular_plural_iff hcategory).1.mpr (by decide +kernel),
    hbrush, (singular_plural_iff hbrush).2 (by decide +kernel)⟩

/-- The plural of `dish` is `dishes`, and the singular of that is `dishe`. -/
theorem dish_singular_plural : IsRegular "dish" ∧ singular (plural "dish") ≠ "dish" := by
  decide +kernel

end Naming

end ApiSurface
