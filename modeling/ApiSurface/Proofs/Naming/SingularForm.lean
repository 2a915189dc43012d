import ApiSurface.Operation.OnRelation
import ApiSurface.Proofs.Naming.Inflection

/-!
# Singular forms

What a rule for singulars leaves does not look like a plural any more, so that no rule applies to
it (`singularChars_cases`).  The singular of a word is therefore its own singular, and the names
for one related value are the same for a relation and for its singular form (`singular_singular`).
-/

namespace ApiSurface

namespace Text

theorem getLast?_lowerAscii (cs : List Char) :
    (lowerAscii cs).getLast? = cs.getLast?.map Char.toLower :=
  List.getLast?_map

theorem lowerAscii_dropEnd (count : Nat) (cs : List Char) :
    lowerAscii (dropEnd count cs) = dropEnd count (lowerAscii cs) := by
  simp [lowerAscii, dropEnd, List.map_take]

theorem endsWith_append_eq_false {ending text : List Char} (front : List Char)
    (hends : endsWith ending text = false) : endsWith (front ++ ending) text = false := by
  rw [Bool.eq_false_iff] at hends ⊢
  intro hlonger
  obtain ⟨start, hstart⟩ := List.isSuffixOf_iff_suffix.mp hlonger
  apply hends
  rw [← hstart, ← List.append_assoc]
  exact endsWith_self (start ++ front) ending

end Text

namespace Naming

open Text

variable {word : List Char}

/-! ## Words that no rule changes -/

def singularEndings : List (List Char) :=
  [['s', 's'], ['u', 's'], ['i', 's']]

/-- A word without an `s` at its end, or with the ending of a singular noun. -/
def LooksSingular (word : List Char) : Prop :=
  (lowerAscii word).getLast? ≠ some 's' ∨
    ∃ ending ∈ singularEndings, endsWith ending (lowerAscii word) = true

theorem LooksSingular.endsWith_es (hword : LooksSingular word) :
    endsWith ['e', 's'] (lowerAscii word) = false := by
  rcases hword with hlast | ⟨ending, hending, hends⟩
  · exact endsWith_eq_false (by simp) hlast
  · obtain ⟨front, hfront⟩ := List.isSuffixOf_iff_suffix.mp hends
    simp only [singularEndings, List.mem_cons, List.not_mem_nil, or_false] at hending
    rw [← hfront]
    rcases hending with rfl | rfl | rfl <;> simp [endsWith, List.isSuffixOf, List.isPrefixOf]

/-- The rules that do more than to take off an `s` look for `es`. -/
theorem singularChars_of_endsWith_es (hes : endsWith ['e', 's'] (lowerAscii word) = false) :
    singularChars word =
      if endsWith ['s', 's'] (lowerAscii word) || endsWith ['u', 's'] (lowerAscii word) ||
          endsWith ['i', 's'] (lowerAscii word) || byteLength word ≤ 1 then word
      else withoutEnding ['s'] word := by
  have hies : endsWith ['i', 'e', 's'] (lowerAscii word) = false :=
    endsWith_append_eq_false ['i'] hes
  have hsses : endsWith ['s', 's', 'e', 's'] (lowerAscii word) = false :=
    endsWith_append_eq_false ['s', 's'] hes
  have huses : endsWith ['u', 's', 'e', 's'] (lowerAscii word) = false :=
    endsWith_append_eq_false ['u', 's'] hes
  have hxes : endsWith ['x', 'e', 's'] (lowerAscii word) = false :=
    endsWith_append_eq_false ['x'] hes
  have hches : endsWith ['c', 'h', 'e', 's'] (lowerAscii word) = false :=
    endsWith_append_eq_false ['c', 'h'] hes
  simp [singularChars, hies, hsses, huses, hxes, hches]

theorem singularChars_of_looksSingular (hword : LooksSingular word) :
    singularChars word = word := by
  rw [singularChars_of_endsWith_es hword.endsWith_es]
  split
  · rfl
  · next hother =>
      have hlast : (lowerAscii word).getLast? ≠ some 's' := by
        refine hword.resolve_right ?_
        simp only [Bool.or_eq_true, not_or] at hother
        simp [singularEndings, hother]
      have hs : endsWith ['s'] word = false := by
        refine endsWith_eq_false (by simp) fun hends => hlast ?_
        rw [getLast?_lowerAscii, hends]
        rfl
      simp [withoutEnding, hs]

/-! ## What the rules leave -/

theorem looksSingular_append_y (front : List Char) : LooksSingular (front ++ ['y']) := by
  left
  simp [lowerAscii]

theorem looksSingular_dropEnd_es (ending : List Char) (hending : ending ∈ esEndings)
    (hends : endsWith (ending ++ ['e', 's']) (lowerAscii word) = true) :
    LooksSingular (dropEnd 2 word) := by
  have hopen : endsWith ending (lowerAscii (dropEnd 2 word)) = true := by
    obtain ⟨front, hfront⟩ := List.isSuffixOf_iff_suffix.mp hends
    have hes : ['e', 's'].length = 2 := rfl
    rw [lowerAscii_dropEnd, ← hfront, ← List.append_assoc, dropEnd_append hes]
    exact endsWith_self front ending
  simp only [esEndings, List.mem_cons, List.not_mem_nil, or_false] at hending
  rcases hending with rfl | rfl | rfl | rfl
  · exact .inr ⟨['s', 's'], by decide, hopen⟩
  · exact .inr ⟨['u', 's'], by decide, hopen⟩
  · exact .inl (by simp [getLast?_of_endsWith _ hopen])
  · exact .inl (by simp [getLast?_of_endsWith _ hopen])

theorem looksSingular_of_append_s (hss : endsWith ['s', 's'] (lowerAscii (word ++ ['s'])) = false) :
    LooksSingular word := by
  left
  intro hlast
  obtain ⟨front, hfront⟩ := List.getLast?_eq_some_iff.mp hlast
  have hends : endsWith ['s', 's'] (lowerAscii (word ++ ['s'])) = true := by
    rw [lowerAscii_append, hfront, List.append_assoc]
    exact endsWith_self front ['s', 's']
  rw [hss] at hends
  cases hends

/-- One case for each rule: only the rule for singular nouns and a missing small `s` leave the
word as it is. -/
theorem singularChars_cases (word : List Char) :
    singularChars word = word ∨ LooksSingular (singularChars word) := by
  unfold singularChars
  dsimp only
  split
  · exact .inr (looksSingular_append_y _)
  · split
    · next hes =>
        simp only [Bool.and_eq_true, Bool.or_eq_true, or_assoc] at hes
        right
        rcases hes.2 with hends | hends | hends | hends
        · exact looksSingular_dropEnd_es ['s', 's'] (by decide) hends
        · exact looksSingular_dropEnd_es ['u', 's'] (by decide) hends
        · exact looksSingular_dropEnd_es ['x'] (by decide) hends
        · exact looksSingular_dropEnd_es ['c', 'h'] (by decide) hends
    · split
      · exact .inl rfl
      · next hother =>
          simp only [Bool.or_eq_true, not_or, Bool.not_eq_true] at hother
          unfold withoutEnding
          split
          · next hs =>
              obtain ⟨front, rfl⟩ := List.isSuffixOf_iff_suffix.mp hs
              have hss := hother.1.1.1
              rw [dropEnd_append rfl]
              exact .inr (looksSingular_of_append_s hss)
          · exact .inl rfl

theorem singularChars_singularChars (word : List Char) :
    singularChars (singularChars word) = singularChars word := by
  rcases singularChars_cases word with hsame | hsingular
  · rw [hsame, hsame]
  · exact singularChars_of_looksSingular hsingular

end Naming

/-! ## Names for one related value -/

def Relation.withName (relation : Relation) (name : String) : Relation :=
  { relation with name := name }

namespace Naming

/--
The singular of a name is its own singular.  So the accessors and the operations by which one value
of a relation is added or removed are called the same for a relation and for its singular form.
-/
theorem singular_singular (name : String) :
    singular (singular name) = singular name ∧
      (Accessors.conventional (singular name)).add = (Accessors.conventional name).add ∧
      (Accessors.conventional (singular name)).remove = (Accessors.conventional name).remove ∧
      ∀ relation : Relation,
        let plural := relation.withName name
        let single := relation.withName (singular name)
        single.singularName = plural.singularName ∧
          ∀ verb, single.singularOperationName verb = plural.singularOperationName verb ∧
            single.byIdOperationName verb = plural.byIdOperationName verb := by
  have hsame : singular (singular name) = singular name := by
    rw [singular, singular, String.toList_ofList, singularChars_singularChars]
  have hadd : Accessors.conventionalName (singular name) .add =
      Accessors.conventionalName name .add := by
    rw [Accessors.conventionalName, hsame, Accessors.conventionalName]
  have hremove : Accessors.conventionalName (singular name) .remove =
      Accessors.conventionalName name .remove := by
    rw [Accessors.conventionalName, hsame, Accessors.conventionalName]
  refine ⟨hsame, hadd, hremove, fun relation => ?_⟩
  intro plural single
  have hname : singular single.name = singular plural.name := hsame
  have hoperation (verb : String) :
      single.singularOperationName verb = plural.singularOperationName verb := by
    rw [Relation.singularOperationName, hname, Relation.singularOperationName]
  refine ⟨?_, fun verb => ⟨hoperation verb, ?_⟩⟩
  · rw [Relation.singularName, hname, Relation.singularName]
  · rw [Relation.byIdOperationName, hoperation, Relation.byIdOperationName]

end Naming

end ApiSurface
