import ApiSurface.Proofs.Resource.TypeWrappers

/-!
# Arrays and lists

`T[]` and `List<T>` both stand for many values, but only the list looks further into `T`: the
element of the array is `T` as it is written.  An expression that is looked into has an element
shorter than itself (`isReadShorter`), so the two notations agree exactly where `T`
is an element already (`array_eq_list_iff`).
-/

namespace ApiSurface

open Text

namespace TypeExpression

/-! ## Arrays -/

theorem trimChars_append_brackets (cs : List Char) :
    trimChars (cs ++ ['[', ']']) = cs.dropWhile isBlank ++ ['[', ']'] := by
  have hbehind : (cs ++ ['[', ']']).dropWhile isBlank = cs.dropWhile isBlank ++ ['[', ']'] := by
    rw [List.dropWhile_append]
    split
    · next hblank =>
        rw [List.isEmpty_iff.mp hblank]
        rfl
    · rfl
  have hlast : cs.dropWhile isBlank ++ ['[', ']'] = (cs.dropWhile isBlank ++ ['[']) ++ [']'] := by
    simp
  rw [trimChars_eq_rdropWhile, hbehind, hlast, List.rdropWhile_concat_neg _ _ _ (by decide)]

theorem shapeChars_append_brackets (cs : List Char) :
    shapeChars (cs ++ ['[', ']']) = (.multiple, trimChars cs) := by
  have harray : endsWith ['[', ']'] (trimChars (cs ++ ['[', ']'])) = true := by
    rw [trimChars_append_brackets, endsWith, List.isSuffixOf_iff_suffix]
    exact List.suffix_append _ _
  have hdropped : dropEnd 2 (cs.dropWhile isBlank ++ ['[', ']']) = cs.dropWhile isBlank := by
    simp [dropEnd]
  rw [shapeChars_of_array harray, trimChars_append_brackets, hdropped, trimChars_eq_rdropWhile,
    List.dropWhile_idempotent, ← trimChars_eq_rdropWhile]

/-! ## Lists -/

theorem enclose_plain {known : String} (hknown : known ∈ wrapperTypes)
    (hname : IsTypeName known.toList) (cs : List Char) :
    (Wrapper.plain known hknown hname).enclose cs = known.toList ++ '<' :: (cs ++ ['>']) := by
  simp [Wrapper.plain, Wrapper.enclose, Wrapper.core, Wrapper.inner, Gap.empty, afterCommas]

/-! ## Elements -/

/-- The expression is read as a single value of itself, or has a shorter element. -/
def IsReadShorter (cs : List Char) : Prop :=
  shapeChars cs = (.single, trimChars cs) ∨ (shapeChars cs).2.length < (trimChars cs).length

theorem IsReadShorter.length_lt {expression : List Char} {generic : Generic}
    (hargument : IsReadShorter (firstArgument generic.inner))
    (hgeneric : generic? expression = some generic) :
    (shapeChars (firstArgument generic.inner)).2.length < expression.length := by
  have hshorter := length_firstArgument_lt hgeneric
  have htrimmed := length_trimChars_le (firstArgument generic.inner)
  rcases hargument with heq | hlt
  · rw [heq]
    exact Nat.lt_of_le_of_lt htrimmed hshorter
  · omega

theorem isReadShorter (cs : List Char) : IsReadShorter cs := by
  unfold IsReadShorter
  fun_induction shapeChars cs with
  | case1 cs expression harray =>
      right
      have htrimmed := length_trimChars_le (dropEnd 2 expression)
      have htwo : 2 ≤ expression.length := (List.isSuffixOf_iff_suffix.mp harray).length_le
      have hdropped : (dropEnd 2 expression).length = expression.length - 2 := by
        simp [dropEnd]
      change (trimChars (dropEnd 2 expression)).length < expression.length
      omega
  | case2 cs expression harray hgeneric => exact .inl rfl
  | case3 cs expression harray generic hgeneric outer hcollection ih =>
      exact .inr (IsReadShorter.length_lt ih hgeneric)
  | case4 cs expression harray generic hgeneric outer hcollection hoptional ih =>
      exact .inr (IsReadShorter.length_lt ih hgeneric)
  | case5 cs expression harray generic hgeneric outer hcollection hoptional => exact .inl rfl

end TypeExpression

open TypeExpression

/-! ## Both notations -/

theorem shape_of_array (text : String) :
    TypeShape.ofExpression (text ++ "[]") = ⟨.multiple, trim text⟩ := by
  have htext : (text ++ "[]").toList = text.toList ++ ['[', ']'] := by
    rw [String.toList_append]
    rfl
  simp only [TypeShape.ofExpression, htext, shapeChars_append_brackets, trim]

theorem shape_of_list {text : String} (htext : IsExpression text.toList) :
    TypeShape.ofExpression ("List<" ++ text ++ ">") =
      ⟨.multiple, (TypeShape.ofExpression text).element⟩ := by
  have hknown : "List" ∈ wrapperTypes := by decide
  have hname : IsTypeName "List".toList := by decide
  have henclosed : ("List<" ++ text ++ ">").toList =
      (Wrapper.plain "List" hknown hname).enclose text.toList := by
    rw [enclose_plain, String.toList_append, String.toList_append, List.append_assoc]
    rfl
  have hcollection : (Wrapper.plain "List" hknown hname).isCollection = true :=
    decide_eq_true (by decide : "List" ∈ collectionTypes)
  simp only [TypeShape.ofExpression, henclosed, shapeChars_enclose _ htext, hcollection, if_true]

theorem shape_eq_or_length_lt (text : String) :
    TypeShape.ofExpression text = ⟨.single, trim text⟩ ∨
      (TypeShape.ofExpression text).element.length < (trim text).length := by
  rcases isReadShorter text.toList with hself | hshorter
  · left
    simp only [TypeShape.ofExpression, hself, trim]
  · right
    simpa [TypeShape.ofExpression, trim] using hshorter

/--
An array has the text before its brackets as its element, and a list the element of its argument.
They are the same exactly for what is an element already: an array, a collection or an optional
type is looked through inside a list, and not inside an array.
-/
theorem array_eq_list_iff {text : String} (htext : IsExpression text.toList) :
    let array := TypeShape.ofExpression (text ++ "[]")
    let list := TypeShape.ofExpression ("List<" ++ text ++ ">")
    array = ⟨.multiple, trim text⟩ ∧
      list = ⟨.multiple, (TypeShape.ofExpression text).element⟩ ∧
      (array = list ↔ TypeShape.ofExpression text = ⟨.single, trim text⟩) := by
  intro array list
  have harray : array = ⟨.multiple, trim text⟩ := shape_of_array text
  have hlist : list = ⟨.multiple, (TypeShape.ofExpression text).element⟩ := shape_of_list htext
  refine ⟨harray, hlist, ?_⟩
  rw [harray, hlist]
  constructor
  · intro hsame
    have helement : trim text = (TypeShape.ofExpression text).element :=
      (TypeShape.mk.inj hsame).2
    rcases shape_eq_or_length_lt text with hself | hshorter
    · exact hself
    · rw [← helement] at hshorter
      exact absurd hshorter (Nat.lt_irrefl _)
  · intro hself
    rw [hself]

theorem mapArray_eq_list :
    IsExpression "shop.Map<String, Tag>".toList ∧
      TypeShape.ofExpression "shop.Map<String, Tag>" = ⟨.single, trim "shop.Map<String, Tag>"⟩ ∧
      TypeShape.ofExpression ("shop.Map<String, Tag>" ++ "[]") =
        TypeShape.ofExpression ("List<" ++ "shop.Map<String, Tag>" ++ ">") := by
  have htext : IsExpression "shop.Map<String, Tag>".toList := by decide
  have hself : TypeShape.ofExpression "shop.Map<String, Tag>" =
      ⟨.single, trim "shop.Map<String, Tag>"⟩ := by decide +kernel
  obtain ⟨-, -, hsame⟩ := array_eq_list_iff htext
  exact ⟨htext, hself, hsame.mpr hself⟩

/-- An optional type is looked through in a list and not in an array. -/
theorem optionalArray_ne_list :
    IsExpression "Option<Tag>".toList ∧
      TypeShape.ofExpression ("Option<Tag>" ++ "[]") = ⟨.multiple, "Option<Tag>"⟩ ∧
      TypeShape.ofExpression ("List<" ++ "Option<Tag>" ++ ">") = ⟨.multiple, "Tag"⟩ ∧
      TypeShape.ofExpression ("Option<Tag>" ++ "[]") ≠
        TypeShape.ofExpression ("List<" ++ "Option<Tag>" ++ ">") := by
  refine ⟨by decide, ?_⟩
  decide +kernel

end ApiSurface
