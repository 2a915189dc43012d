import ApiSurface.Proofs.Resource.TypeWrappers

/-!
# Reading type expressions

An expression is read by looking into its first type argument, and into the first argument of this
one, as long as collections and optional types are found.  What is looked into is a piece of the
trimmed expression and shorter than it (`isShorterPiece_firstArgument`), whether its brackets match
or not, so every reading comes to an end.  The element that is found is a trimmed piece of the whole
text (`reading_ends`).
-/

namespace ApiSurface

open Naming Text

namespace TypeExpression

/-! ## Pieces of an expression -/

theorem firstArgument_isInfix (cs : List Char) : firstArgument cs <:+: cs := by
  obtain ⟨piece, pieces, hpieces, hjoined⟩ := exists_outerPieces 0 cs
  have hpiece : piece <+: cs := by
    rw [← hjoined]
    exact List.prefix_append _ _
  rw [firstArgument, typeArguments, hpieces, List.map_cons, List.headD_cons]
  exact (trimChars_isInfix piece).trans hpiece.isInfix

theorem inner_isInfix {expression : List Char} {generic : Generic}
    (hgeneric : generic? expression = some generic) : generic.inner <:+: expression := by
  unfold generic? at hgeneric
  split at hgeneric
  · split at hgeneric
    · next rest hrest =>
        have hsuffix : '<' :: rest <:+ expression := by
          rw [← hrest]
          exact (List.dropWhile_suffix _).trans (List.dropWhile_suffix _)
        split at hgeneric
        · cases hgeneric
          have hinner : rest.dropLast <:+: rest := (List.dropLast_prefix rest).isInfix
          exact hinner.trans ((List.suffix_cons _ _).trans hsuffix).isInfix
        · cases hgeneric
    · cases hgeneric
  · cases hgeneric

def IsShorterPiece (cs piece : List Char) : Prop :=
  piece <:+: trimChars cs ∧ piece.length < (trimChars cs).length

theorem IsShorterPiece.isInfix {cs piece : List Char} (hpiece : IsShorterPiece cs piece) :
    piece <:+: cs :=
  hpiece.1.trans (trimChars_isInfix cs)

theorem isShorterPiece_firstArgument {cs : List Char} {generic : Generic}
    (hgeneric : generic? (trimChars cs) = some generic) :
    IsShorterPiece cs (firstArgument generic.inner) :=
  ⟨(firstArgument_isInfix _).trans (inner_isInfix hgeneric), length_firstArgument_lt hgeneric⟩

/-! ## Readings -/

/-- The arguments that are looked into one after the other, and what is found in the last. -/
inductive Reads : List Char → List (List Char) → Cardinality × List Char → Prop where
  | array {cs : List Char} (harray : endsWith ['[', ']'] (trimChars cs) = true) :
      Reads cs [] (.multiple, trimChars (dropEnd 2 (trimChars cs)))
  | collection {cs : List Char} {generic : Generic} {looks : List (List Char)}
      {shape : Cardinality × List Char}
      (harray : endsWith ['[', ']'] (trimChars cs) = false)
      (hgeneric : generic? (trimChars cs) = some generic)
      (hcollection : isNamed collectionTypes (simpleNameChars generic.name) = true)
      (hargument : Reads (firstArgument generic.inner) looks shape) :
      Reads cs (firstArgument generic.inner :: looks) (.multiple, shape.2)
  | optional {cs : List Char} {generic : Generic} {looks : List (List Char)}
      {shape : Cardinality × List Char}
      (harray : endsWith ['[', ']'] (trimChars cs) = false)
      (hgeneric : generic? (trimChars cs) = some generic)
      (hcollection : isNamed collectionTypes (simpleNameChars generic.name) = false)
      (hoptional : isNamed optionalTypes (simpleNameChars generic.name) = true)
      (hargument : Reads (firstArgument generic.inner) looks shape) :
      Reads cs (firstArgument generic.inner :: looks) shape
  | other {cs : List Char} {generic : Generic}
      (harray : endsWith ['[', ']'] (trimChars cs) = false)
      (hgeneric : generic? (trimChars cs) = some generic)
      (hcollection : isNamed collectionTypes (simpleNameChars generic.name) = false)
      (hoptional : isNamed optionalTypes (simpleNameChars generic.name) = false) :
      Reads cs [] (.single, trimChars cs)
  | plain {cs : List Char} (harray : endsWith ['[', ']'] (trimChars cs) = false)
      (hgeneric : generic? (trimChars cs) = none) :
      Reads cs [] (.single, trimChars cs)

theorem exists_reads (cs : List Char) : ∃ looks, Reads cs looks (shapeChars cs) := by
  fun_induction shapeChars cs with
  | case1 cs expression harray => exact ⟨[], .array harray⟩
  | case2 cs expression harray hgeneric => exact ⟨[], .plain (by simpa using harray) hgeneric⟩
  | case3 cs expression harray generic hgeneric outer hcollection ih =>
      obtain ⟨looks, hargument⟩ := ih
      exact ⟨_, .collection (by simpa using harray) hgeneric hcollection hargument⟩
  | case4 cs expression harray generic hgeneric outer hcollection hoptional ih =>
      obtain ⟨looks, hargument⟩ := ih
      exact ⟨_, .optional (by simpa using harray) hgeneric (by simpa using hcollection) hoptional
        hargument⟩
  | case5 cs expression harray generic hgeneric outer hcollection hoptional =>
      exact ⟨[], .other (by simpa using harray) hgeneric (by simpa using hcollection)
        (by simpa using hoptional)⟩

namespace Reads

variable {cs : List Char} {looks : List (List Char)} {shape : Cardinality × List Char}

theorem eq_shapeChars (hreads : Reads cs looks shape) : shape = shapeChars cs := by
  induction hreads with
  | array harray => rw [shapeChars_of_array harray]
  | collection harray hgeneric hcollection _ ih =>
      rw [shapeChars_of_generic harray hgeneric, if_pos hcollection, ih]
  | optional harray hgeneric hcollection hoptional _ ih =>
      rw [shapeChars_of_generic harray hgeneric, if_neg (by simp [hcollection]),
        if_pos hoptional, ih]
  | other harray hgeneric hcollection hoptional =>
      rw [shapeChars_of_generic harray hgeneric, if_neg (by simp [hcollection]),
        if_neg (by simp [hoptional])]
  | plain harray hgeneric => rw [shapeChars_of_none harray hgeneric]

theorem isChain (hreads : Reads cs looks shape) : (cs :: looks).IsChain IsShorterPiece := by
  induction hreads with
  | array | other | plain => exact .singleton _
  | collection _ hgeneric _ _ ih => exact .cons_cons (isShorterPiece_firstArgument hgeneric) ih
  | optional _ hgeneric _ _ _ ih => exact .cons_cons (isShorterPiece_firstArgument hgeneric) ih

theorem element_isInfix (hreads : Reads cs looks shape) : shape.2 <:+: cs := by
  induction hreads with
  | @array cs =>
      have hdropped : dropEnd 2 (trimChars cs) <:+: trimChars cs := (List.take_prefix _ _).isInfix
      exact (trimChars_isInfix _).trans (hdropped.trans (trimChars_isInfix cs))
  | collection _ hgeneric _ _ ih =>
      exact ih.trans (isShorterPiece_firstArgument hgeneric).isInfix
  | optional _ hgeneric _ _ _ ih =>
      exact ih.trans (isShorterPiece_firstArgument hgeneric).isInfix
  | other | plain => exact trimChars_isInfix _

theorem trimChars_element (hreads : Reads cs looks shape) : trimChars shape.2 = shape.2 := by
  induction hreads with
  | array | other | plain => exact trimChars_trimChars _
  | collection _ _ _ _ ih | optional _ _ _ _ _ ih => exact ih

end Reads

end TypeExpression

open TypeExpression

/--
Every text has a reading, which gives its shape, and in any reading each argument that is looked
into is a piece of the trimmed text before it and shorter than that.  The element is a piece of the
text without white space around it.
-/
theorem reading_ends (text : String) :
    let shape := TypeShape.ofExpression text
    (∃ looks, Reads text.toList looks (shape.cardinality, shape.element.toList)) ∧
      (∀ looks found, Reads text.toList looks found →
        found = (shape.cardinality, shape.element.toList) ∧
          (text.toList :: looks).IsChain IsShorterPiece) ∧
      shape.element.toList <:+: text.toList ∧ trim shape.element = shape.element := by
  intro shape
  have hshape : (shape.cardinality, shape.element.toList) = shapeChars text.toList := by
    simp [shape, TypeShape.ofExpression]
  obtain ⟨looks, hreads⟩ := exists_reads text.toList
  rw [← hshape] at hreads
  refine ⟨⟨looks, hreads⟩, ?_, hreads.element_isInfix, ?_⟩
  · intro others found hothers
    exact ⟨hothers.eq_shapeChars.trans hshape.symm, hothers.isChain⟩
  · rw [trim, hreads.trimChars_element, String.ofList_toList]

example : TypeShape.ofExpression " Option<List< Tag>, >>,<> " = ⟨.multiple, "Tag"⟩ := by
  decide +kernel

end ApiSurface
