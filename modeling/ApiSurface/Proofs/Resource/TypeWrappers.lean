import ApiSurface.Proofs.Naming.SimpleName
import ApiSurface.Proofs.Resource.TypeArguments
import ApiSurface.Proofs.Text.Trimming

/-!
# Types that wrap others

A collection or optional type around an expression is looked through, however it is spelled: in a
namespace or without one, with white space anywhere between the parts, and with further type
arguments behind the first.  One wrapper adds at most that there are many values
(`shapeChars_enclose`), so any number of them leaves the element and counts the collections
(`shape_of_wrapped`).
-/

namespace ApiSurface

open Naming Text

namespace TypeExpression

/-! ## Names of generic types -/

def IsTypeName (name : List Char) : Prop :=
  startsName name = true ∧ name.all isNameChar = true

def wrapperTypes : List String :=
  collectionTypes ++ optionalTypes

def IsWrapperName (name : List Char) : Prop :=
  IsTypeName name ∧ ∃ known ∈ wrapperTypes, EndsInName known.toList name

instance (name : List Char) : Decidable (IsTypeName name) :=
  inferInstanceAs (Decidable (_ ∧ _))

theorem isAscii_of_isAlpha {c : Char} (hletter : c.isAlpha = true) : isAscii c = true := by
  have hsmall : c.toNat ≤ 'z'.toNat := by
    rcases Bool.or_eq_true_iff.mp hletter with hupper | hlower
    · have hlast : c ≤ 'Z' := (of_decide_eq_true hupper).2
      exact Nat.le_trans hlast (by decide)
    · exact of_decide_eq_true (Bool.and_eq_true_iff.mp hlower).2
  exact decide_eq_true (Nat.lt_of_le_of_lt hsmall (by decide))

theorem isNameChar_of_isAlpha {c : Char} (hletter : c.isAlpha = true) : isNameChar c = true := by
  rw [isNameChar, isWord, if_pos (isAscii_of_isAlpha hletter), Char.isAlphanum, hletter]
  rfl

theorem startsName_takeWhile {cs : List Char} (hstart : startsName cs = true) :
    startsName (cs.takeWhile isNameChar) = true := by
  rcases cs with _ | ⟨c, rest⟩
  · cases hstart
  · have hc : isNameChar c = true := by
      rcases Bool.or_eq_true_iff.mp hstart with hletter | hunderscore
      · exact isNameChar_of_isAlpha hletter
      · rw [beq_iff_eq.mp hunderscore]
        decide
    rw [List.takeWhile_cons_of_pos hc]
    exact hstart

theorem isNameChar_of_isBlank {c : Char} (hblank : isBlank c = true) : isNameChar c = false := by
  have hcolon : c ≠ ':' := by
    rintro rfl
    cases hblank
  have hdot : c ≠ '.' := by
    rintro rfl
    cases hblank
  simp [isNameChar, isWord_of_isBlank hblank, hcolon, hdot]

theorem notMem_of_forall {holds : Char → Bool} {cs : List Char}
    (hcs : ∀ c ∈ cs, holds c = true) {c : Char} (hc : holds c = false) : c ∉ cs := by
  intro hmem
  rw [hcs c hmem] at hc
  cases hc

theorem notMem_of_isTypeName {name : List Char} (hname : IsTypeName name) {c : Char}
    (hc : isNameChar c = false) : c ∉ name :=
  notMem_of_forall (List.all_eq_true.mp hname.2) hc

theorem isBlank_eq_false_of_mem {name : List Char} (hname : IsTypeName name) {c : Char}
    (hmem : c ∈ name) : isBlank c = false := by
  rw [Bool.eq_false_iff]
  intro hblank
  exact notMem_of_isTypeName hname (isNameChar_of_isBlank hblank) hmem

theorem trimChars_of_isTypeName {name : List Char} (hname : IsTypeName name) :
    trimChars name = name :=
  trimChars_of_forall fun _ hmem => isBlank_eq_false_of_mem hname hmem

theorem simpleNameChars_eq_known_iff {name : List Char} (hname : IsTypeName name)
    {known : String} (hknown : known ∈ wrapperTypes) :
    simpleNameChars name = known.toList ↔ EndsInName known.toList name := by
  have hplain : ∀ known ∈ wrapperTypes, '.' ∉ known.toList ∧ ':' ∉ known.toList := by decide
  obtain ⟨hdot, hcolon⟩ := hplain known hknown
  exact simpleNameChars_eq_iff hdot hcolon (notMem_of_isTypeName hname (by decide))

theorem isWrapperName_iff {name : List Char} :
    IsWrapperName name ↔
      IsTypeName name ∧ ∃ known ∈ wrapperTypes, simpleNameChars name = known.toList := by
  refine and_congr_right fun hname => exists_congr fun known => and_congr_right fun hknown => ?_
  exact (simpleNameChars_eq_known_iff hname hknown).symm

instance (name : List Char) : Decidable (IsWrapperName name) :=
  decidable_of_iff _ isWrapperName_iff.symm

theorem isNamed_toList (names : List String) (known : String) :
    isNamed names known.toList = decide (known ∈ names) := by
  rw [Bool.eq_iff_iff]
  simp [isNamed, String.toList_inj]

theorem isNamed_eq_false {names : List String} {name : List Char}
    (hother : ∀ known ∈ names, known.toList ≠ name) : isNamed names name = false := by
  simpa [isNamed] using hother

/-! ## Expressions with type arguments -/

theorem holdsArguments_of_notMem {inner : List Char} (hne : inner ≠ []) (hline : '\n' ∉ inner) :
    holdsArguments inner = true := by
  unfold holdsArguments
  by_cases hblank : (trimChars inner).isEmpty
  · obtain ⟨c, hc⟩ := List.exists_mem_of_ne_nil inner hne
    have hother : c ≠ '\n' := fun heq => hline (heq ▸ hc)
    rw [if_pos hblank, List.any_eq_true]
    exact ⟨c, hc, by simpa using hother⟩
  · have hcore : '\n' ∉ trimChars inner := fun hmem =>
      hline ((trimChars_isInfix inner).subset hmem)
    simpa [hblank] using hcore

theorem generic?_append {name gap inner : List Char} (hname : IsTypeName name)
    (hgap : ∀ c ∈ gap, isBlank c = true) (hinner : holdsArguments inner = true) :
    generic? (name ++ gap ++ '<' :: (inner ++ ['>'])) = some ⟨name, inner⟩ := by
  obtain ⟨hstart, hchars⟩ := hname
  rw [List.all_eq_true] at hchars
  -- neither white space nor the bracket belongs to the name
  have hbehind : (gap ++ '<' :: (inner ++ ['>'])).takeWhile isNameChar = [] ∧
      (gap ++ '<' :: (inner ++ ['>'])).dropWhile isNameChar = gap ++ '<' :: (inner ++ ['>']) := by
    rcases gap with _ | ⟨c, gap⟩
    · exact ⟨rfl, rfl⟩
    · have hc := isNameChar_of_isBlank (hgap c List.mem_cons_self)
      exact ⟨List.takeWhile_cons_of_neg (by simp [hc]), List.dropWhile_cons_of_neg (by simp [hc])⟩
  have hstarts : startsName (name ++ gap ++ '<' :: (inner ++ ['>'])) = true := by
    rcases name with _ | ⟨c, name⟩
    · cases hstart
    · exact hstart
  have htake : (name ++ gap ++ '<' :: (inner ++ ['>'])).takeWhile isNameChar = name := by
    rw [List.append_assoc, List.takeWhile_append_of_pos hchars, hbehind.1, List.append_nil]
  have hdrop : ((name ++ gap ++ '<' :: (inner ++ ['>'])).dropWhile isNameChar).dropWhile isBlank =
      '<' :: (inner ++ ['>']) := by
    rw [List.append_assoc, List.dropWhile_append_of_pos hchars, hbehind.2,
      List.dropWhile_append_of_pos hgap]
    rfl
  unfold generic?
  rw [if_pos hstarts, hdrop, htake]
  simp [hinner]

theorem exists_of_generic? {expression : List Char} {generic : Generic}
    (hgeneric : generic? expression = some generic) :
    IsTypeName generic.name ∧ ∃ gap rest, (∀ c ∈ gap, isBlank c = true) ∧
      expression = generic.name ++ gap ++ '<' :: rest := by
  unfold generic? at hgeneric
  split at hgeneric
  · next hstart =>
      split at hgeneric
      · next rest hrest =>
          split at hgeneric
          · cases hgeneric
            refine ⟨⟨startsName_takeWhile hstart, List.all_takeWhile⟩,
              (expression.dropWhile isNameChar).takeWhile isBlank, rest,
              fun c hc => List.mem_takeWhile_imp hc, ?_⟩
            rw [List.append_assoc, ← hrest, List.takeWhile_append_dropWhile,
              List.takeWhile_append_dropWhile]
          · cases hgeneric
      · cases hgeneric
  · cases hgeneric

/-! ## The ways an expression is read -/

section

variable {cs : List Char}

theorem shapeChars_of_array (harray : endsWith ['[', ']'] (trimChars cs) = true) :
    shapeChars cs = (.multiple, trimChars (dropEnd 2 (trimChars cs))) := by
  rw [shapeChars.eq_1, if_pos harray]

theorem shapeChars_of_none (harray : endsWith ['[', ']'] (trimChars cs) = false)
    (hgeneric : generic? (trimChars cs) = none) : shapeChars cs = (.single, trimChars cs) := by
  rw [shapeChars.eq_1, if_neg (by simp [harray])]
  split
  · rfl
  · next generic hsome =>
      rw [hgeneric] at hsome
      cases hsome

theorem shapeChars_of_generic {generic : Generic}
    (harray : endsWith ['[', ']'] (trimChars cs) = false)
    (hgeneric : generic? (trimChars cs) = some generic) :
    shapeChars cs =
      if isNamed collectionTypes (simpleNameChars generic.name) then
        (.multiple, (shapeChars (firstArgument generic.inner)).2)
      else if isNamed optionalTypes (simpleNameChars generic.name) then
        shapeChars (firstArgument generic.inner)
      else
        (.single, trimChars cs) := by
  rw [shapeChars.eq_1, if_neg (by simp [harray])]
  split
  · next hnone =>
      rw [hgeneric] at hnone
      cases hnone
  · next found hsome =>
      rw [hgeneric] at hsome
      cases hsome
      rfl

theorem shapeChars_trimChars (cs : List Char) : shapeChars (trimChars cs) = shapeChars cs := by
  rw [shapeChars.eq_1, shapeChars.eq_1 cs, trimChars_trimChars]

end

/-! ## Expressions and elements -/

structure IsExpression (cs : List Char) : Prop extends IsArgument cs where
  ne_nil : cs ≠ []
  one_line : '\n' ∉ cs

/-- A trimmed expression that is no array and no collection or optional type. -/
structure IsElement (cs : List Char) : Prop extends IsExpression cs where
  trimmed : trimChars cs = cs
  no_array : ¬ ['[', ']'] <:+ cs
  no_wrapper : '<' ∈ cs → ¬ IsWrapperName (trimChars (cs.takeWhile (· != '<')))

instance (cs : List Char) : Decidable (IsExpression cs) :=
  decidable_of_iff (IsArgument cs ∧ cs ≠ [] ∧ '\n' ∉ cs)
    ⟨fun ⟨hargument, hne, hline⟩ => ⟨hargument, hne, hline⟩,
      fun h => ⟨h.toIsArgument, h.ne_nil, h.one_line⟩⟩

instance (cs : List Char) : Decidable (IsElement cs) :=
  decidable_of_iff
    (IsExpression cs ∧ trimChars cs = cs ∧ ¬ ['[', ']'] <:+ cs ∧
      ('<' ∈ cs → ¬ IsWrapperName (trimChars (cs.takeWhile (· != '<')))))
    ⟨fun ⟨hexpression, htrimmed, harray, hwrapper⟩ =>
        ⟨hexpression, htrimmed, harray, hwrapper⟩,
      fun h => ⟨h.toIsExpression, h.trimmed, h.no_array, h.no_wrapper⟩⟩

theorem IsElement.shapeChars_eq {cs : List Char} (helement : IsElement cs) :
    shapeChars cs = (.single, cs) := by
  have harray : endsWith ['[', ']'] (trimChars cs) = false := by
    rw [helement.trimmed, endsWith, Bool.eq_false_iff, ne_eq, List.isSuffixOf_iff_suffix]
    exact helement.no_array
  cases hgeneric : generic? (trimChars cs) with
  | none => rw [shapeChars_of_none harray hgeneric, helement.trimmed]
  | some generic =>
      obtain ⟨hname, gap, rest, hgap, heq⟩ := exists_of_generic? hgeneric
      rw [helement.trimmed] at heq
      have hopen : '<' ∉ generic.name ++ gap := by
        rw [List.mem_append, not_or]
        exact ⟨notMem_of_isTypeName hname (by decide), notMem_of_forall hgap (by decide)⟩
      have hbefore : cs.takeWhile (· != '<') = generic.name ++ gap := by
        rw [heq, List.takeWhile_append_of_pos fun c hc => by
          rw [bne_iff_ne]
          rintro rfl
          exact hopen hc]
        simp
      have hother : ∀ known ∈ wrapperTypes, known.toList ≠ simpleNameChars generic.name := by
        intro known hknown hsimple
        refine helement.no_wrapper (by simp [heq]) ?_
        rw [hbefore, trimChars_append_right hgap, trimChars_of_isTypeName hname]
        exact isWrapperName_iff.mpr ⟨hname, known, hknown, hsimple.symm⟩
      have hcollection : isNamed collectionTypes (simpleNameChars generic.name) = false :=
        isNamed_eq_false fun known hknown => hother known (List.mem_append_left _ hknown)
      have hoptional : isNamed optionalTypes (simpleNameChars generic.name) = false :=
        isNamed_eq_false fun known hknown => hother known (List.mem_append_right _ hknown)
      rw [shapeChars_of_generic harray hgeneric, hcollection, hoptional, helement.trimmed]
      rfl

/-! ## Wrappers -/

structure Gap where
  chars : List Char
  all_blank : chars.all isBlank = true
  one_line : '\n' ∉ chars

def Gap.empty : Gap :=
  ⟨[], by decide, by decide⟩

def Gap.space : Gap :=
  ⟨[' '], by decide, by decide⟩

/-- A collection or optional type with all that may be written around its first type argument. -/
structure Wrapper where
  known : String
  name : List Char
  /-- The type arguments behind the first, each with the white space around it. -/
  further : List (List Char)
  before : Gap
  behindName : Gap
  behindOpen : Gap
  behindFirst : Gap
  behind : Gap
  known_mem : known ∈ wrapperTypes
  isTypeName : IsTypeName name
  endsInName : EndsInName known.toList name
  further_balanced : ∀ argument ∈ further, IsBalanced argument
  further_one_line : ∀ argument ∈ further, '\n' ∉ argument

namespace Wrapper

def plain (known : String) (hknown : known ∈ wrapperTypes) (hname : IsTypeName known.toList) :
    Wrapper where
  known := known
  name := known.toList
  further := []
  before := .empty
  behindName := .empty
  behindOpen := .empty
  behindFirst := .empty
  behind := .empty
  known_mem := hknown
  isTypeName := hname
  endsInName := .inl rfl
  further_balanced := by simp
  further_one_line := by simp

variable (wrapper : Wrapper) (cs : List Char)

def isCollection : Bool :=
  wrapper.known ∈ collectionTypes

def inner : List Char :=
  wrapper.behindOpen.chars ++ cs ++ wrapper.behindFirst.chars ++ afterCommas wrapper.further

def core : List Char :=
  wrapper.name ++ wrapper.behindName.chars ++ '<' :: (wrapper.inner cs ++ ['>'])

def enclose : List Char :=
  wrapper.before.chars ++ wrapper.core cs ++ wrapper.behind.chars

def encloseAll (wrappers : List Wrapper) (cs : List Char) : List Char :=
  wrappers.foldr enclose cs

end Wrapper

theorem Gap.blank (gap : Gap) : ∀ c ∈ gap.chars, isBlank c = true :=
  List.all_eq_true.mp gap.all_blank

theorem Gap.isArgument (gap : Gap) : IsArgument gap.chars :=
  isArgument_of_notMem (notMem_of_forall gap.blank (by decide))
    (notMem_of_forall gap.blank (by decide)) (notMem_of_forall gap.blank (by decide))

section

variable {wrapper : Wrapper} {cs : List Char}

theorem newline_notMem_afterCommas {further : List (List Char)}
    (hfurther : ∀ argument ∈ further, '\n' ∉ argument) : '\n' ∉ afterCommas further := by
  rw [afterCommas, List.mem_flatMap]
  rintro ⟨argument, hargument, hmem⟩
  rcases List.mem_cons.mp hmem with heq | hmem
  · cases heq
  · exact hfurther argument hargument hmem

theorem newline_notMem_inner (hcs : IsExpression cs) : '\n' ∉ wrapper.inner cs := by
  simp only [Wrapper.inner, List.mem_append, not_or]
  exact ⟨⟨⟨wrapper.behindOpen.one_line, hcs.one_line⟩, wrapper.behindFirst.one_line⟩,
    newline_notMem_afterCommas wrapper.further_one_line⟩

theorem inner_ne_nil (hcs : IsExpression cs) : wrapper.inner cs ≠ [] := by
  simp [Wrapper.inner, hcs.ne_nil]

theorem isArgument_first (hcs : IsExpression cs) :
    IsArgument (wrapper.behindOpen.chars ++ cs ++ wrapper.behindFirst.chars) :=
  (wrapper.behindOpen.isArgument.append hcs.toIsArgument).append wrapper.behindFirst.isArgument

theorem isBalanced_inner (hcs : IsExpression cs) : IsBalanced (wrapper.inner cs) :=
  (isArgument_first hcs).toIsBalanced.append (isBalanced_afterCommas wrapper.further_balanced)

theorem firstArgument_inner (hcs : IsExpression cs) :
    firstArgument (wrapper.inner cs) = trimChars cs := by
  rw [Wrapper.inner, firstArgument_append_afterCommas (isArgument_first hcs),
    trimChars_between wrapper.behindOpen.blank wrapper.behindFirst.blank]

theorem generic?_core (hcs : IsExpression cs) :
    generic? (wrapper.core cs) = some ⟨wrapper.name, wrapper.inner cs⟩ :=
  generic?_append wrapper.isTypeName wrapper.behindName.blank
    (holdsArguments_of_notMem (inner_ne_nil hcs) (newline_notMem_inner hcs))

theorem endsWith_core (wrapper : Wrapper) (cs : List Char) :
    endsWith ['[', ']'] (wrapper.core cs) = false := by
  rw [endsWith, Bool.eq_false_iff, ne_eq, List.isSuffixOf_iff_suffix]
  rintro ⟨before, heq⟩
  have hlast : (before ++ ['[']) ++ [']'] =
      (wrapper.name ++ wrapper.behindName.chars ++ '<' :: wrapper.inner cs) ++ ['>'] := by
    simpa [Wrapper.core] using heq
  exact absurd (List.append_inj_right' hlast rfl) (by decide)

theorem trimChars_core (wrapper : Wrapper) (cs : List Char) :
    trimChars (wrapper.core cs) = wrapper.core cs := by
  have hisName := wrapper.isTypeName
  cases hname : wrapper.name with
  | nil =>
      rw [hname] at hisName
      cases hisName.1
  | cons first rest =>
      have hfirst : isBlank first = false := isBlank_eq_false_of_mem hisName (by simp [hname])
      have hcore : wrapper.core cs =
          first :: (rest ++ wrapper.behindName.chars ++ '<' :: wrapper.inner cs ++ ['>']) := by
        simp [Wrapper.core, hname]
      rw [hcore, trimChars_eq_self hfirst (by decide)]

theorem trimChars_enclose (wrapper : Wrapper) (cs : List Char) :
    trimChars (wrapper.enclose cs) = wrapper.core cs := by
  rw [Wrapper.enclose, trimChars_between wrapper.before.blank wrapper.behind.blank,
    trimChars_core]

theorem isExpression_enclose (hcs : IsExpression cs) : IsExpression (wrapper.enclose cs) where
  toIsArgument := by
    have hname : IsArgument wrapper.name :=
      isArgument_of_notMem (notMem_of_isTypeName wrapper.isTypeName (by decide))
        (notMem_of_isTypeName wrapper.isTypeName (by decide))
        (notMem_of_isTypeName wrapper.isTypeName (by decide))
    have hcore : IsArgument (wrapper.core cs) :=
      (hname.append wrapper.behindName.isArgument).append (isBalanced_inner hcs).enclosed
    exact (wrapper.before.isArgument.append hcore).append wrapper.behind.isArgument
  ne_nil := by simp [Wrapper.enclose, Wrapper.core]
  one_line := by
    have hname : '\n' ∉ wrapper.name := notMem_of_isTypeName wrapper.isTypeName (by decide)
    have hinner : '\n' ∉ wrapper.inner cs := newline_notMem_inner hcs
    simp [Wrapper.enclose, Wrapper.core, hname, hinner, wrapper.before.one_line,
      wrapper.behindName.one_line, wrapper.behind.one_line]

theorem shapeChars_enclose (wrapper : Wrapper) (hcs : IsExpression cs) :
    shapeChars (wrapper.enclose cs) =
      if wrapper.isCollection then (.multiple, (shapeChars cs).2) else shapeChars cs := by
  have htrim := trimChars_enclose wrapper cs
  have harray : endsWith ['[', ']'] (trimChars (wrapper.enclose cs)) = false := by
    rw [htrim, endsWith_core]
  have hgeneric : generic? (trimChars (wrapper.enclose cs)) =
      some ⟨wrapper.name, wrapper.inner cs⟩ := by
    rw [htrim, generic?_core hcs]
  have hsimple : simpleNameChars wrapper.name = wrapper.known.toList :=
    (simpleNameChars_eq_known_iff wrapper.isTypeName wrapper.known_mem).mpr wrapper.endsInName
  rw [shapeChars_of_generic harray hgeneric, firstArgument_inner hcs, shapeChars_trimChars,
    hsimple, isNamed_toList]
  by_cases hcollection : wrapper.known ∈ collectionTypes
  · simp [Wrapper.isCollection, hcollection]
  · have hoptional : wrapper.known ∈ optionalTypes :=
      (List.mem_append.mp wrapper.known_mem).resolve_left hcollection
    simp [Wrapper.isCollection, isNamed_toList, hcollection, hoptional]

end

/-! ## Any number of wrappers -/

theorem shapeChars_encloseAll {cs : List Char} (helement : IsElement cs)
    (wrappers : List Wrapper) :
    IsExpression (Wrapper.encloseAll wrappers cs) ∧
      shapeChars (Wrapper.encloseAll wrappers cs) =
        (if wrappers.any Wrapper.isCollection then .multiple else .single, cs) := by
  -- that an expression in a wrapper is an expression again carries the induction
  induction wrappers with
  | nil => exact ⟨helement.toIsExpression, helement.shapeChars_eq⟩
  | cons wrapper wrappers ih =>
      obtain ⟨hexpression, hshape⟩ := ih
      refine ⟨isExpression_enclose hexpression, ?_⟩
      change shapeChars (wrapper.enclose (Wrapper.encloseAll wrappers cs)) = _
      rw [shapeChars_enclose wrapper hexpression, hshape, List.any_cons]
      cases wrapper.isCollection <;> rfl

end TypeExpression

open TypeExpression

/--
An element in any number of collection and optional types is found as it is written, and stands
for many values if and only if one of the types around it is a collection.
-/
theorem shape_of_wrapped {element : String} (helement : IsElement element.toList)
    (wrappers : List Wrapper) :
    let shape := TypeShape.ofExpression (.ofList (Wrapper.encloseAll wrappers element.toList))
    shape.element = element ∧
      (shape.cardinality = .multiple ↔ ∃ wrapper ∈ wrappers, wrapper.known ∈ collectionTypes) := by
  intro shape
  have hshape : shape =
      ⟨if wrappers.any Wrapper.isCollection then .multiple else .single, element⟩ := by
    obtain ⟨-, hchars⟩ := shapeChars_encloseAll helement wrappers
    simp only [shape, TypeShape.ofExpression, String.toList_ofList, hchars, String.ofList_toList]
  rw [hshape]
  refine ⟨rfl, ?_⟩
  have hany : wrappers.any Wrapper.isCollection = true ↔
      ∃ wrapper ∈ wrappers, wrapper.known ∈ collectionTypes := by
    simp [Wrapper.isCollection]
  rw [← hany]
  cases wrappers.any Wrapper.isCollection <;> simp

def optionWrapper : Wrapper where
  known := "Option"
  name := "std::option::Option".toList
  further := []
  before := .space
  behindName := .space
  behindOpen := .space
  behindFirst := .space
  behind := .empty
  known_mem := by decide
  isTypeName := by decide
  endsInName := .inr ⟨"std::option".toList, .colons, by decide⟩
  further_balanced := by decide
  further_one_line := by decide

def listWrapper : Wrapper where
  known := "List"
  name := "java.util.List".toList
  further := [" Pair<A, B>".toList]
  before := .empty
  behindName := .empty
  behindOpen := .empty
  behindFirst := .space
  behind := .empty
  known_mem := by decide
  isTypeName := by decide
  endsInName := .inr ⟨"java.util".toList, .dot, by decide⟩
  further_balanced := by decide
  further_one_line := by decide

theorem optionalMaps_shape :
    let text := " std::option::Option < java.util.List<shop.Map<String, Tag> , Pair<A, B>> >"
    IsElement "shop.Map<String, Tag>".toList ∧
      text = .ofList (Wrapper.encloseAll [optionWrapper, listWrapper]
        "shop.Map<String, Tag>".toList) ∧
      (TypeShape.ofExpression text).element = "shop.Map<String, Tag>" ∧
      (TypeShape.ofExpression text).cardinality = .multiple := by
  intro text
  have helement : IsElement "shop.Map<String, Tag>".toList := by decide
  have htext : text = .ofList (Wrapper.encloseAll [optionWrapper, listWrapper]
      "shop.Map<String, Tag>".toList) := by decide +kernel
  obtain ⟨hshape, hcardinality⟩ := shape_of_wrapped helement [optionWrapper, listWrapper]
  rw [← htext] at hshape hcardinality
  have hcollection : listWrapper.known ∈ collectionTypes := by decide
  exact ⟨helement, htext, hshape, hcardinality.mpr ⟨listWrapper, by simp, hcollection⟩⟩

end ApiSurface
