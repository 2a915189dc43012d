import ApiSurface.Proofs.Naming.SimpleName
import Mathlib.Data.List.Infix

/-!
# Qualified names

A name is qualified if it has a separator anywhere.  The simple name of an id has none, the parts
of the id put together are the id again, and a name that was put into a namespace stays as it is
when this is done a second time (`laws_of_qualify`).
-/

namespace ApiSurface

namespace Text

theorem containsChars_iff {piece cs : List Char} :
    containsChars piece cs = true ↔ piece <:+: cs := by
  induction cs with
  | nil => simp [containsChars]
  | cons c rest ih => simp [containsChars, ih, List.infix_cons_iff]

end Text

namespace Naming

open Text

/-! ## Parts of an id -/

theorem isQualified_iff {name : String} : isQualified name = true ↔ HasSeparator name.toList := by
  rw [isQualified, Bool.or_eq_true, containsChars_iff, List.contains_iff_mem,
    ← List.singleton_infix_iff]
  constructor
  · rintro (hdot | hcolons)
    · exact ⟨.dot, hdot⟩
    · exact ⟨.colons, hcolons⟩
  · rintro ⟨_ | _, hseparator⟩
    · exact .inl hseparator
    · exact .inr hseparator

section

variable {id : String}

theorem append_simpleName {space : String} {separator : Separator}
    (hspace : namespaceOf? id = some (space, separator)) :
    space ++ separator.text ++ simpleName id = id := by
  obtain ⟨split, hsplit, hparts⟩ := Option.map_eq_some_iff.mp hspace
  cases hparts
  have hlast : splitLast? id.toList = some split := by
    unfold splitId? at hsplit
    split at hsplit
    · cases hsplit
    · exact hsplit
  rw [simpleName, simpleNameChars, hsplit, Separator.text, ← String.ofList_append,
    ← String.ofList_append, ← append_of_splitLast? hlast, String.ofList_toList]

theorem isQualified_simpleName (harguments : '<' ∉ id.toList) :
    isQualified (simpleName id) = false := by
  rw [Bool.eq_false_iff, ne_eq, isQualified_iff, simpleName, String.toList_ofList, simpleNameChars,
    splitId?, if_neg (by simpa using harguments)]
  cases hsplit : splitLast? id.toList with
  | some split => exact not_hasSeparator_simple hsplit
  | none => exact splitLast?_eq_none_iff.mp hsplit

theorem simpleName_of_namespaceOf?_eq_none (hspace : namespaceOf? id = none) :
    simpleName id = id := by
  have hsplit : splitId? id.toList = none := Option.map_eq_none_iff.mp hspace
  rw [simpleName, simpleNameChars, hsplit, String.ofList_toList]

theorem namespaceOf?_of_arguments (harguments : '<' ∈ id.toList) : namespaceOf? id = none := by
  rw [namespaceOf?, splitId?, if_pos (by simpa using harguments)]
  rfl

end

/-! ## Names in a namespace -/

theorem qualify_of_isQualified {name : String} (hname : isQualified name = true)
    (sibling : String) : qualify name sibling = name :=
  if_pos hname

theorem qualify_of_none {sibling : String} (hspace : namespaceOf? sibling = none) (name : String) :
    qualify name sibling = name := by
  rw [qualify, hspace, ite_self]

theorem qualify_of_some {name sibling space : String} {separator : Separator}
    (hname : isQualified name = false) (hspace : namespaceOf? sibling = some (space, separator)) :
    qualify name sibling = space ++ separator.text ++ name := by
  rw [qualify, if_neg (by simp [hname]), hspace]

theorem isQualified_append (space : String) (separator : Separator) (name : String) :
    isQualified (space ++ separator.text ++ name) = true := by
  refine isQualified_iff.mpr ⟨separator, space.toList, name.toList, ?_⟩
  simp [Separator.text]

theorem qualify_simpleName (id : String) : qualify (simpleName id) id = id := by
  cases hspace : namespaceOf? id with
  | none => rw [qualify_of_none hspace, simpleName_of_namespaceOf?_eq_none hspace]
  | some parts =>
      have harguments : '<' ∉ id.toList := by
        intro hmem
        rw [namespaceOf?_of_arguments hmem] at hspace
        cases hspace
      rw [qualify_of_some (isQualified_simpleName harguments) hspace, append_simpleName hspace]

theorem qualify_qualify (name sibling : String) :
    qualify (qualify name sibling) sibling = qualify name sibling := by
  by_cases hname : isQualified name = true
  · rw [qualify_of_isQualified hname, qualify_of_isQualified hname]
  · rw [Bool.not_eq_true] at hname
    cases hspace : namespaceOf? sibling with
    | none => rw [qualify_of_none hspace, qualify_of_none hspace]
    | some parts =>
        rw [qualify_of_some hname hspace, qualify_of_isQualified (isQualified_append _ _ _)]

/-- Taking an id apart and putting it together are inverse, for any mixture of dots and colons. -/
theorem laws_of_qualify (id name sibling : String) :
    (∀ space separator, namespaceOf? id = some (space, separator) →
        space ++ separator.text ++ simpleName id = id) ∧
      ('<' ∉ id.toList → isQualified (simpleName id) = false) ∧
      qualify (simpleName id) id = id ∧
      qualify (qualify name sibling) sibling = qualify name sibling := by
  refine ⟨?_, isQualified_simpleName, qualify_simpleName id, qualify_qualify name sibling⟩
  intro space separator hspace
  exact append_simpleName hspace

theorem colonRun_laws :
    namespaceOf? "shop.model:::Order" = some ("shop.model:", .colons) ∧
      "shop.model:" ++ Separator.colons.text ++ simpleName "shop.model:::Order" =
        "shop.model:::Order" ∧
      '<' ∉ "shop.model:::Order".toList ∧ isQualified (simpleName "shop.model:::Order") = false ∧
      qualify (qualify "Line" "shop.model:::Order") "shop.model:::Order" = "shop.model:::Line" := by
  have hspace : namespaceOf? "shop.model:::Order" = some ("shop.model:", .colons) := by
    decide +kernel
  have harguments : '<' ∉ "shop.model:::Order".toList := by decide
  obtain ⟨happend, hsimple, -, hagain⟩ :=
    laws_of_qualify "shop.model:::Order" "Line" "shop.model:::Order"
  refine ⟨hspace, happend _ _ hspace, harguments, hsimple harguments, hagain.trans ?_⟩
  decide +kernel

end Naming

end ApiSurface
