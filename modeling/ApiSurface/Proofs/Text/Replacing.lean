import ApiSurface.Text.Pieces

/-!
# Replaced text

Replacing goes over a text from left to right: what stands before the first character of the piece
is kept, a piece that is met gives way to the value, and the search goes on behind it.
-/

namespace ApiSurface.Text

variable {piece value : List Char}

theorem replaceFrom_eq (skip : Nat) (cs : List Char) :
    replaceFrom piece value skip cs = replaceChars piece value (cs.drop skip) := by
  induction skip generalizing cs with
  | zero => rfl
  | succ skip ih =>
      cases cs with
      | nil => simp [replaceFrom, replaceChars]
      | cons c rest => rw [replaceFrom, ih, List.drop_succ_cons]

theorem replaceChars_of_prefix (hne : piece ≠ []) (value rest : List Char) :
    replaceChars piece value (piece ++ rest) = value ++ replaceChars piece value rest := by
  cases piece with
  | nil => exact absurd rfl hne
  | cons first tail =>
      have hprefix : (first :: tail).isPrefixOf (first :: (tail ++ rest)) = true := by
        rw [List.isPrefixOf_iff_prefix, ← List.cons_append]
        exact List.prefix_append _ _
      rw [replaceChars, List.cons_append, replaceFrom, if_pos hprefix, replaceFrom_eq]
      simp

theorem replaceChars_of_not_prefix {c : Char} {rest : List Char} (hother : ¬piece <+: c :: rest)
    (value : List Char) :
    replaceChars piece value (c :: rest) = c :: replaceChars piece value rest := by
  rw [replaceChars, replaceFrom, if_neg (by simpa using hother), replaceChars]

theorem replaceChars_append_of_notMem {first : Char} {tail cs : List Char} (hfree : first ∉ cs)
    (value rest : List Char) :
    replaceChars (first :: tail) value (cs ++ rest) =
      cs ++ replaceChars (first :: tail) value rest := by
  induction cs with
  | nil => rfl
  | cons c cs ih =>
      rw [List.mem_cons, not_or] at hfree
      obtain ⟨hne, hfree⟩ := hfree
      rw [List.cons_append, replaceChars_of_not_prefix (by simp [hne]), ih hfree, List.cons_append]

theorem replaceChars_singleton (old new : Char) (cs : List Char) :
    replaceChars [old] [new] cs = cs.map fun c => if c = old then new else c := by
  induction cs with
  | nil => rfl
  | cons c cs ih =>
      rw [List.map_cons, ← ih]
      by_cases hold : c = old
      · subst hold
        rw [if_pos rfl]
        exact replaceChars_of_prefix (by simp) [new] cs
      · rw [if_neg hold, replaceChars_of_not_prefix (by simpa using Ne.symm hold)]

theorem mem_of_mem_replaceFrom {skip : Nat} {cs : List Char} {c : Char}
    (hmem : c ∈ replaceFrom piece value skip cs) : c ∈ value ∨ c ∈ cs := by
  fun_induction replaceFrom piece value skip cs with
  | case1 => cases hmem
  | case2 skip _ rest ih => exact (ih hmem).imp_right (List.mem_cons_of_mem _)
  | case3 first rest _ ih =>
      rcases List.mem_append.mp hmem with hvalue | hrest
      · exact Or.inl hvalue
      · exact (ih hrest).imp_right (List.mem_cons_of_mem _)
  | case4 first rest _ ih =>
      rcases List.mem_cons.mp hmem with rfl | hrest
      · exact Or.inr List.mem_cons_self
      · exact (ih hrest).imp_right (List.mem_cons_of_mem _)

end ApiSurface.Text
