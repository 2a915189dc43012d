import ApiSurface.Proofs.Text.Joining
import Mathlib.Data.List.Basic

/-!
# Lines

A text without carriage returns is made of lines with a line break behind each and of what is left
behind the last break (`exists_endedLines`).  What is left is one more line, unless it is empty
(`lines_endedLines_append`), so a text that is put together from its lines again gets a break at
its end (`endedLines_lines`).
-/

namespace ApiSurface.Text

def IsLine (line : List Char) : Prop :=
  '\n' ∉ line ∧ '\r' ∉ line

theorem isLine_nil : IsLine [] :=
  ⟨List.not_mem_nil, List.not_mem_nil⟩

def endedLines (lines : List (List Char)) : List Char :=
  lines.flatMap (· ++ ['\n'])

variable {line last cs : List Char} {ended : List (List Char)}

theorem endedLines_cons (line : List Char) (ended : List (List Char)) :
    endedLines (line :: ended) = line ++ '\n' :: endedLines ended := by
  simp [endedLines]

theorem endedLines_concat (ended : List (List Char)) (line : List Char) :
    endedLines (ended ++ [line]) = endedLines ended ++ line ++ ['\n'] := by
  simp [endedLines]

/-! ## Cutting at line breaks -/

theorem splitAt_endedLines_append (hended : ∀ line ∈ ended, IsLine line) (hlast : IsLine last) :
    splitAt (· == '\n') (endedLines ended ++ last) = ended ++ [last] := by
  induction ended with
  | nil => exact splitAt_of_notMem hlast.1
  | cons line ended ih =>
      obtain ⟨hline, hended⟩ := List.forall_mem_cons.mp hended
      rw [endedLines_cons, List.append_assoc, List.cons_append, splitAt_append_cons,
        splitAt_of_notMem hline.1, ih hended, List.singleton_append, List.cons_append]

theorem withoutCarriageReturn_eq_self (hline : IsLine line) :
    withoutCarriageReturn line = line := by
  refine if_neg fun hreturn => hline.2 ?_
  exact List.mem_of_getLast? (by simpa using hreturn)

/-! ## Lines of a text -/

theorem lines_endedLines_append (hended : ∀ line ∈ ended, IsLine line) (hlast : IsLine last) :
    lines (endedLines ended ++ last) = if last = [] then ended else ended ++ [last] := by
  have hkept : ended.map withoutCarriageReturn = ended :=
    (List.map_congr_left fun line hline =>
      withoutCarriageReturn_eq_self (hended line hline)).trans (List.map_id ended)
  simp [lines, splitAt_endedLines_append hended hlast, hkept]

theorem lines_endedLines (hended : ∀ line ∈ ended, IsLine line) :
    lines (endedLines ended) = ended := by
  simpa using lines_endedLines_append hended isLine_nil

theorem exists_endedLines (hreturns : '\r' ∉ cs) : ∃ ended last,
    (∀ line ∈ ended, IsLine line) ∧ IsLine last ∧ cs = endedLines ended ++ last := by
  induction cs with
  | nil => exact ⟨[], [], by simp, isLine_nil, rfl⟩
  | cons c cs ih =>
      rw [List.mem_cons, not_or] at hreturns
      obtain ⟨hreturn, hreturns⟩ := hreturns
      obtain ⟨ended, last, hended, hlast, rfl⟩ := ih hreturns
      by_cases hbreak : c = '\n'
      · subst hbreak
        exact ⟨[] :: ended, last, List.forall_mem_cons.mpr ⟨isLine_nil, hended⟩, hlast, rfl⟩
      · -- the character belongs to the first line, if there is one
        have hfront {line : List Char} (hline : IsLine line) : IsLine (c :: line) :=
          ⟨by simp [Ne.symm hbreak, hline.1], by simp [hreturn, hline.2]⟩
        cases ended with
        | nil => exact ⟨[], c :: last, hended, hfront hlast, rfl⟩
        | cons line ended =>
            obtain ⟨hline, hended⟩ := List.forall_mem_cons.mp hended
            exact ⟨(c :: line) :: ended, last,
              List.forall_mem_cons.mpr ⟨hfront hline, hended⟩, hlast, rfl⟩

theorem isLine_of_mem_lines (hreturns : '\r' ∉ cs) : ∀ line ∈ lines cs, IsLine line := by
  obtain ⟨ended, last, hended, hlast, rfl⟩ := exists_endedLines hreturns
  rw [lines_endedLines_append hended hlast]
  split
  · exact hended
  · exact List.forall_mem_append.mpr ⟨hended, by simpa using hlast⟩

/-! ## The end of a text -/

theorem getLast?_endedLines (hne : ended ≠ []) : (endedLines ended).getLast? = some '\n' := by
  obtain ⟨front, line, rfl⟩ := (List.eq_nil_or_concat' ended).resolve_left hne
  rw [endedLines_concat, List.getLast?_concat]

/-- A break is added behind a last line that has none. -/
theorem endedLines_lines (hreturns : '\r' ∉ cs) :
    endedLines (lines cs) =
      if cs = [] ∨ cs.getLast? = some '\n' then cs else cs ++ ['\n'] := by
  obtain ⟨ended, last, hended, hlast, rfl⟩ := exists_endedLines hreturns
  rw [lines_endedLines_append hended hlast]
  by_cases hempty : last = []
  · have hends : endedLines ended = [] ∨ (endedLines ended).getLast? = some '\n' := by
      by_cases hnone : ended = []
      · exact .inl (by rw [hnone]; rfl)
      · exact .inr (getLast?_endedLines hnone)
    simp [hempty, hends]
  · have hopen : last.getLast? ≠ some '\n' := fun hbreak => hlast.1 (List.mem_of_getLast? hbreak)
    simp [hempty, endedLines_concat, List.getLast?_append_of_ne_nil _ hempty, hopen]

theorem lines_ne_nil (hreturns : '\r' ∉ cs) (hne : cs ≠ []) : lines cs ≠ [] := by
  intro hnone
  have htext := endedLines_lines hreturns
  rw [hnone] at htext
  split at htext
  · exact hne htext.symm
  · simp [endedLines] at htext

end ApiSurface.Text
