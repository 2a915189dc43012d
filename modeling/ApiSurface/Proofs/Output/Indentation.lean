import ApiSurface.Output.Source
import ApiSurface.Proofs.Text.Lines

/-!
# Texts in another indentation

A line keeps everything but the units at its front, and a text keeps its lines and their order
(`reindent_lines`).  The end of the text is another matter: going through the lines puts a break
behind each of them, the last one included, and a text that keeps its indentation is not gone
through at all.
-/

namespace ApiSurface.Output

open Text

/-! ## One line -/

/-- How often the unit of the layout stands at the front of a line: once for every four spaces. -/
def leadingUnits (line : List Char) : Nat :=
  (line.takeWhile (· == ' ')).length / 4

def withUnit (unit line : List Char) : List Char :=
  (List.replicate (leadingUnits line) unit).flatten ++ line.drop (4 * leadingUnits line)

theorem withUnit_spaces (unit rest : List Char) :
    withUnit unit (' ' :: ' ' :: ' ' :: ' ' :: rest) = unit ++ withUnit unit rest := by
  have hunits : leadingUnits (' ' :: ' ' :: ' ' :: ' ' :: rest) = leadingUnits rest + 1 := by
    simp [leadingUnits]
    omega
  simp [withUnit, hunits, List.replicate_succ, Nat.mul_add]

theorem exists_of_leadingUnits_ne_zero {line : List Char} (hunits : leadingUnits line ≠ 0) :
    ∃ rest, line = ' ' :: ' ' :: ' ' :: ' ' :: rest := by
  have hspaces : ∀ c ∈ line.takeWhile (· == ' '), c = ' ' := by
    simpa only [List.all_eq_true, beq_iff_eq] using
      List.all_takeWhile (p := (· == ' ')) (l := line)
  have hfront := List.eq_replicate_of_mem hspaces
  have hlong : ∃ more, (line.takeWhile (· == ' ')).length = more + 4 := by
    refine ⟨(line.takeWhile (· == ' ')).length - 4, ?_⟩
    unfold leadingUnits at hunits
    omega
  obtain ⟨more, hmore⟩ := hlong
  refine ⟨List.replicate more ' ' ++ line.dropWhile (· == ' '), ?_⟩
  conv => lhs; rw [← List.takeWhile_append_dropWhile (p := (· == ' ')) (l := line), hfront, hmore]
  rfl

theorem reindentLine_eq (unit line : List Char) : reindentLine unit line = withUnit unit line := by
  fun_induction reindentLine unit line with
  | case1 rest ih => rw [withUnit_spaces, ih]
  | case2 line hother =>
      have hunits : leadingUnits line = 0 := by
        by_contra hunits
        obtain ⟨rest, hrest⟩ := exists_of_leadingUnits_ne_zero hunits
        exact hother rest hrest
      simp [withUnit, hunits]

theorem reindentLine_layoutUnit (line : List Char) : reindentLine layoutUnit line = line := by
  fun_induction reindentLine layoutUnit line with
  | case1 rest ih =>
      rw [ih]
      rfl
  | case2 => rfl

theorem isLine_reindentLine {unit line : List Char} (hunit : IsLine unit) (hline : IsLine line) :
    IsLine (reindentLine unit line) := by
  fun_induction reindentLine unit line with
  | case1 rest ih =>
      have hrest : IsLine rest := by simpa [IsLine] using hline
      obtain ⟨hbreak, hreturn⟩ := ih hrest
      exact ⟨by simp [hunit.1, hbreak], by simp [hunit.2, hreturn]⟩
  | case2 => exact hline

/-! ## All lines -/

/-- A text that is put together from its lines, with another unit in each. -/
def reindentByLines (contents indent : String) : String :=
  .ofList (endedLines ((lines contents.toList).map (reindentLine indent.toList)))

theorem reindent_of_ne {indent : String} (hindent : indent.toList ≠ layoutUnit)
    (contents : String) : reindent contents indent = reindentByLines contents indent := by
  simp [reindent, reindentChars, hindent, reindentByLines, endedLines, List.flatMap_map]

theorem reindent_of_eq {indent : String} (hindent : indent.toList = layoutUnit)
    (contents : String) : reindent contents indent = contents := by
  simp [reindent, reindentChars, hindent]

theorem toList_spaces_eq_layoutUnit_iff {width : Nat} :
    (spaces width).toList = layoutUnit ↔ width = 4 := by
  rw [spaces, String.toList_ofList]
  refine ⟨fun hunit => ?_, fun hwidth => hwidth ▸ rfl⟩
  simpa [layoutUnit] using congrArg List.length hunit

theorem isLine_spaces (width : Nat) : IsLine (spaces width).toList := by
  simp [IsLine, spaces]

def EndsLine (text : String) : Prop :=
  text.toList.getLast? = some '\n'

instance (text : String) : Decidable (EndsLine text) :=
  inferInstanceAs (Decidable (_ = _))

theorem not_endsLine_empty : ¬EndsLine "" := by
  decide

theorem reindentByLines_empty (indent : String) : reindentByLines "" indent = "" :=
  rfl

theorem endsLine_reindentByLines {contents : String} (hreturns : '\r' ∉ contents.toList)
    (hne : contents ≠ "") (indent : String) : EndsLine (reindentByLines contents indent) := by
  have hlines : lines contents.toList ≠ [] := lines_ne_nil hreturns (by simpa using hne)
  rw [EndsLine, reindentByLines, String.toList_ofList]
  exact getLast?_endedLines (by simpa using hlines)

theorem lines_reindentByLines {contents indent : String} (hreturns : '\r' ∉ contents.toList)
    (hindent : IsLine indent.toList) :
    lines (reindentByLines contents indent).toList =
      (lines contents.toList).map (reindentLine indent.toList) := by
  rw [reindentByLines, String.toList_ofList, lines_endedLines]
  simp only [List.forall_mem_map]
  exact fun line hline => isLine_reindentLine hindent (isLine_of_mem_lines hreturns line hline)

theorem reindentByLines_layoutUnit {contents : String} (hreturns : '\r' ∉ contents.toList) :
    reindentByLines contents (spaces 4) =
      if contents = "" ∨ EndsLine contents then contents else contents ++ "\n" := by
  have hunit : reindentLine (spaces 4).toList = id :=
    funext fun line => toList_spaces_eq_layoutUnit_iff.mpr rfl ▸ reindentLine_layoutUnit line
  rw [reindentByLines, hunit, List.map_id, endedLines_lines hreturns]
  simp only [String.toList_eq_nil_iff]
  rw [apply_ite String.ofList, String.ofList_append, String.ofList_toList]
  rfl

/-! ## Both ways -/

theorem lines_reindent_spaces {contents : String} (hreturns : '\r' ∉ contents.toList)
    (width : Nat) :
    lines (reindent contents (spaces width)).toList =
      (lines contents.toList).map (withUnit (spaces width).toList) := by
  rw [← funext (reindentLine_eq (spaces width).toList)]
  by_cases hwidth : width = 4
  · have hunit := toList_spaces_eq_layoutUnit_iff.mpr hwidth
    rw [reindent_of_eq hunit, hunit, funext reindentLine_layoutUnit, List.map_id']
  · have hunit := mt toList_spaces_eq_layoutUnit_iff.mp hwidth
    rw [reindent_of_ne hunit, lines_reindentByLines hreturns (isLine_spaces width)]

theorem endsLine_reindent_spaces {contents : String} (hreturns : '\r' ∉ contents.toList)
    (width : Nat) :
    EndsLine (reindent contents (spaces width)) ↔
      EndsLine contents ∨ width ≠ 4 ∧ contents ≠ "" := by
  by_cases hwidth : width = 4
  · rw [reindent_of_eq (toList_spaces_eq_layoutUnit_iff.mpr hwidth)]
    simp [hwidth]
  · rw [reindent_of_ne (mt toList_spaces_eq_layoutUnit_iff.mp hwidth)]
    by_cases hempty : contents = ""
    · simp [hempty, reindentByLines_empty, not_endsLine_empty]
    · simp [endsLine_reindentByLines hreturns hempty, hwidth, hempty]

/-- Every line keeps its place and all but its indentation.  The end of a text is kept where the
text keeps its indentation, and elsewhere every text but the empty one ends with a line break, so
going through the lines is the same as leaving the text alone where there is no break to add. -/
theorem reindent_spaces {contents : String} (hreturns : '\r' ∉ contents.toList) (width : Nat) :
    lines (reindent contents (spaces width)).toList =
        (lines contents.toList).map (withUnit (spaces width).toList) ∧
      (EndsLine (reindent contents (spaces width)) ↔
        EndsLine contents ∨ width ≠ 4 ∧ contents ≠ "") ∧
      (reindentByLines contents (spaces 4) = reindent contents (spaces 4) ↔
        contents = "" ∨ EndsLine contents) := by
  refine ⟨lines_reindent_spaces hreturns width, endsLine_reindent_spaces hreturns width, ?_⟩
  rw [reindent_of_eq (toList_spaces_eq_layoutUnit_iff.mpr rfl),
    reindentByLines_layoutUnit hreturns]
  by_cases hends : contents = "" ∨ EndsLine contents
  · rw [if_pos hends]
    exact iff_of_true rfl hends
  · rw [if_neg hends]
    exact iff_of_false (by simp) hends

theorem nested_reindent_spaces :
    '\r' ∉ "shop:\n    door:\n        open".toList ∧
      lines (reindent "shop:\n    door:\n        open" (spaces 2)).toList =
        ["shop:".toList, "  door:".toList, "    open".toList] ∧
      EndsLine (reindent "shop:\n    door:\n        open" (spaces 2)) := by
  have hreturns : '\r' ∉ "shop:\n    door:\n        open".toList := by decide +kernel
  obtain ⟨hlines, hends, -⟩ := reindent_spaces hreturns 2
  exact ⟨hreturns, hlines.trans (by decide +kernel), hends.mpr (.inr (by decide))⟩

/-- A text gets a line break at its end for no other reason than its indentation, and the text that
keeps its indentation is not the one that its lines make. -/
theorem unended_reindent_spaces :
    '\r' ∉ "mod shop \x7b\x7d".toList ∧ ¬EndsLine "mod shop \x7b\x7d" ∧
      EndsLine (reindent "mod shop \x7b\x7d" (spaces 2)) ∧
      reindentByLines "mod shop \x7b\x7d" (spaces 4) ≠ reindent "mod shop \x7b\x7d" (spaces 4) := by
  decide +kernel

end ApiSurface.Output
