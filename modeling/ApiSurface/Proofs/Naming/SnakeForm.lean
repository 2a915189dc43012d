import ApiSurface.Naming.Casing
import Mathlib

/-!
# The form of snake case

The context in which a character of a name is written says of the text written before it whether it
is empty and whether it ends in an underscore (`SnakeContext.Describes`).  Every character that is
written keeps the text in form, so an ASCII name in snake case is in form, has the characters of the
name in their order, and is not changed a second time (`snakeCase_of_ascii`).
-/

namespace ApiSurface

namespace Text

/-! ## ASCII letters -/

theorem lowerChar_of_isAscii {c : Char} (hascii : isAscii c = true) : lowerChar c = [c.toLower] :=
  if_pos hascii

theorem isUppercase_of_isAscii {c : Char} (hascii : isAscii c = true) :
    isUppercase c = c.isUpper :=
  if_pos hascii

theorem isUppercase_toLower {c : Char} (hascii : isAscii c = true) :
    isUppercase c.toLower = false := by
  by_cases hcapital : c.isUpper = true
  · have hsmall : c.toLower.isLower = true := by simp [Char.isAlpha, hcapital]
    have hlast : c.toLower.toNat ≤ 'z'.toNat :=
      of_decide_eq_true (Bool.and_eq_true_iff.mp hsmall).2
    have hlowered : isAscii c.toLower = true :=
      decide_eq_true (Nat.lt_of_le_of_lt hlast (by decide))
    rw [isUppercase_of_isAscii hlowered, Char.isUpper_toLower_eq_false]
  · rw [Char.toLower_eq_of_not_isUpper hcapital, isUppercase_of_isAscii hascii,
      Bool.eq_false_iff]
    exact hcapital

theorem lowercaseFrom_of_ascii {cs : List Char} (hascii : ∀ c ∈ cs, isAscii c = true)
    (afterCased : Bool) : lowercaseFrom afterCased cs = cs.map Char.toLower := by
  induction cs generalizing afterCased with
  | nil => rfl
  | cons c rest ih =>
      obtain ⟨hc, hrest⟩ := List.forall_mem_cons.mp hascii
      have hsigma : c ≠ 'Σ' := by
        rintro rfl
        cases hc
      simp [lowercaseFrom, hsigma, lowerChar_of_isAscii hc, ih hrest]

end Text

namespace Naming

open Text

theorem isSnakeBreak_iff {c : Char} : isSnakeBreak c = true ↔ c = '-' ∨ c = ' ' ∨ c = '_' := by
  simp [isSnakeBreak, or_assoc]

theorem isSnakeBreak_of_isAlpha {c : Char} (hletter : c.isAlpha = true) :
    isSnakeBreak c = false := by
  rw [Bool.eq_false_iff, ne_eq, isSnakeBreak_iff]
  rintro (rfl | rfl | rfl) <;> cases hletter

theorem isSnakeBreak_toLower (c : Char) : isSnakeBreak c.toLower = isSnakeBreak c := by
  by_cases hletter : c.isAlpha = true
  · rw [isSnakeBreak_of_isAlpha hletter, isSnakeBreak_of_isAlpha (by simpa using hletter)]
  · have hcapital : ¬ c.isUpper = true := fun hcapital => hletter (by simp [Char.isAlpha, hcapital])
    rw [Char.toLower_eq_of_not_isUpper hcapital]

/-! ## Texts in snake case -/

structure IsSnakeCase (name : List Char) : Prop where
  no_capital : ∀ c ∈ name, isUppercase c = false
  no_hyphen : '-' ∉ name
  no_space : ' ' ∉ name
  no_leading : name.head? ≠ some '_'
  no_double : ¬ ['_', '_'] <:+: name

/-- A text behind which an underscore may stand. -/
def TakesBreak (written : List Char) : Prop :=
  written ≠ [] ∧ written.getLast? ≠ some '_'

theorem isSnakeCase_nil : IsSnakeCase [] := by
  constructor <;> simp

theorem IsSnakeCase.of_append {cs rest : List Char} (hname : IsSnakeCase (cs ++ rest)) :
    IsSnakeCase cs where
  no_capital c hc := hname.no_capital c (List.mem_append_left rest hc)
  no_hyphen hmem := hname.no_hyphen (List.mem_append_left rest hmem)
  no_space hmem := hname.no_space (List.mem_append_left rest hmem)
  no_leading hhead := hname.no_leading (by simp [hhead])
  no_double hdouble := hname.no_double (hdouble.trans (List.prefix_append cs rest).isInfix)

theorem double_concat_iff {written : List Char} {c : Char} :
    ['_', '_'] <:+: written ++ [c] ↔
      ['_', '_'] <:+: written ∨ (written.getLast? = some '_' ∧ c = '_') := by
  have hends : ['_', '_'] <:+ written ++ [c] ↔ written.getLast? = some '_' ∧ c = '_' := by
    have htwo : ['_', '_'] = ['_'] ++ ['_'] := rfl
    rw [htwo, List.suffix_concat_iff, ← List.singleton_suffix_iff_getLast?_eq_some]
    constructor
    · rintro (hnil | ⟨front, heq, hfront⟩)
      · cases hnil
      · obtain ⟨rfl, hlast⟩ := List.append_inj' heq rfl
        cases hlast
        exact ⟨hfront, rfl⟩
    · rintro ⟨hlast, rfl⟩
      exact .inr ⟨['_'], rfl, hlast⟩
  rw [List.infix_concat_iff, hends, or_comm]

theorem isSnakeCase_concat_iff {written : List Char} {c : Char} :
    IsSnakeCase (written ++ [c]) ↔
      IsSnakeCase written ∧ isUppercase c = false ∧ c ≠ '-' ∧ c ≠ ' ' ∧
        (c = '_' → TakesBreak written) := by
  constructor
  · intro hname
    have hmem : c ∈ written ++ [c] := by simp
    refine ⟨hname.of_append, hname.no_capital c hmem, ?_, ?_, ?_⟩
    · rintro rfl
      exact hname.no_hyphen hmem
    · rintro rfl
      exact hname.no_space hmem
    · rintro rfl
      refine ⟨?_, ?_⟩
      · rintro rfl
        exact hname.no_leading rfl
      · intro hlast
        exact hname.no_double (double_concat_iff.mpr (.inr ⟨hlast, rfl⟩))
  · rintro ⟨hwritten, hcapital, hhyphen, hspace, hbreak⟩
    refine ⟨?_, ?_, ?_, ?_, ?_⟩
    · simpa [or_imp, forall_and] using ⟨hwritten.no_capital, hcapital⟩
    · simp [hwritten.no_hyphen, Ne.symm hhyphen]
    · simp [hwritten.no_space, Ne.symm hspace]
    · cases written with
      | nil =>
          intro hhead
          exact (hbreak (by simpa using hhead)).1 rfl
      | cons first rest => exact hwritten.no_leading
    · rw [double_concat_iff]
      rintro (hdouble | ⟨hlast, hc⟩)
      · exact hwritten.no_double hdouble
      · exact (hbreak hc).2 hlast

theorem IsSnakeCase.concat {written : List Char} {c : Char} (hwritten : IsSnakeCase written)
    (hcapital : isUppercase c = false) (hbreak : isSnakeBreak c = false) :
    IsSnakeCase (written ++ [c]) := by
  rw [Bool.eq_false_iff, ne_eq, isSnakeBreak_iff, not_or, not_or] at hbreak
  obtain ⟨hhyphen, hspace, hunderscore⟩ := hbreak
  exact isSnakeCase_concat_iff.mpr
    ⟨hwritten, hcapital, hhyphen, hspace, fun heq => absurd heq hunderscore⟩

theorem IsSnakeCase.concat_break {written : List Char} (hwritten : IsSnakeCase written)
    (htakes : TakesBreak written) : IsSnakeCase (written ++ ['_']) :=
  isSnakeCase_concat_iff.mpr ⟨hwritten, by decide, by decide, by decide, fun _ => htakes⟩

/-! ## One character -/

def snakeStep (context : SnakeContext) (c : Char) : List Char × SnakeContext :=
  if isSnakeBreak c then
    if context.atStart || context.afterBreak then ([], { context with afterLower := false })
    else (['_'], ⟨false, true, false⟩)
  else if isUppercase c then
    if context.afterLower && !context.afterBreak then ('_' :: lowerChar c, ⟨false, false, false⟩)
    else (lowerChar c, ⟨false, false, false⟩)
  else ([c], ⟨false, false, isLowercase c || c.isDigit⟩)

theorem snakeFrom_cons (context : SnakeContext) (c : Char) (rest : List Char) :
    snakeFrom context (c :: rest) =
      (snakeStep context c).1 ++ snakeFrom (snakeStep context c).2 rest := by
  rw [snakeFrom, snakeStep]
  split_ifs <;> rfl

namespace SnakeContext

structure Describes (context : SnakeContext) (written : List Char) : Prop where
  atStart_iff : context.atStart = true ↔ written = []
  afterBreak_iff : context.afterBreak = true ↔ written.getLast? = some '_'
  ne_nil : context.afterLower = true → written ≠ []

theorem describes_nil : Describes ⟨true, false, false⟩ [] := by
  constructor <;> simp

theorem describes_break (written : List Char) :
    Describes ⟨false, true, false⟩ (written ++ ['_']) := by
  constructor <;> simp

theorem describes_other {c : Char} (hbreak : isSnakeBreak c = false) (written : List Char)
    (afterLower : Bool) : Describes ⟨false, false, afterLower⟩ (written ++ [c]) := by
  have hunderscore : c ≠ '_' := by
    rintro rfl
    cases hbreak
  constructor <;> simp [hunderscore]

variable {context : SnakeContext} {written : List Char} {c : Char}

theorem Describes.passBreak (hcontext : context.Describes written) :
    Describes { context with afterLower := false } written :=
  ⟨hcontext.atStart_iff, hcontext.afterBreak_iff, by simp⟩

theorem Describes.takesBreak_iff (hcontext : context.Describes written) :
    TakesBreak written ↔ (context.atStart || context.afterBreak) = false := by
  rw [TakesBreak, ne_eq, ← hcontext.atStart_iff, ne_eq, ← hcontext.afterBreak_iff]
  simp

theorem Describes.takesBreak_of_afterLower (hcontext : context.Describes written)
    (hparted : (context.afterLower && !context.afterBreak) = true) : TakesBreak written := by
  obtain ⟨hlower, hlast⟩ : context.afterLower = true ∧ context.afterBreak = false := by
    simpa using hparted
  refine ⟨hcontext.ne_nil hlower, ?_⟩
  rw [ne_eq, ← hcontext.afterBreak_iff, hlast]
  decide

theorem Describes.step (hcontext : context.Describes written) (hwritten : IsSnakeCase written)
    (hascii : isAscii c = true) :
    (snakeStep context c).2.Describes (written ++ (snakeStep context c).1) ∧
      IsSnakeCase (written ++ (snakeStep context c).1) := by
  have hlowered := isUppercase_toLower hascii
  unfold snakeStep
  rw [lowerChar_of_isAscii hascii]
  split_ifs with hbreak hpassed hcapital hparted
  · simpa using ⟨hcontext.passBreak, hwritten⟩
  · have htakes := hcontext.takesBreak_iff.mpr (by simpa using hpassed)
    exact ⟨describes_break written, hwritten.concat_break htakes⟩
  · have hletter : isSnakeBreak c.toLower = false := by simpa [isSnakeBreak_toLower] using hbreak
    have htakes := hcontext.takesBreak_of_afterLower hparted
    have hparts : written ++ ['_', c.toLower] = (written ++ ['_']) ++ [c.toLower] := by simp
    rw [hparts]
    exact ⟨describes_other hletter _ _, (hwritten.concat_break htakes).concat hlowered hletter⟩
  · have hletter : isSnakeBreak c.toLower = false := by simpa [isSnakeBreak_toLower] using hbreak
    exact ⟨describes_other hletter _ _, hwritten.concat hlowered hletter⟩
  · have hother : isSnakeBreak c = false := by simpa using hbreak
    exact ⟨describes_other hother _ _, hwritten.concat (by simpa using hcapital) hother⟩

theorem Describes.step_of_isSnakeCase (hcontext : context.Describes written)
    (hname : IsSnakeCase (written ++ [c])) :
    (snakeStep context c).1 = [c] ∧ (snakeStep context c).2.Describes (written ++ [c]) := by
  obtain ⟨-, hcapital, hhyphen, hspace, hbreak⟩ := isSnakeCase_concat_iff.mp hname
  unfold snakeStep
  by_cases hunderscore : c = '_'
  · have hopen := hcontext.takesBreak_iff.mp (hbreak hunderscore)
    subst hunderscore
    rw [if_pos (by decide), if_neg (by simp [hopen])]
    exact ⟨rfl, describes_break written⟩
  · have hother : isSnakeBreak c = false := by simp [isSnakeBreak, hhyphen, hspace, hunderscore]
    rw [if_neg (by simp [hother]), if_neg (by simp [hcapital])]
    exact ⟨rfl, describes_other hother written _⟩

end SnakeContext

/-! ## Whole names -/

theorem isSnakeCase_append_snakeFrom {context : SnakeContext} {written cs : List Char}
    (hcontext : context.Describes written) (hwritten : IsSnakeCase written)
    (hascii : ∀ c ∈ cs, isAscii c = true) : IsSnakeCase (written ++ snakeFrom context cs) := by
  induction cs generalizing context written with
  | nil => simpa [snakeFrom] using hwritten
  | cons c rest ih =>
      obtain ⟨hc, hrest⟩ := List.forall_mem_cons.mp hascii
      obtain ⟨hnext, hlonger⟩ := hcontext.step hwritten hc
      rw [snakeFrom_cons, ← List.append_assoc]
      exact ih hnext hlonger hrest

theorem snakeFrom_eq_self {context : SnakeContext} {written cs : List Char}
    (hcontext : context.Describes written) (hname : IsSnakeCase (written ++ cs)) :
    snakeFrom context cs = cs := by
  induction cs generalizing context written with
  | nil => rfl
  | cons c rest ih =>
      have hparts : written ++ c :: rest = (written ++ [c]) ++ rest := by simp
      rw [hparts] at hname
      obtain ⟨hpiece, hnext⟩ := hcontext.step_of_isSnakeCase hname.of_append
      rw [snakeFrom_cons, hpiece, ih hnext hname, List.singleton_append]

theorem filter_snakeStep (context : SnakeContext) {c : Char} (hascii : isAscii c = true) :
    (snakeStep context c).1.filter (· != '_') = [c.toLower].filter fun c => !isSnakeBreak c := by
  have hkept {d : Char} (hd : isSnakeBreak d = false) : d ≠ '_' := by
    rintro rfl
    cases hd
  unfold snakeStep
  rw [lowerChar_of_isAscii hascii]
  split_ifs with hbreak hpassed hcapital hparted
  · simp [isSnakeBreak_toLower, hbreak]
  · simp [isSnakeBreak_toLower, hbreak]
  · have hletter : isSnakeBreak c.toLower = false := by simpa [isSnakeBreak_toLower] using hbreak
    simp [hletter, hkept hletter]
  · have hletter : isSnakeBreak c.toLower = false := by simpa [isSnakeBreak_toLower] using hbreak
    simp [hletter, hkept hletter]
  · have hother : isSnakeBreak c = false := by simpa using hbreak
    rw [isUppercase_of_isAscii hascii] at hcapital
    rw [Char.toLower_eq_of_not_isUpper hcapital]
    simp [hother, hkept hother]

theorem filter_snakeFrom (context : SnakeContext) {cs : List Char}
    (hascii : ∀ c ∈ cs, isAscii c = true) :
    (snakeFrom context cs).filter (· != '_') =
      (cs.map Char.toLower).filter fun c => !isSnakeBreak c := by
  induction cs generalizing context with
  | nil => rfl
  | cons c rest ih =>
      obtain ⟨hc, hrest⟩ := List.forall_mem_cons.mp hascii
      rw [snakeFrom_cons, List.filter_append, filter_snakeStep context hc, ih _ hrest,
        ← List.filter_append]
      rfl

theorem isSnakeCase_snakeChars {name : List Char} (hascii : ∀ c ∈ name, isAscii c = true) :
    IsSnakeCase (snakeChars name) :=
  isSnakeCase_append_snakeFrom SnakeContext.describes_nil isSnakeCase_nil hascii

theorem snakeChars_eq_self {name : List Char} (hname : IsSnakeCase name) :
    snakeChars name = name :=
  snakeFrom_eq_self SnakeContext.describes_nil hname

/--
An ASCII name in snake case is in form: no capitals, hyphens or spaces, no underscore at the start
and no two in a row.  Underscores aside it is the name in lower case without its breaks, and
writing it in snake case again changes nothing.
-/
theorem snakeCase_of_ascii {name : String} (hascii : ∀ c ∈ name.toList, isAscii c = true) :
    IsSnakeCase (snakeCase name).toList ∧
      (snakeCase name).toList.filter (· != '_') =
        (lowercase name).toList.filter (fun c => !isSnakeBreak c) ∧
      snakeCase (snakeCase name) = snakeCase name := by
  have hform := isSnakeCase_snakeChars hascii
  have hlower : lowercaseChars name.toList = name.toList.map Char.toLower :=
    lowercaseFrom_of_ascii hascii false
  refine ⟨?_, ?_, ?_⟩
  · rwa [snakeCase, String.toList_ofList]
  · rw [snakeCase, lowercase, String.toList_ofList, String.toList_ofList, hlower]
    exact filter_snakeFrom _ hascii
  · rw [snakeCase, snakeCase, String.toList_ofList, snakeChars_eq_self hform]

theorem mixedName_snakeCase :
    let name := "_HTTP--getXml 2Go-"
    (∀ c ∈ name.toList, isAscii c = true) ∧ snakeCase name = "http_get_xml_2_go_" ∧
      IsSnakeCase (snakeCase name).toList ∧
      (snakeCase name).toList.filter (· != '_') =
        (lowercase name).toList.filter (fun c => !isSnakeBreak c) ∧
      snakeCase (snakeCase name) = snakeCase name := by
  intro name
  have hascii : ∀ c ∈ name.toList, isAscii c = true := by
    simp [name, isAscii]
  exact ⟨hascii, by decide +kernel, snakeCase_of_ascii hascii⟩

end Naming

end ApiSurface
