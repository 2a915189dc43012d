import ApiSurface.Proofs.Text.Trimming
import ApiSurface.Text.Pieces

/-!
# Joined text

Texts without the separator are joined without loss: cutting the joined text at the separator
gives them back (`split_join`), so different lists are joined to different texts.  Where the texts
are trimmed, so is the joined one.
-/

namespace ApiSurface.Text

variable {separator : String} {c : Char}

/-! ## Cutting what was joined -/

theorem join_cons {piece : String} {pieces : List String} (hne : pieces ≠ []) :
    join separator (piece :: pieces) = piece ++ separator ++ join separator pieces := by
  cases pieces with
  | nil => exact absurd rfl hne
  | cons next pieces => rfl

theorem splitAt_of_notMem {cs : List Char} (hfree : c ∉ cs) : splitAt (· == c) cs = [cs] := by
  have hnone : ∀ other ∈ cs, (other == c) = false := by
    intro other hother
    rw [beq_eq_false_iff_ne]
    rintro rfl
    exact hfree hother
  rw [splitAt_eq_splitOnP, List.splitOnP_eq_singleton hnone]

theorem splitAt_append_cons (before after : List Char) :
    splitAt (· == c) (before ++ c :: after) =
      splitAt (· == c) before ++ splitAt (· == c) after := by
  simp only [splitAt_eq_splitOnP]
  exact List.splitOnP_append_cons (p := (· == c)) before after (beq_self_eq_true c)

theorem split_of_notMem {piece : String} (hfree : c ∉ piece.toList) : split c piece = [piece] := by
  rw [split, splitAt_of_notMem hfree, List.map_singleton, String.ofList_toList]

theorem notMem_of_mem_split {text piece : String} (hpiece : piece ∈ split c text) :
    c ∉ piece.toList := by
  have hpieces (cs : List Char) : ∀ cut ∈ splitAt (· == c) cs, c ∉ cut := by
    induction cs with
    | nil => simp [splitAt]
    | cons first rest ih =>
        rw [splitAt]
        by_cases hfirst : first = c
        · simpa [hfirst] using ih
        · cases hrest : splitAt (· == c) rest with
          | nil => simp [hfirst, Ne.symm hfirst]
          | cons cut cuts =>
              rw [hrest, List.forall_mem_cons] at ih
              simpa [hfirst, Ne.symm hfirst] using ih
  obtain ⟨cut, hcut, rfl⟩ := List.mem_map.mp hpiece
  simpa using hpieces text.toList cut hcut

theorem split_append (hseparator : separator.toList = [c]) (before after : String) :
    split c (before ++ separator ++ after) = split c before ++ split c after := by
  have hchars : (before ++ separator ++ after).toList = before.toList ++ c :: after.toList := by
    simp [hseparator]
  simp only [split]
  rw [hchars, splitAt_append_cons, List.map_append]

theorem split_join (hseparator : separator.toList = [c]) {pieces : List String}
    (hne : pieces ≠ []) (hfree : ∀ piece ∈ pieces, c ∉ piece.toList) :
    split c (join separator pieces) = pieces := by
  induction pieces with
  | nil => exact absurd rfl hne
  | cons piece pieces ih =>
      obtain ⟨hpiece, hfree⟩ := List.forall_mem_cons.mp hfree
      by_cases hlast : pieces = []
      · subst hlast
        exact split_of_notMem hpiece
      · rw [join_cons hlast, split_append hseparator, split_of_notMem hpiece, ih hlast hfree]
        rfl

theorem join_injective (hseparator : separator.toList = [c]) {pieces others : List String}
    (hne : pieces ≠ []) (hne' : others ≠ []) (hfree : ∀ piece ∈ pieces, c ∉ piece.toList)
    (hfree' : ∀ piece ∈ others, c ∉ piece.toList)
    (hjoin : join separator pieces = join separator others) : pieces = others := by
  rw [← split_join hseparator hne hfree, hjoin, split_join hseparator hne' hfree']

/-! ## Trimmed texts -/

/-- A text without white space at its ends that is not empty. -/
def IsTrimmed (text : String) : Prop :=
  text ≠ "" ∧ trim text = text

instance (text : String) : Decidable (IsTrimmed text) :=
  inferInstanceAs (Decidable (_ ∧ _))

theorem isTrimmed_iff {text : String} :
    IsTrimmed text ↔ ∃ hne : text.toList ≠ [],
      isBlank (text.toList.head hne) = false ∧ isBlank (text.toList.getLast hne) = false := by
  have htrim : trim text = text ↔ trimChars text.toList = text.toList := by
    rw [trim, ← String.toList_inj, String.toList_ofList]
  have hnonempty : text ≠ "" ↔ text.toList ≠ [] := String.toList_eq_nil_iff.not.symm
  rw [IsTrimmed, htrim, hnonempty]
  constructor
  · rintro ⟨hne, hkept⟩
    have hfront : text.toList.dropWhile isBlank = text.toList := by
      rw [← hkept, dropWhile_trimChars]
    have hend : text.toList.rdropWhile isBlank = text.toList := by
      rwa [trimChars_eq_rdropWhile, hfront] at hkept
    have hfirst := List.dropWhile_eq_self_iff.mp hfront (List.length_pos_of_ne_nil hne)
    have hlast := List.rdropWhile_eq_self_iff.mp hend hne
    exact ⟨hne, by simpa [List.head_eq_getElem] using hfirst, by simpa using hlast⟩
  · rintro ⟨hne, hfirst, hlast⟩
    refine ⟨hne, ?_⟩
    have hfront : text.toList.dropWhile isBlank = text.toList := by
      rw [List.dropWhile_eq_self_iff]
      intro hpos
      simpa [List.head_eq_getElem] using hfirst
    rw [trimChars_eq_rdropWhile, hfront, List.rdropWhile_eq_self_iff]
    intro _
    simpa using hlast

theorem IsTrimmed.append {before after : String} (hbefore : IsTrimmed before)
    (hafter : IsTrimmed after) (middle : String) : IsTrimmed (before ++ middle ++ after) := by
  obtain ⟨hbefore, hfirst, -⟩ := isTrimmed_iff.mp hbefore
  obtain ⟨hafter, -, hlast⟩ := isTrimmed_iff.mp hafter
  have hchars : (before ++ middle ++ after).toList =
      before.toList ++ (middle.toList ++ after.toList) := by
    simp
  rw [isTrimmed_iff]
  simp only [hchars]
  refine ⟨by simp [hbefore], ?_, ?_⟩
  · rwa [List.head_append_of_ne_nil hbefore]
  · rwa [List.getLast_append_of_ne_nil _ (by simp [hafter]), List.getLast_append_of_ne_nil _ hafter]

theorem isTrimmed_join {pieces : List String} (hne : pieces ≠ [])
    (htrimmed : ∀ piece ∈ pieces, IsTrimmed piece) : IsTrimmed (join separator pieces) := by
  induction pieces with
  | nil => exact absurd rfl hne
  | cons piece pieces ih =>
      obtain ⟨hpiece, htrimmed⟩ := List.forall_mem_cons.mp htrimmed
      by_cases hlast : pieces = []
      · subst hlast
        exact hpiece
      · rw [join_cons hlast]
        exact hpiece.append (ih hlast htrimmed) separator

end ApiSurface.Text
