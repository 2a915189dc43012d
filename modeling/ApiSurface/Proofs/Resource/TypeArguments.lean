import ApiSurface.Proofs.Text.Joining
import ApiSurface.Resource.TypeExpression
import Mathlib.Data.List.Infix

/-!
# Type arguments between commas

Brackets are balanced if none closes before it opens and all that open close.  A type argument is
a balanced text with commas only inside brackets.  The cut at the outer commas then takes the
first of several arguments as it is (`outerPieces_append_comma`): the depth it counts is the
number of brackets that are open behind the text read so far.  So arguments that were joined with
commas are all found again (`typeArguments_join`), and of any other text no character is lost
(`exists_outerPieces`).
-/

namespace ApiSurface.TypeExpression

open Text

/-! ## Balanced brackets -/

structure IsBalanced (cs : List Char) : Prop where
  closes_le : ∀ read, read <+: cs → read.count '>' ≤ read.count '<'
  closes_eq : cs.count '>' = cs.count '<'

/-- A balanced text without commas outside its brackets. -/
structure IsArgument (cs : List Char) : Prop extends IsBalanced cs where
  comma_inside : ∀ read, read ++ [','] <+: cs → read.count '>' < read.count '<'

instance (cs : List Char) : Decidable (IsBalanced cs) :=
  decidable_of_iff
    ((∀ read ∈ cs.inits, read.count '>' ≤ read.count '<') ∧ cs.count '>' = cs.count '<')
    ⟨fun h => ⟨fun read hread => h.1 read ((List.mem_inits _ _).mpr hread), h.2⟩,
      fun h => ⟨fun read hread => h.closes_le read ((List.mem_inits _ _).mp hread), h.closes_eq⟩⟩

instance (cs : List Char) : Decidable (IsArgument cs) :=
  decidable_of_iff
    (IsBalanced cs ∧
      ∀ read ∈ cs.inits, read ++ [','] <+: cs → read.count '>' < read.count '<')
    ⟨fun h => ⟨h.1, fun read hread =>
        h.2 read ((List.mem_inits _ _).mpr ((List.prefix_append _ _).trans hread)) hread⟩,
      fun h => ⟨h.toIsBalanced, fun read _ hread => h.comma_inside read hread⟩⟩

theorem within_or_behind_of_prefix {read first second : List Char} (hread : read <+: first ++ second) :
    read <+: first ∨ ∃ further, read = first ++ further ∧ further <+: second := by
  rcases List.prefix_or_prefix_of_prefix hread (List.prefix_append first second) with
    hwithin | ⟨further, rfl⟩
  · exact .inl hwithin
  · exact .inr ⟨further, rfl, (List.prefix_append_right_inj first).mp hread⟩

theorem IsBalanced.append {first second : List Char} (hfirst : IsBalanced first)
    (hsecond : IsBalanced second) : IsBalanced (first ++ second) where
  closes_le read hread := by
    rcases within_or_behind_of_prefix hread with hwithin | ⟨further, rfl, hfurther⟩
    · exact hfirst.closes_le read hwithin
    · have hle := hsecond.closes_le further hfurther
      have heq := hfirst.closes_eq
      simp only [List.count_append]
      omega
  closes_eq := by
    rw [List.count_append, List.count_append, hfirst.closes_eq, hsecond.closes_eq]

/-- Text between brackets is one argument, whatever commas it has. -/
theorem IsBalanced.enclosed {cs : List Char} (hcs : IsBalanced cs) :
    IsArgument ('<' :: (cs ++ ['>'])) where
  closes_le read hread := by
    rcases List.prefix_cons_iff.mp hread with rfl | ⟨further, rfl, hfurther⟩
    · simp
    · rcases List.prefix_concat_iff.mp hfurther with rfl | hwithin
      · have heq := hcs.closes_eq
        simp [heq]
      · have hle := hcs.closes_le further hwithin
        simp only [List.count_cons_self, List.count_cons_of_ne (by decide : '<' ≠ '>')]
        omega
  closes_eq := by
    have heq := hcs.closes_eq
    simp [heq]
  comma_inside read hread := by
    rcases read with _ | ⟨c, further⟩
    · exact absurd (List.cons_prefix_cons.mp hread).1 (by decide)
    · obtain ⟨rfl, hfurther⟩ := List.cons_prefix_cons.mp hread
      rcases List.prefix_concat_iff.mp hfurther with heq | hwithin
      · exact absurd (List.append_inj_right' heq rfl) (by decide)
      · have hle := hcs.closes_le further ((List.prefix_append _ _).trans hwithin)
        simp only [List.count_cons_self, List.count_cons_of_ne (by decide : '<' ≠ '>')]
        omega

theorem IsArgument.append {first second : List Char} (hfirst : IsArgument first)
    (hsecond : IsArgument second) : IsArgument (first ++ second) where
  toIsBalanced := hfirst.toIsBalanced.append hsecond.toIsBalanced
  comma_inside read hread := by
    rcases within_or_behind_of_prefix hread with hwithin | ⟨further, heq, hfurther⟩
    · exact hfirst.comma_inside read hwithin
    · rcases List.eq_nil_or_concat further with rfl | ⟨behind, last, rfl⟩
      · exact hfirst.comma_inside read (by rw [heq, List.append_nil])
      · rw [List.concat_eq_append, ← List.append_assoc] at heq
        obtain ⟨rfl, hlast⟩ := List.append_inj' heq rfl
        cases hlast
        have hlt := hsecond.comma_inside behind (by rwa [List.concat_eq_append] at hfurther)
        have hclosed := hfirst.closes_eq
        simp only [List.count_append]
        omega

theorem isBalanced_of_notMem {cs : List Char} (hopen : '<' ∉ cs) (hclose : '>' ∉ cs) :
    IsBalanced cs where
  closes_le read hread := by
    rw [List.count_eq_zero_of_not_mem fun hmem => hclose (hread.subset hmem)]
    exact Nat.zero_le _
  closes_eq := by
    rw [List.count_eq_zero_of_not_mem hopen, List.count_eq_zero_of_not_mem hclose]

theorem isArgument_of_notMem {cs : List Char} (hopen : '<' ∉ cs) (hclose : '>' ∉ cs)
    (hcomma : ',' ∉ cs) : IsArgument cs where
  toIsBalanced := isBalanced_of_notMem hopen hclose
  comma_inside read hread := absurd (hread.subset (by simp)) hcomma

/-! ## Cutting at the outer commas -/

def openBrackets (read : List Char) : Nat :=
  read.count '<' - read.count '>'

theorem depthAfter_openBrackets {read : List Char} {c : Char}
    (hread : read.count '>' ≤ read.count '<') :
    depthAfter (openBrackets read) c = openBrackets (read ++ [c]) := by
  unfold depthAfter openBrackets
  by_cases hopen : c = '<'
  · subst hopen
    simp
    omega
  · by_cases hclose : c = '>'
    · subst hclose
      simp
      omega
    · simp [hopen, hclose]

theorem outerPieces_cons_of_ne {depth : Nat} {c : Char} {rest piece : List Char}
    {pieces : List (List Char)} (hinside : c = ',' → depth ≠ 0)
    (hrest : outerPieces (depthAfter depth c) rest = piece :: pieces) :
    outerPieces depth (c :: rest) = (c :: piece) :: pieces := by
  rw [outerPieces, if_neg (by simpa using hinside), hrest]

theorem outerPieces_append {read rest behind : List Char} {pieces : List (List Char)}
    (hargument : IsArgument (read ++ rest)) (hends : outerPieces 0 behind = [] :: pieces) :
    outerPieces (openBrackets read) (rest ++ behind) = rest :: pieces := by
  induction rest generalizing read with
  | nil =>
      have hclosed := hargument.closes_eq
      rw [List.append_nil] at hclosed
      rw [openBrackets, hclosed, Nat.sub_self]
      exact hends
  | cons c rest ih =>
      have hread : read <+: read ++ c :: rest := List.prefix_append _ _
      have hnext : read ++ c :: rest = (read ++ [c]) ++ rest := by simp
      refine outerPieces_cons_of_ne ?_ ?_
      · rintro rfl
        have hlt := hargument.comma_inside read (by simp)
        exact Nat.sub_ne_zero_of_lt hlt
      · rw [depthAfter_openBrackets (hargument.closes_le read hread)]
        exact ih (by rwa [hnext] at hargument)

theorem outerPieces_append_comma {cs rest : List Char} (hargument : IsArgument cs) :
    outerPieces 0 (cs ++ ',' :: rest) = cs :: outerPieces 0 rest :=
  @outerPieces_append [] cs (',' :: rest) _ hargument rfl

theorem outerPieces_of_isArgument {cs : List Char} (hargument : IsArgument cs) :
    outerPieces 0 cs = [cs] := by
  have hpieces := @outerPieces_append [] cs [] [] hargument rfl
  rwa [List.append_nil] at hpieces

def afterCommas (further : List (List Char)) : List Char :=
  further.flatMap (',' :: ·)

theorem isBalanced_afterCommas {further : List (List Char)}
    (hfurther : ∀ argument ∈ further, IsBalanced argument) :
    IsBalanced (afterCommas further) := by
  induction further with
  | nil => exact isBalanced_of_notMem (by simp [afterCommas]) (by simp [afterCommas])
  | cons argument further ih =>
      have hcomma : IsBalanced [','] := isBalanced_of_notMem (by decide) (by decide)
      have hargument := hfurther argument List.mem_cons_self
      have hrest := ih fun later hlater => hfurther later (List.mem_cons_of_mem _ hlater)
      exact hcomma.append (hargument.append hrest)

theorem firstArgument_append_afterCommas {cs : List Char} (hargument : IsArgument cs)
    (further : List (List Char)) :
    firstArgument (cs ++ afterCommas further) = trimChars cs := by
  rcases further with _ | ⟨argument, further⟩
  · rw [afterCommas, List.flatMap_nil, List.append_nil, firstArgument, typeArguments,
      outerPieces_of_isArgument hargument, List.map_cons, List.headD_cons]
  · rw [afterCommas, List.flatMap_cons, List.cons_append, firstArgument, typeArguments,
      outerPieces_append_comma hargument, List.map_cons, List.headD_cons]

/-! ## Joined arguments -/

theorem afterCommas_cons (argument : List Char) (further : List (List Char)) :
    afterCommas (argument :: further) = ',' :: (argument ++ afterCommas further) := by
  simp [afterCommas]

theorem toList_join_comma (argument : String) (further : List String) :
    (join "," (argument :: further)).toList =
      argument.toList ++ afterCommas (further.map String.toList) := by
  induction further generalizing argument with
  | nil => simp [join, afterCommas]
  | cons next further ih =>
      rw [join_cons (by simp), List.map_cons, afterCommas_cons, ← ih next]
      simp

theorem outerPieces_append_afterCommas {cs : List Char} {further : List (List Char)}
    (hargument : IsArgument cs) (hfurther : ∀ argument ∈ further, IsArgument argument) :
    outerPieces 0 (cs ++ afterCommas further) = cs :: further := by
  induction further generalizing cs with
  | nil => simpa [afterCommas] using outerPieces_of_isArgument hargument
  | cons next further ih =>
      obtain ⟨hnext, hfurther⟩ := List.forall_mem_cons.mp hfurther
      rw [afterCommas_cons, outerPieces_append_comma hargument, ih hnext hfurther]

theorem exists_outerPieces (depth : Nat) (cs : List Char) :
    ∃ piece pieces, outerPieces depth cs = piece :: pieces ∧ piece ++ afterCommas pieces = cs := by
  induction cs generalizing depth with
  | nil => exact ⟨[], [], rfl, rfl⟩
  | cons c rest ih =>
      by_cases houter : c = ',' ∧ depth = 0
      · obtain ⟨piece, pieces, hpieces, hrest⟩ := ih depth
        refine ⟨[], piece :: pieces, ?_, ?_⟩
        · rw [outerPieces, if_pos (by simpa using houter), hpieces]
        · rw [afterCommas_cons, hrest, houter.1, List.nil_append]
      · obtain ⟨piece, pieces, hpieces, hrest⟩ := ih (depthAfter depth c)
        have hinside : c = ',' → depth ≠ 0 := not_and.mp houter
        exact ⟨c :: piece, pieces, outerPieces_cons_of_ne hinside hpieces, by simp [hrest]⟩

/--
Arguments are found again behind each other between commas, each without the white space around
it: the commas between them are the only ones that stand outside all brackets.
-/
theorem typeArguments_join {arguments : List String} (hne : arguments ≠ [])
    (harguments : ∀ argument ∈ arguments, IsArgument argument.toList) :
    (typeArguments (join "," arguments).toList).map String.ofList = arguments.map trim := by
  obtain ⟨first, further, rfl⟩ := List.exists_cons_of_ne_nil hne
  obtain ⟨hfirst, hfurther⟩ := List.forall_mem_cons.mp harguments
  have hchars : ∀ argument ∈ further.map String.toList, IsArgument argument := by
    simpa using hfurther
  have hpieces : outerPieces 0 (join "," (first :: further)).toList =
      (first :: further).map String.toList := by
    rw [toList_join_comma, outerPieces_append_afterCommas hfirst hchars, List.map_cons]
  rw [typeArguments, hpieces]
  simp [trim]

theorem nestedArguments_joined :
    let arguments := [" Map<String, Set<Tag>> ", "", "shop.Order "]
    arguments ≠ [] ∧ (∀ argument ∈ arguments, IsArgument argument.toList) ∧
      (typeArguments (join "," arguments).toList).map String.ofList =
        ["Map<String, Set<Tag>>", "", "shop.Order"] := by
  intro arguments
  have hne : arguments ≠ [] := by decide
  have harguments : ∀ argument ∈ arguments, IsArgument argument.toList := by decide
  exact ⟨hne, harguments, (typeArguments_join hne harguments).trans (by decide)⟩

end ApiSurface.TypeExpression
