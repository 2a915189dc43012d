import ApiSurface.Catalog.Marker
import ApiSurface.Naming.EntityName
import ApiSurface.Proofs.Text.Joining

/-!
# Base paths as they are written

The text of a marker value is trimmed, and trimming a second time cuts nothing.  So a base path
that is written with a leading slash and without a trailing one is the normalized path itself, in
whatever capitals (`normalizeBasePath_eq_self`).  Other paths get that form unless they are made of
slashes only (`getLast?_normalizeBasePath_iff`); white space is left at the end where it
stands before the last slashes (`isTrimmed_normalizeBasePath_iff`).
-/

namespace ApiSurface

/-! ## Values of markers -/

theorem MarkerValues.isTrimmed_of_text? {values : MarkerValues} {key text : String}
    (htext : values.text? key = some text) : Text.IsTrimmed text := by
  unfold text? at htext
  cases hraw : values.raw? key with
  | none => simp [hraw] at htext
  | some raw =>
      simp only [hraw] at htext
      split at htext
      · cases htext
      · next hblank =>
          cases htext
          exact ⟨by simpa using hblank, Text.trim_trim raw⟩

theorem MarkerValues.isTrimmed_of_firstOf? {values : MarkerValues} {keys : List String}
    {text : String} (htext : values.firstOf? keys = some text) : Text.IsTrimmed text := by
  obtain ⟨key, -, hkey⟩ := List.exists_of_findSome?_eq_some htext
  exact isTrimmed_of_text? hkey

theorem MarkerValues.trim_of_firstOf? {values : MarkerValues} {keys : List String}
    {text : String} (htext : values.firstOf? keys = some text) : Text.trim text = text :=
  (isTrimmed_of_firstOf? htext).2

/-! ## Normal form -/

namespace Naming

def IsBasePath (path : String) : Prop :=
  path.toList.head? = some '/' ∧ path.toList.getLast? ≠ some '/'

instance (path : String) : Decidable (IsBasePath path) :=
  inferInstanceAs (Decidable (_ ∧ _))

theorem normalizeBasePath_eq_self {path : String} (htrim : Text.trim path = path)
    (hpath : IsBasePath path) : normalizeBasePath path = path := by
  obtain ⟨hhead, hlast⟩ := hpath
  have hchars : Text.trimChars path.toList = path.toList := by
    simpa [Text.trim] using congrArg String.toList htrim
  have hends : path.toList.rdropWhile (· == '/') = path.toList := by
    rw [List.rdropWhile_eq_self_iff]
    intro hne hslash
    rw [beq_iff_eq] at hslash
    exact hlast (by rw [List.getLast?_eq_some_getLast hne, hslash])
  have htrimmed : ((Text.trimChars path.toList).reverse.dropWhile (· == '/')).reverse =
      path.toList := by
    rw [hchars]
    exact hends
  simp [normalizeBasePath, basePathChars, htrimmed, hhead]

/-! ## What normalizing leaves -/

theorem basePathChars_eq (path : List Char) : basePathChars path =
    let core := (Text.trimChars path).rdropWhile (· == '/')
    if core.head? = some '/' then core else '/' :: core := by
  by_cases hslash : ((Text.trimChars path).rdropWhile (· == '/')).head? = some '/' <;>
    simp_all [basePathChars, List.rdropWhile]

theorem basePathChars_cases (path : List Char) :
    ((∀ c ∈ Text.trimChars path, c = '/') ∧ basePathChars path = ['/']) ∨
      ∃ front last slashes middle, Text.trimChars path = front ++ last :: slashes ∧
        last ≠ '/' ∧ (∀ c ∈ slashes, c = '/') ∧
        basePathChars path = '/' :: (middle ++ [last]) := by
  rw [basePathChars_eq]
  rcases List.eq_nil_or_concat ((Text.trimChars path).rdropWhile (· == '/')) with
    hnil | ⟨front, last, hcore⟩
  · refine Or.inl ⟨by simpa using hnil, ?_⟩
    simp [hnil]
  · have hlast : last ≠ '/' := by
      have hends := List.rdropWhile_last_not (p := (· == '/')) (l := Text.trimChars path)
        (by simp [hcore])
      simpa [hcore] using hends
    have htrimmed : Text.trimChars path =
        front ++ last :: (Text.trimChars path).rtakeWhile (· == '/') := by
      have hparts := List.rdropWhile_append_rtakeWhile (p := (· == '/'))
        (l := Text.trimChars path)
      rw [hcore] at hparts
      simpa using hparts.symm
    have hslashes : ∀ c ∈ (Text.trimChars path).rtakeWhile (· == '/'), c = '/' := fun c hc => by
      simpa using List.mem_rtakeWhile_imp hc
    -- a slash that leads the path is not its last character, which is another one
    obtain ⟨middle, hmiddle⟩ : ∃ middle,
        (if (front ++ [last]).head? = some '/' then front ++ [last] else '/' :: (front ++ [last])) =
          '/' :: (middle ++ [last]) := by
      cases front with
      | nil => exact ⟨[], by simp [hlast]⟩
      | cons first rest =>
          by_cases hfirst : first = '/'
          · exact ⟨rest, by simp [hfirst]⟩
          · exact ⟨first :: rest, by simp [hfirst]⟩
    refine Or.inr ⟨front, last, _, middle, htrimmed, hlast, hslashes, ?_⟩
    rw [hcore]
    simpa using hmiddle

def IsRootPath (path : String) : Prop :=
  ∀ c ∈ Text.trimChars path.toList, c = '/'

instance (path : String) : Decidable (IsRootPath path) :=
  List.decidableBAll (· = '/') (Text.trimChars path.toList)

theorem head?_normalizeBasePath (path : String) :
    (normalizeBasePath path).toList.head? = some '/' := by
  rw [normalizeBasePath, String.toList_ofList]
  rcases basePathChars_cases path.toList with ⟨-, hresult⟩ | ⟨_, _, _, _, -, -, -, hresult⟩ <;>
    simp [hresult]

theorem getLast?_normalizeBasePath_iff (path : String) :
    (normalizeBasePath path).toList.getLast? = some '/' ↔ IsRootPath path := by
  rw [normalizeBasePath, String.toList_ofList]
  rcases basePathChars_cases path.toList with
    ⟨hroot, hresult⟩ | ⟨_, last, _, _, htrim, hlast, -, hresult⟩
  · exact iff_of_true (by simp [hresult]) hroot
  · have hends : (basePathChars path.toList).getLast? = some last := by
      rw [hresult, ← List.cons_append, List.getLast?_concat]
    refine iff_of_false (by simpa [hends] using hlast) fun hslashes => ?_
    exact hlast (hslashes last (by simp [htrim]))

theorem normalizeBasePath_of_isRootPath {path : String} (hroot : IsRootPath path) :
    normalizeBasePath path = "/" := by
  rcases basePathChars_cases path.toList with ⟨-, hresult⟩ | ⟨_, last, _, _, htrim, hlast, -⟩
  · rw [normalizeBasePath, hresult]
  · exact absurd (hroot last (by simp [htrim])) hlast

/-! ## White space at the end -/

/-- White space stands before the slashes at the end. -/
def HasLooseEnd (path : String) : Prop :=
  ∃ front blank slashes, Text.trimChars path.toList = front ++ blank :: slashes ∧
    Text.isBlank blank = true ∧ ∀ c ∈ slashes, c = '/'

theorem last_eq_of_trailing_slashes {front other slashes slashes' : List Char} {last last' : Char}
    (hsame : front ++ last :: slashes = other ++ last' :: slashes') (hlast : last ≠ '/')
    (hlast' : last' ≠ '/') (hslashes : ∀ c ∈ slashes, c = '/')
    (hslashes' : ∀ c ∈ slashes', c = '/') : last = last' := by
  have hcut : ∀ (cs : List Char) (c : Char) (tail : List Char), c ≠ '/' → (∀ c ∈ tail, c = '/') →
      (cs ++ c :: tail).rdropWhile (· == '/') = cs ++ [c] := by
    intro cs c tail hc htail
    rw [List.rdropWhile, List.reverse_append, List.reverse_cons, List.append_assoc,
      List.dropWhile_append_of_pos (by simpa using htail)]
    simp [hc]
  have hends := congrArg (List.rdropWhile (· == '/')) hsame
  rw [hcut _ _ _ hlast hslashes, hcut _ _ _ hlast' hslashes'] at hends
  simpa using (List.append_inj' hends rfl).2

theorem isTrimmed_normalizeBasePath_iff (path : String) :
    Text.IsTrimmed (normalizeBasePath path) ↔ ¬HasLooseEnd path := by
  have hslash : Text.isBlank '/' = false := by decide
  rw [Text.isTrimmed_iff, normalizeBasePath]
  simp only [String.toList_ofList]
  rcases basePathChars_cases path.toList with
    ⟨hroot, hresult⟩ | ⟨front, last, slashes, middle, htrim, hlast, hslashes, hresult⟩
  · simp only [hresult, List.head_cons, List.getLast_singleton, hslash]
    refine iff_of_true ⟨by simp, trivial, trivial⟩ ?_
    rintro ⟨before, blank, after, hloose, hblank, -⟩
    rw [hroot blank (by simp [hloose]), hslash] at hblank
    cases hblank
  · have hloose : HasLooseEnd path ↔ Text.isBlank last = true := by
      constructor
      · rintro ⟨before, blank, after, hsplit, hblank, hafter⟩
        have hother : blank ≠ '/' := by
          rintro rfl
          rw [hslash] at hblank
          cases hblank
        rwa [last_eq_of_trailing_slashes (htrim.symm.trans hsplit) hlast hother hslashes hafter]
      · intro hblank
        exact ⟨front, last, slashes, htrim, hblank, hslashes⟩
    rw [hloose]
    simp [hresult, hslash]

/-! ## Normalizing twice -/

theorem trimChars_of_basePathChars_eq {rest : List Char}
    (hfixed : basePathChars ('/' :: rest) = '/' :: rest) :
    Text.trimChars ('/' :: rest) = '/' :: rest := by
  have hkept := List.rdropWhile_prefix (· == '/') (Text.trimChars ('/' :: rest))
  have hcut := Text.trimChars_isInfix ('/' :: rest)
  rw [basePathChars_eq] at hfixed
  dsimp only at hfixed
  split at hfixed
  · -- what is left of the path is the path, so nothing was cut
    rw [hfixed] at hkept
    exact hcut.eq_of_length (le_antisymm hcut.length_le hkept.length_le)
  · next hother =>
      obtain ⟨-, hcore⟩ := List.cons.inj hfixed
      have hfirst : (Text.trimChars ('/' :: rest)).head? = some '/' :=
        Text.head?_trimChars (by decide) rest
      cases rest with
      | nil => decide
      | cons c cs =>
          rw [hcore] at hkept hother
          obtain ⟨tail, htrim⟩ := hkept
          rw [← htrim] at hfirst
          exact absurd hfirst hother

theorem normalizeBasePath_fixed_iff (path : String) :
    normalizeBasePath (normalizeBasePath path) = normalizeBasePath path ↔
      Text.IsTrimmed (normalizeBasePath path) := by
  have hhead := head?_normalizeBasePath path
  constructor
  · intro hfixed
    obtain ⟨rest, hrest⟩ := List.head?_eq_some_iff.mp hhead
    have hchars : basePathChars ('/' :: rest) = '/' :: rest := by
      rw [← hrest]
      simpa [normalizeBasePath] using congrArg String.toList hfixed
    refine ⟨fun hempty => by simp [hempty] at hrest, ?_⟩
    rw [Text.trim, hrest, trimChars_of_basePathChars_eq hchars, ← hrest, String.ofList_toList]
  · intro htrimmed
    by_cases hroot : IsRootPath path
    · rw [normalizeBasePath_of_isRootPath hroot]
      decide
    · exact normalizeBasePath_eq_self htrimmed.2
        ⟨hhead, (getLast?_normalizeBasePath_iff path).not.mpr hroot⟩

end Naming

end ApiSurface
