import ApiSurface.Files.FileTree
import ApiSurface.Proofs.Text.Joining
import Mathlib.Tactic.MkIffOfInductiveProp

/-!
# Where paths lead

Following a path in a tree either fails or leads to the location that its steps spell, from the root
or from the working directory (`location_of_locate`).  A plain name is one more step behind those of
the directory that it is joined to, however the directory is written.
-/

namespace ApiSurface

namespace Path

/-! ## Plain names -/

/-- One name that stands for an entry of a directory. -/
@[mk_iff]
structure IsPlain (name : String) : Prop where
  ne_empty : name ≠ ""
  ne_dot : name ≠ "."
  ne_dots : name ≠ ".."
  slashless : '/' ∉ name.toList

instance (name : String) : Decidable (IsPlain name) :=
  decidable_of_iff' _ (isPlain_iff name)

/-! ## Names of a path -/

def names (path : String) : List String :=
  (Text.split '/' path).filter fun piece => !piece.isEmpty

theorem names_append_slash (directory name : String) :
    names (directory ++ "/" ++ name) = names directory ++ names name := by
  rw [names, Text.split_append rfl, List.filter_append, names, names]

theorem names_of_slashless {name : String} (hne : name ≠ "") (hslash : '/' ∉ name.toList) :
    names name = [name] := by
  rw [names, Text.split_of_notMem hslash]
  simp [hne]

theorem endsWith_slash_iff (path : String) :
    path.endsWith "/" = true ↔ ∃ directory, path = directory ++ "/" := by
  have hsuffix : path.toSlice.endsWith "/" = true ↔ "/".toList <:+ path.toSlice.copy.toList :=
    String.Slice.endsWith_string_iff
  rw [String.copy_toSlice] at hsuffix
  change path.toSlice.endsWith "/" = true ↔ _
  rw [hsuffix]
  constructor
  · rintro ⟨front, hfront⟩
    refine ⟨.ofList front, String.toList_inj.mp ?_⟩
    rw [String.toList_append, String.toList_ofList, hfront]
  · rintro ⟨directory, rfl⟩
    exact ⟨directory.toList, by simp⟩

theorem steps_eq (path : String) :
    steps path = names path ++ if path.endsWith "/" then ["."] else [] := by
  unfold steps names
  split <;> simp

theorem startsWith_slash_eq_false {name : String} (hslash : '/' ∉ name.toList) :
    name.startsWith "/" = false := by
  rw [String.startsWith_string_eq_false_iff]
  intro hstart
  exact hslash (hstart.subset (by simp))

theorem names_join_of_slashless (directory : String) {name : String}
    (hslash : '/' ∉ name.toList) : names (join directory name) = names directory ++ names name := by
  -- the slash between the two is added, or is the last one of the directory, or there is none
  unfold join
  rw [startsWith_slash_eq_false hslash, if_neg Bool.false_ne_true]
  by_cases hempty : directory = ""
  · subst hempty
    simp [names, Text.split, Text.splitAt]
  · by_cases hends : directory.endsWith "/" = true
    · obtain ⟨front, rfl⟩ := (endsWith_slash_iff directory).mp hends
      have hfront : names (front ++ "/") = names front := by
        simpa [names, Text.split, Text.splitAt] using names_append_slash front ""
      rw [if_pos (by simp [hends]), names_append_slash, hfront]
    · rw [if_neg (by simp [hends, hempty]), names_append_slash]

theorem names_join (directory : String) {name : String} (hname : IsPlain name) :
    names (join directory name) = names directory ++ [name] := by
  rw [names_join_of_slashless directory hname.slashless,
    names_of_slashless hname.ne_empty hname.slashless]

/-! ## Starts of paths -/

theorem start_of_slashless (working : Location) {name : String} (hslash : '/' ∉ name.toList) :
    start working name = working := by
  rw [start, startsWith_slash_eq_false hslash, if_neg Bool.false_ne_true]

theorem startsWith_slash_append {front : String} (hne : front ≠ "") (rest : String) :
    (front ++ rest).startsWith "/" = front.startsWith "/" := by
  obtain ⟨c, cs, hfront⟩ := List.exists_cons_of_ne_nil (String.toList_eq_nil_iff.not.mpr hne)
  rw [Bool.eq_iff_iff, String.startsWith_string_iff, String.startsWith_string_iff,
    String.toList_append, hfront]
  simp

theorem start_join (working : Location) (directory : String) {name : String}
    (hslash : '/' ∉ name.toList) :
    start working (join directory name) = start working directory := by
  unfold join
  rw [startsWith_slash_eq_false hslash, if_neg Bool.false_ne_true]
  by_cases hempty : directory = ""
  · subst hempty
    have hname : start working ("" ++ name) = working := by
      rw [String.empty_append, start_of_slashless working hslash]
    exact hname.trans (start_of_slashless working (by decide)).symm
  · unfold start
    split
    · rw [startsWith_slash_append hempty]
    · rw [String.append_assoc, startsWith_slash_append hempty]

/-! ## Locations -/

def move (location : Location) (step : String) : Location :=
  if step = "." then location
  else if step = ".." then location.dropLast
  else location ++ [step]

theorem move_name (location : Location) {name : String} (hdot : name ≠ ".") (hdots : name ≠ "..") :
    move location name = location ++ [name] := by
  rw [move, if_neg hdot, if_neg hdots]

/-- Where a path leads when every directory on the way is there. -/
def location (working : Location) (path : String) : Location :=
  (steps path).foldl move (start working path)

theorem location_eq (working : Location) (path : String) :
    location working path = (names path).foldl move (start working path) := by
  rw [location, steps_eq, List.foldl_append]
  split
  · rfl
  · rfl

theorem location_join (working : Location) (directory : String) {name : String}
    (hname : IsPlain name) :
    location working (join directory name) = location working directory ++ [name] := by
  rw [location_eq, location_eq, names_join directory hname,
    start_join working directory hname.slashless, List.foldl_append, List.foldl_cons,
    List.foldl_nil, move_name _ hname.ne_dot hname.ne_dots]

theorem location_name (working : Location) {name : String} (hname : IsPlain name) :
    location working name = working ++ [name] := by
  rw [location_eq, names_of_slashless hname.ne_empty hname.slashless,
    start_of_slashless working hname.slashless, List.foldl_cons, List.foldl_nil,
    move_name _ hname.ne_dot hname.ne_dots]

end Path

namespace FileTree

variable {tree : FileTree} {start reached : Location}

theorem follow_cons (tree : FileTree) (start : Location) (step : String) (steps : List String) :
    tree.follow start (step :: steps) =
      match tree.node? start with
      | none => .error .notFound
      | some (.file _) => .error .notDirectory
      | some .directory => tree.follow (Path.move start step) steps := by
  rw [follow.eq_def]
  dsimp only
  cases tree.node? start with
  | none => rfl
  | some node =>
      cases node with
      | file contents => rfl
      | directory =>
          simp only
          split
          next => rfl
          next => rfl
          next hdot hdots => rw [Path.move_name start hdot hdots]

theorem foldl_move_of_follow {steps : List String}
    (hfollow : tree.follow start steps = .ok reached) :
    reached = steps.foldl Path.move start := by
  induction steps generalizing start with
  | nil =>
      rw [follow] at hfollow
      cases hfollow
      rfl
  | cons step steps ih =>
      rw [follow_cons] at hfollow
      split at hfollow
      · cases hfollow
      · cases hfollow
      · exact ih hfollow

theorem location_of_locate {path : String} (hlocate : tree.locate path = .ok reached) :
    reached = Path.location tree.workingDirectory path := by
  unfold locate at hlocate
  split at hlocate
  · cases hlocate
  · exact foldl_move_of_follow hlocate

end FileTree

end ApiSurface
