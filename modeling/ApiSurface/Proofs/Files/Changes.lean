import ApiSurface.Proofs.Files.Location
import ApiSurface.Proofs.Resource.Screening

/-!
# Changes of a file tree

Creating directories and writing files are made of single changes: a directory is put where nothing
is, or a file where no directory is (`FileTree.Changes`).  What every single change keeps, the
operations keep: the files elsewhere (`Keeps`), and everything as the kind of thing that it is
(`Grows`).
-/

namespace ApiSurface

namespace FileTree

variable {tree later last created : FileTree} {location : Location} {path contents : String}

/-! ## Nodes -/

def fileAt? (tree : FileTree) (location : Location) : Option String :=
  match tree.node? location with
  | some (.file contents) => some contents
  | _ => none

theorem fileAt?_eq_some_iff :
    tree.fileAt? location = some contents ↔ tree.node? location = some (.file contents) := by
  unfold fileAt?
  split <;> simp_all

theorem node?_of_above (habove : location <+: tree.workingDirectory) :
    tree.node? location = some .directory := by
  rw [node?, if_pos habove]

theorem node?_start (tree : FileTree) (path : String) :
    tree.node? (Path.start tree.workingDirectory path) = some .directory := by
  apply node?_of_above
  unfold Path.start
  split
  · exact List.nil_prefix
  · exact List.prefix_rfl

theorem not_prefix_of_node?_eq_none (hnone : tree.node? location = none) :
    ¬location <+: tree.workingDirectory := by
  intro habove
  rw [node?_of_above habove] at hnone
  cases hnone

theorem not_prefix_of_node?_ne_directory (hfree : tree.node? location ≠ some .directory) :
    ¬location <+: tree.workingDirectory :=
  fun habove => hfree (node?_of_above habove)

theorem node?_put_self (tree : FileTree) {location : Location}
    (hbelow : ¬location <+: tree.workingDirectory) (node : Node) :
    (tree.put location node).node? location = some node := by
  rw [node?_put tree location location node hbelow, if_pos rfl]

theorem node?_put_of_ne (tree : FileTree) {location other : Location} (hne : other ≠ location)
    (node : Node) : (tree.put location node).node? other = tree.node? other := by
  by_cases habove : other <+: tree.workingDirectory
  · rw [node?_of_above habove]
    exact node?_of_above habove
  · rw [node?_put tree location other node habove, if_neg hne]

/-! ## Single changes -/

/-- A later tree comes of single changes: directories at some locations where nothing was, and files
at some locations where no directory was. -/
inductive Changes (created written : Location → Prop) : FileTree → FileTree → Prop
  | done (tree : FileTree) : Changes created written tree tree
  | directory {tree later : FileTree} {location : Location} (hcreated : created location)
      (hnone : tree.node? location = none)
      (hrest : Changes created written (tree.put location .directory) later) :
      Changes created written tree later
  | file {tree later : FileTree} {location : Location} {contents : String}
      (hwritten : written location) (hfree : tree.node? location ≠ some .directory)
      (hrest : Changes created written (tree.put location (.file contents)) later) :
      Changes created written tree later

namespace Changes

variable {made written mayMake mayWrite : Location → Prop}

theorem trans (hfirst : Changes made written tree later)
    (hsecond : Changes made written later last) : Changes made written tree last := by
  induction hfirst with
  | done => exact hsecond
  | directory hmade hnone _ ih => exact .directory hmade hnone (ih hsecond)
  | file hwritten hfree _ ih => exact .file hwritten hfree (ih hsecond)

theorem workingDirectory_eq (hchanges : Changes made written tree later) :
    later.workingDirectory = tree.workingDirectory := by
  induction hchanges with
  | done => rfl
  | directory _ _ _ ih => rw [ih, workingDirectory_put]
  | file _ _ _ ih => rw [ih, workingDirectory_put]

theorem mono (hmade : ∀ location, made location → mayMake location)
    (hwritten : ∀ location, written location → mayWrite location)
    (hchanges : Changes made written tree later) : Changes mayMake mayWrite tree later := by
  induction hchanges with
  | done => exact .done _
  | directory hmadeHere hnone _ ih => exact .directory (hmade _ hmadeHere) hnone ih
  | file hwrittenHere hfree _ ih => exact .file (hwritten _ hwrittenHere) hfree ih

theorem node?_eq_none (hchanges : Changes made written tree later) (hmade : ¬made location)
    (hwritten : ¬written location) (hnone : tree.node? location = none) :
    later.node? location = none := by
  induction hchanges with
  | done => exact hnone
  | directory hmadeHere _ _ ih =>
      exact ih (by rwa [node?_put_of_ne _ (by rintro rfl; exact hmade hmadeHere)])
  | file hwrittenHere _ _ ih =>
      exact ih (by rwa [node?_put_of_ne _ (by rintro rfl; exact hwritten hwrittenHere)])

end Changes

/-! ## Files elsewhere -/

/-- A later tree has the same files outside of some locations, and still every directory. -/
structure Keeps (touched : Location → Prop) (tree later : FileTree) : Prop where
  workingDirectory : later.workingDirectory = tree.workingDirectory
  files : ∀ location, ¬touched location → later.fileAt? location = tree.fileAt? location
  directories : ∀ location, tree.node? location = some .directory →
    later.node? location = some .directory

namespace Keeps

variable {made touched : Location → Prop}

theorem refl (touched : Location → Prop) (tree : FileTree) : Keeps touched tree tree :=
  ⟨rfl, fun _ _ => rfl, fun _ hdirectory => hdirectory⟩

theorem trans (hfirst : Keeps touched tree later) (hsecond : Keeps touched later last) :
    Keeps touched tree last where
  workingDirectory := hsecond.workingDirectory.trans hfirst.workingDirectory
  files location huntouched :=
    (hsecond.files location huntouched).trans (hfirst.files location huntouched)
  directories location hdirectory :=
    hsecond.directories location (hfirst.directories location hdirectory)

theorem mono {mayTouch : Location → Prop} (hmay : ∀ location, touched location → mayTouch location)
    (hkeeps : Keeps touched tree later) : Keeps mayTouch tree later :=
  ⟨hkeeps.workingDirectory,
    fun location huntouched => hkeeps.files location (mt (hmay location) huntouched),
    hkeeps.directories⟩

theorem put_directory (touched : Location → Prop) (hnone : tree.node? location = none) :
    Keeps touched tree (tree.put location .directory) := by
  have hself : (tree.put location .directory).node? location = some .directory :=
    node?_put_self tree (not_prefix_of_node?_eq_none hnone) .directory
  refine ⟨rfl, ?_, ?_⟩
  · intro other _
    by_cases hother : other = location
    · subst hother
      rw [fileAt?, fileAt?, hself, hnone]
    · rw [fileAt?, fileAt?, node?_put_of_ne tree hother]
  · intro other hdirectory
    by_cases hother : other = location
    · rw [hother, hself]
    · rw [node?_put_of_ne tree hother, hdirectory]

theorem put_file (htouched : touched location) (hfree : tree.node? location ≠ some .directory)
    (contents : String) : Keeps touched tree (tree.put location (.file contents)) := by
  refine ⟨rfl, ?_, ?_⟩
  · intro other huntouched
    have hother : other ≠ location := by
      rintro rfl
      exact huntouched htouched
    rw [fileAt?, fileAt?, node?_put_of_ne tree hother]
  · intro other hdirectory
    have hother : other ≠ location := by
      rintro rfl
      exact hfree hdirectory
    rw [node?_put_of_ne tree hother, hdirectory]

theorem of_changes (hchanges : Changes made touched tree later) : Keeps touched tree later := by
  induction hchanges with
  | done tree => exact .refl touched tree
  | directory _ hnone _ ih => exact (put_directory touched hnone).trans ih
  | file hwritten hfree _ ih => exact (put_file hwritten hfree _).trans ih

end Keeps

/-! ## Kinds of nodes -/

/-- A later tree still has every directory, and a file wherever there was one. -/
structure Grows (tree later : FileTree) : Prop where
  workingDirectory : later.workingDirectory = tree.workingDirectory
  directories : ∀ location, tree.node? location = some .directory →
    later.node? location = some .directory
  files : ∀ location, (tree.fileAt? location).isSome → (later.fileAt? location).isSome

namespace Grows

variable {made written : Location → Prop}

theorem refl (tree : FileTree) : Grows tree tree :=
  ⟨rfl, fun _ hdirectory => hdirectory, fun _ hfile => hfile⟩

theorem trans (hfirst : Grows tree later) (hsecond : Grows later last) : Grows tree last where
  workingDirectory := hsecond.workingDirectory.trans hfirst.workingDirectory
  directories location hdirectory :=
    hsecond.directories location (hfirst.directories location hdirectory)
  files location hfile := hsecond.files location (hfirst.files location hfile)

theorem of_changes (hchanges : Changes made written tree later) : Grows tree later := by
  refine ⟨hchanges.workingDirectory_eq, (Keeps.of_changes hchanges).directories,
    fun location hfile => ?_⟩
  induction hchanges with
  | done => exact hfile
  | directory _ hnone _ ih =>
      exact ih (by rwa [(Keeps.put_directory (fun _ => False) hnone).files _ not_false])
  | @file tree _ changed contents _ hfree _ ih =>
      apply ih
      by_cases hsame : location = changed
      · subst hsame
        have hbelow := not_prefix_of_node?_ne_directory hfree
        rw [fileAt?_eq_some_iff.mpr (node?_put_self tree hbelow _)]
        rfl
      · have hput : Keeps (changed = ·) tree (tree.put changed (.file contents)) :=
          .put_file rfl hfree contents
        rwa [hput.files _ (Ne.symm hsame)]

theorem node?_ne_none (hgrows : Grows tree later) (hthere : tree.node? location ≠ none) :
    later.node? location ≠ none := by
  cases hnode : tree.node? location with
  | none => exact absurd hnode hthere
  | some node =>
      cases node with
      | directory => simp [hgrows.directories location hnode]
      | file contents =>
          have hfile := hgrows.files location (by simp [fileAt?_eq_some_iff.mpr hnode])
          obtain ⟨found, hfound⟩ := Option.isSome_iff_exists.mp hfile
          simp [fileAt?_eq_some_iff.mp hfound]

end Grows

/-! ## Operations -/

variable {made written : Location → Prop}

theorem changes_createFrom {steps : List String}
    (hcreate : tree.createFrom location steps = .ok created)
    (hmade : ∀ front, front <+: steps → made (front.foldl Path.move location)) :
    Changes made written tree created := by
  fun_induction createFrom tree location steps with
  | case1 =>
      cases hcreate
      exact .done _
  | case2 tree location steps ih =>
      exact ih hcreate fun front hfront => hmade ("." :: front) (by simpa using hfront)
  | case3 tree location steps ih =>
      exact ih hcreate fun front hfront => hmade (".." :: front) (by simpa using hfront)
  | case4 tree location name steps hdot hdots next hnode ih =>
      refine ih hcreate fun front hfront => ?_
      have hfront := hmade (name :: front) (by simpa using hfront)
      rwa [List.foldl_cons, Path.move_name location hdot hdots] at hfront
  | case5 tree location name steps hdot hdots next hnode ih =>
      have hnext : made next := by
        have hname := hmade [name] (by simp)
        rwa [List.foldl_cons, List.foldl_nil, Path.move_name location hdot hdots] at hname
      refine .directory hnext hnode (ih hcreate fun front hfront => ?_)
      have hfront := hmade (name :: front) (by simpa using hfront)
      rwa [List.foldl_cons, Path.move_name location hdot hdots] at hfront
  | case6 => cases hcreate

theorem changes_createDirectories (hcreate : tree.createDirectories path = .ok created)
    (hmade : ∀ front, front <+: Path.steps path →
      made (front.foldl Path.move (Path.start tree.workingDirectory path))) :
    Changes made written tree created :=
  changes_createFrom hcreate hmade

theorem eq_put_of_write (hwrite : tree.write path contents = .ok later) :
    let location := Path.location tree.workingDirectory path
    tree.locate path = .ok location ∧ tree.node? location ≠ some .directory ∧
      later = tree.put location (.file contents) := by
  obtain ⟨location, hlocate, hput⟩ := bind_eq_ok_iff.mp hwrite
  have hlocation : location = Path.location tree.workingDirectory path := location_of_locate hlocate
  subst hlocation
  refine ⟨hlocate, ?_⟩
  split at hput
  · cases hput
  next hfree =>
    cases hput
    exact ⟨fun hdirectory => hfree hdirectory, rfl⟩

theorem changes_write (hwritten : written (Path.location tree.workingDirectory path))
    (hwrite : tree.write path contents = .ok later) : Changes made written tree later := by
  obtain ⟨-, hfree, rfl⟩ := eq_put_of_write hwrite
  exact .file hwritten hfree (.done _)

theorem keeps_createDirectories (touched : Location → Prop)
    (hcreate : tree.createDirectories path = .ok created) : Keeps touched tree created := by
  have hchanges : Changes (fun _ => True) touched tree created :=
    changes_createDirectories hcreate fun _ _ => trivial
  exact .of_changes hchanges

theorem keeps_write (hwritten : written (Path.location tree.workingDirectory path))
    (hwrite : tree.write path contents = .ok later) : Keeps written tree later := by
  have hchanges : Changes (fun _ => False) written tree later := changes_write hwritten hwrite
  exact .of_changes hchanges

theorem fileAt?_of_write (hwrite : tree.write path contents = .ok later) :
    later.fileAt? (Path.location tree.workingDirectory path) = some contents := by
  obtain ⟨-, hfree, rfl⟩ := eq_put_of_write hwrite
  rw [fileAt?_eq_some_iff, node?_put_self tree (not_prefix_of_node?_ne_directory hfree)]

end FileTree

end ApiSurface
