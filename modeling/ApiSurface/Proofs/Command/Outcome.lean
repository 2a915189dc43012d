import ApiSurface.Proofs.Command.Writing

/-!
# The outcome of writing

What a run that succeeds has done to the files of a session, and what a dry run and a second run say
of it (`writeFiles_outcome`).  The facts are those of the turns that the run consists of.  Whether a
file is there is asked in the tree of its own turn, with the directories of the files before it.
That is no other answer than in the first tree, unless a target goes up: the way through a directory
that is missing can be gone once the directory is created (`goingUp_overwrites`).
-/

namespace ApiSurface

open Output

/-- Every path is in one of the lists of a summary, which are both in the order of the paths. -/
inductive WriteSummary.Sorts : WriteSummary → List String → Prop
  | done : Sorts .empty []
  | written {summary : WriteSummary} {paths : List String} (path : String)
      (hrest : Sorts summary paths) : Sorts (summary.withWritten path) (path :: paths)
  | skipped {summary : WriteSummary} {paths : List String} (path : String)
      (hrest : Sorts summary paths) : Sorts (summary.withSkipped path) (path :: paths)

theorem WriteSummary.Sorts.mem_of_mem_written {summary : WriteSummary} {paths : List String}
    (hsorts : summary.Sorts paths) {path : String} (hwritten : path ∈ summary.written) :
    path ∈ paths := by
  induction hsorts with
  | done => exact hwritten
  | written first _ ih =>
      rcases List.mem_cons.mp hwritten with rfl | hwritten
      · exact List.mem_cons_self
      · exact List.mem_cons_of_mem first (ih hwritten)
  | skipped first _ ih => exact List.mem_cons_of_mem first (ih hwritten)

/-- No location is on the way to another one. -/
def LieApart (locations : List Location) : Prop :=
  locations.Pairwise fun first second => ¬first <+: second ∧ ¬second <+: first

instance (locations : List Location) : Decidable (LieApart locations) :=
  inferInstanceAs (Decidable (List.Pairwise _ _))

theorem LieApart.nodup {locations : List Location} (hapart : LieApart locations) :
    locations.Nodup := by
  refine hapart.imp ?_
  rintro first _ ⟨habove, -⟩ rfl
  exact habove List.prefix_rfl

namespace Turns

variable {options : WriteOptions} {working : Location} {directory : String}
  {files : List RenderedFile} {start tree last : FileTree} {summary : WriteSummary}

theorem sorts (hturns : Turns options directory files tree summary last) :
    summary.Sorts (files.map (RenderedFile.target directory)) := by
  induction hturns with
  | done => exact .done
  | skipped _ _ _ ih => exact ih.skipped _
  | planned _ _ _ ih => exact ih.written _
  | placed _ _ _ _ ih => exact ih.written _

theorem grows (hturns : Turns options directory files tree summary last) :
    FileTree.Grows tree last := by
  induction hturns with
  | done tree => exact .refl tree
  | skipped _ _ _ ih => exact ih
  | planned _ _ _ ih => exact ih
  | placed _ _ hplace _ ih =>
      exact (FileTree.Grows.of_changes (FileTree.changes_place hplace)).trans ih

theorem isRooted (hturns : Turns options directory files tree summary last)
    (hrooted : tree.IsRooted) : last.IsRooted := by
  induction hturns with
  | done => exact hrooted
  | skipped _ _ _ ih => exact ih hrooted
  | planned _ _ _ ih => exact ih hrooted
  | placed _ _ hplace _ ih => exact ih (hrooted.place hplace)

theorem eq_of_dryRun (hturns : Turns options directory files tree summary last)
    (hdry : options.dryRun = true) : last = tree := by
  induction hturns with
  | done => rfl
  | skipped _ _ _ ih => exact ih
  | planned _ _ _ ih => exact ih
  | placed _ hreal =>
      rw [hdry] at hreal
      cases hreal

/-! ## Files that were there -/

theorem kept_or_exists (hturns : Turns options directory files tree summary last)
    (hkept : options.overwrite = false) (hrooted : tree.IsRooted)
    (hworking : tree.workingDirectory = working) {location : Location} {contents : String}
    (hfile : tree.fileAt? location = some contents) :
    last.fileAt? location = some contents ∨
      ∃ file ∈ files, file.location working directory = location ∧
        ¬Path.Descends (file.target directory) := by
  induction hturns with
  | done => exact Or.inl hfile
  | skipped _ _ _ ih => exact (ih hrooted hworking hfile).imp_right List.exists_mem_cons_of_exists
  | planned _ _ _ ih => exact (ih hrooted hworking hfile).imp_right List.exists_mem_cons_of_exists
  | @placed file files tree middle last summary hfree _ hplace _ ih =>
      subst hworking
      by_cases hhere : file.location tree.workingDirectory directory = location
      · -- such a file is found before it is placed, if its target leads down to it
        refine Or.inr ⟨file, List.mem_cons_self, hhere, fun hdescends => ?_⟩
        have hthere :
            tree.node? (Path.location tree.workingDirectory (file.target directory)) ≠ none := by
          change tree.node? (file.location tree.workingDirectory directory) ≠ none
          rw [hhere, FileTree.fileAt?_eq_some_iff.mp hfile]
          simp
        have hoverwrite := hfree (hrooted.contains_of_place hdescends hplace hthere)
        rw [hkept] at hoverwrite
        cases hoverwrite
      · have hturn := FileTree.Keeps.of_changes (FileTree.changes_place hplace)
        have hmiddle : middle.fileAt? location = some contents := by
          rw [hturn.files location (Ne.symm hhere), hfile]
        exact (ih (hrooted.place hplace) (FileTree.workingDirectory_of_place hplace)
          hmiddle).imp_right List.exists_mem_cons_of_exists

/-! ## Dry runs -/

theorem planned_of (hturns : Turns options directory files tree summary last)
    (hworking : tree.workingDirectory = working)
    (hlasting : options.overwrite = true ∨
      tree.IsRooted ∧ ∀ file ∈ files, Path.Descends (file.target directory))
    (hapart : LieApart (files.map (RenderedFile.location working directory)))
    (hsame : options.overwrite = false → ∀ file ∈ files,
      start.contains (file.target directory) = tree.contains (file.target directory)) :
    Turns { options with dryRun := true } directory files start summary start := by
  have hothers {tree : FileTree} {file : RenderedFile} {files : List RenderedFile}
      (hlasting : options.overwrite = true ∨
        tree.IsRooted ∧ ∀ other ∈ file :: files, Path.Descends (other.target directory)) :
      options.overwrite = true ∨
        tree.IsRooted ∧ ∀ other ∈ files, Path.Descends (other.target directory) :=
    hlasting.imp_right fun ⟨hrooted, hdown⟩ => ⟨hrooted, (List.forall_mem_cons.mp hdown).2⟩
  have hstill {tree : FileTree} {file : RenderedFile}
      (hfree : tree.contains (file.target directory) = true → options.overwrite = true)
      (hsame : options.overwrite = false →
        start.contains (file.target directory) = tree.contains (file.target directory)) :
      start.contains (file.target directory) = true → options.overwrite = true := by
    intro hstart
    cases hoverwrite : options.overwrite with
    | true => rfl
    | false => rw [← hoverwrite, hfree ((hsame hoverwrite).symm.trans hstart)]
  induction hturns with
  | done => exact .done start
  | @skipped file files tree last summary hthere hkept _ ih =>
      obtain ⟨hfirst, hsame⟩ := List.forall_mem_cons.mp (hsame hkept)
      exact .skipped (hfirst.trans hthere) hkept
        (ih hworking (hothers hlasting) (List.pairwise_cons.mp hapart).2 fun _ => hsame)
  | @planned file files tree last summary hfree hdry _ ih =>
      have hsame := fun hkept => List.forall_mem_cons.mp (hsame hkept)
      exact .planned (hstill hfree fun hkept => (hsame hkept).1) rfl
        (ih hworking (hothers hlasting) (List.pairwise_cons.mp hapart).2
          fun hkept => (hsame hkept).2)
  | @placed file files tree middle last summary hfree _ hplace _ ih =>
      subst hworking
      have hmiddle := FileTree.workingDirectory_of_place hplace
      have hsame := fun hkept => List.forall_mem_cons.mp (hsame hkept)
      obtain ⟨hfirst, hapart⟩ := List.pairwise_cons.mp hapart
      refine .planned (hstill hfree fun hkept => (hsame hkept).1) rfl (ih hmiddle ?_ hapart ?_)
      · exact (hothers hlasting).imp_right (And.imp_left fun hrooted => hrooted.place hplace)
      · -- placing this file brings none of the others about
        intro hkept other hother
        rw [(hsame hkept).2 other hother]
        rcases hlasting with hoverwrite | ⟨hrooted, hdown⟩
        · rw [hkept] at hoverwrite
          cases hoverwrite
        · obtain ⟨hhere, hdown⟩ := List.forall_mem_cons.mp hdown
          have hnotAbove := (hfirst _ (List.mem_map_of_mem hother)).2
          exact (hrooted.contains_eq_of_place hhere (hdown other hother) hnotAbove hplace).symm

/-! ## Files that are there now -/

theorem contains_last (hturns : Turns options directory files tree summary last)
    (hdry : options.dryRun = false) :
    ∀ file ∈ files, last.contains (file.target directory) = true := by
  induction hturns with
  | done => exact fun _ hfile => absurd hfile List.not_mem_nil
  | skipped hthere _ hrest ih => exact List.forall_mem_cons.mpr ⟨hrest.grows.contains hthere, ih⟩
  | planned _ hplanned =>
      rw [hdry] at hplanned
      cases hplanned
  | placed _ _ hplace hrest ih =>
      have hthere := FileTree.contains_of_place hplace
      exact List.forall_mem_cons.mpr ⟨hrest.grows.contains hthere, ih⟩

theorem of_contains (dryRun : Bool)
    (hthere : ∀ file ∈ files, tree.contains (file.target directory) = true) :
    Turns ⟨false, dryRun⟩ directory files tree ⟨[], files.map (RenderedFile.target directory)⟩
      tree := by
  induction files with
  | nil => exact .done tree
  | cons file files ih =>
      obtain ⟨hfirst, hthere⟩ := List.forall_mem_cons.mp hthere
      exact .skipped hfirst rfl (ih hthere)

theorem location_eq_of_target_eq {file other : RenderedFile}
    (hsame : other.target directory = file.target directory) :
    other.location working directory = file.location working directory :=
  congrArg (Path.location working) hsame

theorem notMem_written (hturns : Turns options directory files tree summary last)
    {file : RenderedFile}
    (hfresh : file.location working directory ∉
      files.map (RenderedFile.location working directory)) :
    file.target directory ∉ summary.written := by
  intro hwritten
  obtain ⟨other, hother, hsame⟩ := List.mem_map.mp (hturns.sorts.mem_of_mem_written hwritten)
  exact hfresh (location_eq_of_target_eq hsame ▸ List.mem_map_of_mem hother)

theorem read_of_written (hturns : Turns options directory files tree summary last)
    (hdry : options.dryRun = false) (hworking : tree.workingDirectory = working)
    (hnodup : (files.map (RenderedFile.location working directory)).Nodup) :
    ∀ file ∈ files, file.target directory ∈ summary.written →
      last.read (file.target directory) = .ok file.contents := by
  induction hturns with
  | done => exact fun _ hfile => absurd hfile List.not_mem_nil
  | skipped _ _ hrest ih =>
      obtain ⟨hfresh, hnodup⟩ := List.nodup_cons.mp hnodup
      exact List.forall_mem_cons.mpr
        ⟨fun hwritten => absurd hwritten (hrest.notMem_written hfresh), ih hworking hnodup⟩
  | planned _ hplanned =>
      rw [hdry] at hplanned
      cases hplanned
  | @placed file files tree middle last summary _ _ hplace hrest ih =>
      subst hworking
      have hmiddle := FileTree.workingDirectory_of_place hplace
      obtain ⟨hfresh, hnodup⟩ := List.nodup_cons.mp hnodup
      refine List.forall_mem_cons.mpr ⟨fun _ => ?_, fun other hother hwritten => ?_⟩
      · have hthere := FileTree.contains_of_place hplace
        have hfile := FileTree.fileAt?_of_place hplace
        rw [← hmiddle] at hfile hfresh
        refine FileTree.read_of_contains (hrest.grows.contains hthere) ?_
        rw [hrest.grows.workingDirectory]
        exact (hrest.keeps.files _ hfresh).trans hfile
      · refine ih hmiddle hnodup other hother
          ((List.mem_cons.mp hwritten).resolve_left fun hsame => ?_)
        exact hfresh (location_eq_of_target_eq hsame ▸ List.mem_map_of_mem hother)

end Turns

/--
A run that succeeds sorts the targets into the written and the skipped ones, in their order, touches
no file elsewhere, and in a dry run nothing at all.  Without overwriting it keeps every file that
was there, up to those that a target reaches by going up.  A second run finds every target there.  If
the locations of the targets lie apart, written targets have their contents, and a dry run would
have said the same: for targets that lead down, and for all where overwriting is asked for.
-/
theorem writeFiles_outcome (formatter : List String → Option String) (options : WriteOptions)
    (directory : String) (files : List RenderedFile) {session final : Session}
    {summary : WriteSummary}
    (hrun : writeFiles (Session.host formatter) options directory files session =
      (.ok summary, final)) :
    let targets := files.map (RenderedFile.target directory)
    let locations := files.map (RenderedFile.location session.tree.workingDirectory directory)
    summary.Sorts targets ∧
      (session.tree.IsRooted → final.tree.IsRooted) ∧
      (∀ location ∉ locations, final.tree.fileAt? location = session.tree.fileAt? location) ∧
      (options.dryRun = true → final.tree = session.tree) ∧
      (options.overwrite = false → session.tree.IsRooted →
        ∀ location contents, session.tree.fileAt? location = some contents →
          final.tree.fileAt? location = some contents ∨
            ∃ file ∈ files, file.location session.tree.workingDirectory directory = location ∧
              ¬Path.Descends (file.target directory)) ∧
      (options.dryRun = false → ∀ dryRun again, again.tree = final.tree →
        ∃ later, writeFiles (Session.host formatter) ⟨false, dryRun⟩ directory files again =
          (.ok ⟨[], targets⟩, later) ∧ later.tree = final.tree) ∧
      (LieApart locations →
        (options.dryRun = false → ∀ file ∈ files, file.target directory ∈ summary.written →
          final.tree.read (file.target directory) = .ok file.contents) ∧
        ((options.overwrite = true ∨
            session.tree.IsRooted ∧ ∀ file ∈ files, Path.Descends (file.target directory)) →
          ∃ planned, writeFiles (Session.host formatter) { options with dryRun := true } directory
            files session = (.ok summary, planned))) := by
  intro targets locations
  have hturns := turns_of_writeFiles hrun
  refine ⟨hturns.sorts, hturns.isRooted, hturns.keeps.files, hturns.eq_of_dryRun, ?_, ?_, ?_⟩
  · exact fun hkept hrooted location contents => hturns.kept_or_exists hkept hrooted rfl
  · intro hdry dryRun again hagain
    exact exists_of_turns (.of_contains dryRun (hturns.contains_last hdry)) formatter again hagain
  · refine fun hapart => ⟨fun hdry => ?_, fun hlasting => ?_⟩
    · exact hturns.read_of_written hdry rfl hapart.nodup
    have hplanned := hturns.planned_of rfl hlasting hapart fun _ _ _ => rfl
    obtain ⟨planned, hplanned, -⟩ := exists_of_turns hplanned formatter session rfl
    exact ⟨planned, hplanned⟩

theorem besideKept_outcome :
    let files : List RenderedFile := [⟨"orders.json", "[]"⟩, ⟨"beside/shops.json", "[1]"⟩]
    let session := Session.start
      ⟨["home"], [(["out"], .directory), (["out", "orders.json"], .file "old")]⟩
    ∃ final,
      writeFiles (Session.host fun _ => none) ⟨false, false⟩ "/out" files session =
        (.ok ⟨["/out/beside/shops.json"], ["/out/orders.json"]⟩, final) ∧
      final.tree.IsRooted ∧
      final.tree.fileAt? ["out", "orders.json"] = some "old" ∧
      final.tree.read "/out/beside/shops.json" = .ok "[1]" ∧
      (∃ later, writeFiles (Session.host fun _ => none) ⟨false, false⟩ "/out" files final =
        (.ok ⟨[], ["/out/orders.json", "/out/beside/shops.json"]⟩, later) ∧
          later.tree = final.tree) ∧
      ∃ planned, writeFiles (Session.host fun _ => none) ⟨false, true⟩ "/out" files session =
        (.ok ⟨["/out/beside/shops.json"], ["/out/orders.json"]⟩, planned) := by
  intro files session
  have hsummary : (writeFiles (Session.host fun _ => none) ⟨false, false⟩ "/out" files session).1 =
      .ok ⟨["/out/beside/shops.json"], ["/out/orders.json"]⟩ := by decide +kernel
  have hrooted : session.tree.IsRooted := FileTree.isRooted_of_entries (by decide)
  have htargets : files.map (RenderedFile.target "/out") =
      ["/out/orders.json", "/out/beside/shops.json"] := by decide +kernel
  have htarget : files[1].target "/out" = "/out/beside/shops.json" := by decide +kernel
  have hdown : ∀ file ∈ files, Path.Descends (file.target "/out") := by decide +kernel
  have hapart : LieApart (files.map (RenderedFile.location ["home"] "/out")) := by decide +kernel
  obtain ⟨-, hrooted', -, -, hkept, hagain, hlie⟩ :=
    writeFiles_outcome (fun _ => none) ⟨false, false⟩ "/out" files (Prod.ext hsummary rfl)
  obtain ⟨hread, hplanned⟩ := hlie hapart
  refine ⟨_, Prod.ext hsummary rfl, hrooted' hrooted, ?_, ?_, ?_, ?_⟩
  · refine (hkept rfl hrooted ["out", "orders.json"] "old" rfl).resolve_right ?_
    exact fun ⟨file, hfile, _, hup⟩ => hup (hdown file hfile)
  · rw [← htarget]
    exact hread rfl files[1] (by decide) (by rw [htarget]; decide)
  · rw [← htargets]
    exact hagain rfl false _ rfl
  · exact hplanned (Or.inr ⟨hrooted, hdown⟩)

/-- A target that goes up through a missing directory is not found, and is there once the directory
is created for it: the file at its end is overwritten unasked. -/
theorem goingUp_overwrites :
    let files : List RenderedFile := [⟨"orders.json", "[]"⟩]
    let session := Session.start ⟨["home"], [(["home", "orders.json"], .file "written by hand")]⟩
    session.tree.IsRooted ∧
      session.tree.fileAt? ["home", "orders.json"] = some "written by hand" ∧
      ∃ final,
        writeFiles (Session.host fun _ => none) ⟨false, false⟩ "new/.." files session =
          (.ok ⟨["new/../orders.json"], []⟩, final) ∧
        final.tree.fileAt? ["home", "orders.json"] = some "[]" := by
  intro files session
  refine ⟨FileTree.isRooted_of_entries (by decide), rfl, _, Prod.ext ?_ rfl, ?_⟩
  · decide +kernel
  · decide +kernel

end ApiSurface
