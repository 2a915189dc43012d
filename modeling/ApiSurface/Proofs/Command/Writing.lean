import ApiSurface.Command.Writing
import ApiSurface.Proofs.Files.Passage

/-!
# What writing leaves of a file tree

A run of operations in a session keeps what each of them keeps (`Run.Keeps`).  Writing rendered
files therefore keeps every file elsewhere, also when it fails half-way (`keeps_writeFiles`).  A run
that succeeds is one turn for each file (`turns_of_writeFiles`, `exists_of_turns`); files with
locations of their own do not get into each other's way (`settled_of_writeFiles`).
-/

namespace ApiSurface

open Output

/-! ## Runs in a session -/

namespace Run

variable {α β : Type}

theorem bind_apply (first : Run (StateM Session) α) (next : α → Run (StateM Session) β)
    (session : Session) :
    (first >>= next) session =
      match first session with
      | (.ok value, later) => next value later
      | (.error failure, later) => (.error failure, later) := by
  simp only [bind, ExceptT.bind, ExceptT.mk, StateT.bind]
  rcases first session with ⟨_ | _, _⟩ <;> rfl

theorem lift_apply (action : StateM Session α) (session : Session) :
    (liftM action : Run (StateM Session) α) session =
      (.ok (action session).1, (action session).2) :=
  rfl

theorem ofFile_change_apply (failure : FileError → Failure)
    (update : FileTree → Except FileError FileTree) (session : Session) :
    ofFile failure (Session.change update) session =
      match update session.tree with
      | .ok tree => (.ok (), { session with tree := tree })
      | .error error => (.error (failure error), session) := by
  rw [ofFile, bind_apply, lift_apply, Session.change]
  cases update session.tree <;> rfl

theorem ofFile_change_eq_ok_iff (failure : FileError → Failure)
    (update : FileTree → Except FileError FileTree) {session final : Session} :
    ofFile failure (Session.change update) session = (.ok (), final) ↔
      ∃ tree, update session.tree = .ok tree ∧ { session with tree := tree } = final := by
  rw [ofFile_change_apply]
  constructor
  · intro hrun
    split at hrun
    next tree htree =>
      cases hrun
      exact ⟨tree, htree, rfl⟩
    next => cases hrun
  · rintro ⟨tree, htree, rfl⟩
    rw [htree]

theorem exists_of_bind {first : Run (StateM Session) α} {next : α → Run (StateM Session) β}
    {session final : Session} {result : β} (hrun : (first >>= next) session = (.ok result, final)) :
    ∃ value middle,
      first session = (.ok value, middle) ∧ next value middle = (.ok result, final) := by
  rw [bind_apply] at hrun
  rcases hfirst : first session with ⟨failure | value, middle⟩
  · rw [hfirst] at hrun
    cases hrun
  · rw [hfirst] at hrun
    exact ⟨value, middle, rfl, hrun⟩

theorem bind_eq_ok {first : Run (StateM Session) α} {next : α → Run (StateM Session) β}
    {session middle final : Session} {value : α} {result : β}
    (hfirst : first session = (.ok value, middle))
    (hnext : next value middle = (.ok result, final)) :
    (first >>= next) session = (.ok result, final) := by
  rw [bind_apply, hfirst]
  exact hnext

/-- Whatever its outcome, a run in a working directory keeps files and directories. -/
def Keeps (working : Location) (touched : Location → Prop) (run : Run (StateM Session) α) : Prop :=
  ∀ session, session.tree.workingDirectory = working →
    FileTree.Keeps touched session.tree (run session).2.tree

variable {working : Location} {touched : Location → Prop}

theorem keeps_pure (value : α) : Keeps working touched (pure value : Run (StateM Session) α) :=
  fun session _ => .refl touched session.tree

theorem Keeps.bind {first : Run (StateM Session) α} {next : α → Run (StateM Session) β}
    (hfirst : Keeps working touched first) (hnext : ∀ value, Keeps working touched (next value)) :
    Keeps working touched (first >>= next) := by
  intro session hworking
  have hmiddle := hfirst session hworking
  rw [bind_apply]
  rcases hrun : first session with ⟨failure | value, middle⟩
  · rw [hrun] at hmiddle
    exact hmiddle
  · rw [hrun] at hmiddle
    exact hmiddle.trans (hnext value middle (hmiddle.workingDirectory.trans hworking))

theorem keeps_ofFile {failure : FileError → Failure}
    {update : FileTree → Except FileError FileTree}
    (hupdate : ∀ tree later, tree.workingDirectory = working → update tree = .ok later →
      FileTree.Keeps touched tree later) :
    Keeps working touched (ofFile failure (Session.change update)) := by
  intro session hworking
  rw [ofFile_change_apply]
  cases htree : update session.tree with
  | error error => exact .refl touched _
  | ok tree => exact hupdate _ _ hworking htree

end Run

/-! ## Writing files -/

def Output.RenderedFile.location (working : Location) (directory : String)
    (file : RenderedFile) : Location :=
  Path.location working (file.target directory)

theorem location_of_isPlain (working : Location) (directory : String) {file : RenderedFile}
    (hname : Path.IsPlain file.name) :
    file.location working directory = Path.location working directory ++ [file.name] :=
  Path.location_join working directory hname

variable {formatter : List String → Option String} {options : WriteOptions} {directory : String}
  {working : Location} {touched : Location → Prop}

theorem contains_apply (path : String) (session : Session) :
    (liftM ((Session.host formatter).contains path) : Run (StateM Session) Bool) session =
      (.ok (session.tree.contains path), session) :=
  rfl

theorem keeps_print (text : String) :
    Run.Keeps working touched
      (liftM ((Session.host formatter).print text) : Run (StateM Session) Unit) :=
  fun session _ => .refl touched session.tree

theorem keeps_place {path : String} (htouched : touched (Path.location working path))
    (contents : String) :
    Run.Keeps working touched (place (Session.host formatter) path contents) := by
  have hwrite : Run.Keeps working touched
      (Run.ofFile (.notWritten path) ((Session.host formatter).write path contents)) :=
    Run.keeps_ofFile fun _ _ hworking hwritten =>
      FileTree.keeps_write (hworking ▸ htouched) hwritten
  unfold place
  split
  next parent _ =>
    exact (Run.keeps_ofFile fun _ _ _ hcreated =>
      FileTree.keeps_createDirectories touched hcreated).bind fun _ => hwrite
  next => exact hwrite

theorem keeps_writeFiles {files : List RenderedFile}
    (htouched : ∀ file ∈ files, touched (file.location working directory)) :
    Run.Keeps working touched (writeFiles (Session.host formatter) options directory files) := by
  induction files with
  | nil => exact Run.keeps_pure _
  | cons file files ih =>
      have hrest := ih fun other hother => htouched other (List.mem_cons_of_mem _ hother)
      have hplace : Run.Keeps working touched
          (place (Session.host formatter) (file.target directory) file.contents) :=
        keeps_place (htouched file List.mem_cons_self) file.contents
      have hcontains : Run.Keeps working touched
          (liftM ((Session.host formatter).contains (file.target directory)) :
            Run (StateM Session) Bool) := fun session _ => .refl touched session.tree
      -- every way through a turn is a chain of runs that keep files, with the other turns behind it
      rw [writeFiles]
      refine hcontains.bind fun present => ?_
      split
      · exact (keeps_print _).bind fun _ => hrest.bind fun _ => Run.keeps_pure _
      · split
        · exact (keeps_print _).bind fun _ => hrest.bind fun _ => Run.keeps_pure _
        · exact hplace.bind fun _ => (keeps_print _).bind fun _ => hrest.bind fun _ =>
            Run.keeps_pure _

/-! ## Turns -/

/-- Files have their turns one after the other.  A file that is there is skipped unless it may be
overwritten; any other one is planned in a dry run, and else it is placed. -/
inductive Turns (options : WriteOptions) (directory : String) :
    List RenderedFile → FileTree → WriteSummary → FileTree → Prop
  | done (tree : FileTree) : Turns options directory [] tree .empty tree
  | skipped {file : RenderedFile} {files : List RenderedFile} {tree last : FileTree}
      {summary : WriteSummary} (hthere : tree.contains (file.target directory) = true)
      (hkept : options.overwrite = false)
      (hrest : Turns options directory files tree summary last) :
      Turns options directory (file :: files) tree (summary.withSkipped (file.target directory))
        last
  | planned {file : RenderedFile} {files : List RenderedFile} {tree last : FileTree}
      {summary : WriteSummary}
      (hfree : tree.contains (file.target directory) = true → options.overwrite = true)
      (hdry : options.dryRun = true) (hrest : Turns options directory files tree summary last) :
      Turns options directory (file :: files) tree (summary.withWritten (file.target directory))
        last
  | placed {file : RenderedFile} {files : List RenderedFile} {tree middle last : FileTree}
      {summary : WriteSummary}
      (hfree : tree.contains (file.target directory) = true → options.overwrite = true)
      (hdry : options.dryRun = false)
      (hplace : tree.place (file.target directory) file.contents = .ok middle)
      (hrest : Turns options directory files middle summary last) :
      Turns options directory (file :: files) tree (summary.withWritten (file.target directory))
        last

theorem place_eq_ok_iff {path contents : String} {session final : Session} :
    place (Session.host formatter) path contents session = (.ok (), final) ↔
      ∃ tree, session.tree.place path contents = .ok tree ∧
        { session with tree := tree } = final := by
  have hwrite {session final : Session} :=
    @Run.ofFile_change_eq_ok_iff (.notWritten path) (fun tree => tree.write path contents) session
      final
  unfold place FileTree.place
  cases Path.parent? path with
  | none => exact hwrite
  | some parent =>
      have hcreate {session final : Session} :=
        @Run.ofFile_change_eq_ok_iff (.noDirectory parent)
          (fun tree => tree.createDirectories parent) session final
      constructor
      · intro hrun
        obtain ⟨_, middle, hcreateRun, hwriteRun⟩ := Run.exists_of_bind hrun
        obtain ⟨created, hcreated, rfl⟩ := hcreate.mp hcreateRun
        obtain ⟨tree, htree, rfl⟩ := hwrite.mp hwriteRun
        exact ⟨tree, bind_eq_ok_iff.mpr ⟨created, hcreated, htree⟩, rfl⟩
      · rintro ⟨tree, htree, rfl⟩
        obtain ⟨created, hcreated, htree⟩ := bind_eq_ok_iff.mp htree
        exact Run.bind_eq_ok (hcreate.mpr ⟨created, hcreated, rfl⟩) (hwrite.mpr ⟨tree, htree, rfl⟩)

theorem turns_of_writeFiles {files : List RenderedFile} {session final : Session}
    {summary : WriteSummary}
    (hrun : writeFiles (Session.host formatter) options directory files session =
      (.ok summary, final)) :
    Turns options directory files session.tree summary final.tree := by
  induction files generalizing session summary with
  | nil =>
      cases hrun
      exact .done _
  | cons file files ih =>
      rw [writeFiles] at hrun
      obtain ⟨present, start, hpresent, hrun⟩ := Run.exists_of_bind hrun
      cases hpresent
      split at hrun
      next hskipped =>
        obtain ⟨_, middle, hprint, hrun⟩ := Run.exists_of_bind hrun
        obtain ⟨rest, last, hrest, hlast⟩ := Run.exists_of_bind hrun
        cases hprint
        cases hlast
        simp only [Bool.and_eq_true, Bool.not_eq_true'] at hskipped
        have hturns := ih hrest
        exact .skipped hskipped.1 hskipped.2 hturns
      next hwritten =>
        have hfree : session.tree.contains (file.target directory) = true →
            options.overwrite = true := by
          simpa using hwritten
        split at hrun
        next hdry =>
          obtain ⟨_, middle, hprint, hrun⟩ := Run.exists_of_bind hrun
          obtain ⟨rest, last, hrest, hlast⟩ := Run.exists_of_bind hrun
          cases hprint
          cases hlast
          have hturns := ih hrest
          exact .planned hfree hdry hturns
        next hdry =>
          obtain ⟨_, placed, hplace, hrun⟩ := Run.exists_of_bind hrun
          obtain ⟨_, middle, hprint, hrun⟩ := Run.exists_of_bind hrun
          obtain ⟨rest, last, hrest, hlast⟩ := Run.exists_of_bind hrun
          cases hprint
          cases hlast
          obtain ⟨tree, htree, rfl⟩ := place_eq_ok_iff.mp hplace
          have hturns := ih hrest
          exact .placed hfree (by simpa using hdry) htree hturns

theorem exists_of_turns {files : List RenderedFile} {tree last : FileTree} {summary : WriteSummary}
    (hturns : Turns options directory files tree summary last)
    (formatter : List String → Option String) (session : Session) (htree : session.tree = tree) :
    ∃ final, writeFiles (Session.host formatter) options directory files session =
      (.ok summary, final) ∧ final.tree = last := by
  induction hturns generalizing session with
  | done => exact ⟨session, rfl, htree⟩
  | @skipped file files tree last summary hthere hkept _ ih =>
      subst htree
      obtain ⟨final, hrest, hlast⟩ := ih { session with
        printed := session.printed ++ skippedLine (file.target directory) } rfl
      refine ⟨final, ?_, hlast⟩
      rw [writeFiles]
      refine Run.bind_eq_ok (contains_apply _ session) ?_
      rw [if_pos (by simp [hthere, hkept])]
      exact Run.bind_eq_ok (Run.lift_apply _ session) (Run.bind_eq_ok hrest rfl)
  | @planned file files tree last summary hfree hdry _ ih =>
      subst htree
      obtain ⟨final, hrest, hlast⟩ := ih { session with
        printed := session.printed ++ plannedLine (file.target directory) file.contents } rfl
      refine ⟨final, ?_, hlast⟩
      rw [writeFiles]
      refine Run.bind_eq_ok (contains_apply _ session) ?_
      rw [if_neg (by simpa using hfree), if_pos hdry]
      exact Run.bind_eq_ok (Run.lift_apply _ session) (Run.bind_eq_ok hrest rfl)
  | @placed file files tree middle last summary hfree hdry hplace _ ih =>
      subst htree
      obtain ⟨final, hrest, hlast⟩ := ih { session with
        tree := middle, printed := session.printed ++ writtenLine (file.target directory) } rfl
      refine ⟨final, ?_, hlast⟩
      rw [writeFiles]
      refine Run.bind_eq_ok (contains_apply _ session) ?_
      rw [if_neg (by simpa using hfree), if_neg (by simp [hdry])]
      refine Run.bind_eq_ok (place_eq_ok_iff.mpr ⟨middle, hplace, rfl⟩) ?_
      exact Run.bind_eq_ok (Run.lift_apply _ _) (Run.bind_eq_ok hrest rfl)

/-! ## Files with locations of their own -/

/-- What is found after writing where a file belongs: the file, or without overwriting what stood
in its way. -/
def Settled (options : WriteOptions) (before after : FileTree) (location : Location)
    (contents : String) : Prop :=
  after.fileAt? location = some contents ∨
    options.overwrite = false ∧
      (after.node? location = some .directory ∨
        ∃ old, before.fileAt? location = some old ∧ after.fileAt? location = some old)

theorem Settled.of_keeps_before {before middle after : FileTree} {location : Location}
    {contents : String} (hkeeps : FileTree.Keeps touched before middle)
    (huntouched : ¬touched location) (hsettled : Settled options middle after location contents) :
    Settled options before after location contents := by
  rw [Settled, ← hkeeps.files location huntouched]
  exact hsettled

theorem Settled.of_keeps_after {before middle after : FileTree} {location : Location}
    {contents : String} (hkeeps : FileTree.Keeps touched middle after)
    (huntouched : ¬touched location) (hsettled : Settled options before middle location contents) :
    Settled options before after location contents := by
  rw [Settled, hkeeps.files location huntouched]
  rcases hsettled with hwritten | ⟨hkept, hdirectory | hold⟩
  · exact Or.inl hwritten
  · exact Or.inr ⟨hkept, Or.inl (hkeeps.directories location hdirectory)⟩
  · exact Or.inr ⟨hkept, Or.inr hold⟩

theorem settled_of_contains {tree : FileTree} {path : String} (contents : String)
    (hcontains : tree.contains path = true) (hkept : options.overwrite = false) :
    Settled options tree tree (Path.location tree.workingDirectory path) contents := by
  obtain ⟨-, hthere⟩ := FileTree.contains_iff.mp hcontains
  obtain ⟨node, hnode⟩ := Option.ne_none_iff_exists'.mp hthere
  cases node with
  | directory => exact Or.inr ⟨hkept, Or.inl hnode⟩
  | file old =>
      have hold := FileTree.fileAt?_eq_some_iff.mpr hnode
      exact Or.inr ⟨hkept, Or.inr ⟨old, hold, hold⟩⟩

theorem Turns.keeps {files : List RenderedFile} {tree last : FileTree} {summary : WriteSummary}
    (hturns : Turns options directory files tree summary last) :
    FileTree.Keeps (· ∈ files.map (RenderedFile.location tree.workingDirectory directory)) tree
      last := by
  induction hturns with
  | done tree => exact .refl _ tree
  | skipped _ _ _ ih => exact ih.mono fun _ => List.mem_cons_of_mem _
  | planned _ _ _ ih => exact ih.mono fun _ => List.mem_cons_of_mem _
  | placed _ _ hplace _ ih =>
      have hturn := FileTree.Keeps.of_changes (FileTree.changes_place hplace)
      rw [FileTree.workingDirectory_of_place hplace] at ih
      exact (hturn.mono fun _ hsame => hsame ▸ List.mem_cons_self).trans
        (ih.mono fun _ => List.mem_cons_of_mem _)

theorem Turns.settled {files : List RenderedFile} {tree last : FileTree} {summary : WriteSummary}
    (hturns : Turns options directory files tree summary last) (hdry : options.dryRun = false)
    (hworking : tree.workingDirectory = working)
    (hnodup : (files.map (RenderedFile.location working directory)).Nodup) :
    ∀ file ∈ files,
      Settled options tree last (file.location working directory) file.contents := by
  induction hturns with
  | done => exact fun _ hfile => absurd hfile List.not_mem_nil
  | skipped hthere hkept hrest ih =>
      intro other hother
      obtain ⟨hfresh, hnodup⟩ := List.nodup_cons.mp hnodup
      rcases List.mem_cons.mp hother with rfl | hother
      · subst hworking
        exact (settled_of_contains other.contents hthere hkept).of_keeps_after hrest.keeps hfresh
      · exact ih hworking hnodup other hother
  | planned _ hplanned =>
      rw [hdry] at hplanned
      cases hplanned
  | @placed file files tree middle last summary _ _ hplace hrest ih =>
      -- the first file is settled at its turn and its location is no later one's; the others are
      -- settled behind it, at locations that its turn has kept
      subst hworking
      have hturn := FileTree.Keeps.of_changes (FileTree.changes_place hplace)
      have hworking := FileTree.workingDirectory_of_place hplace
      have hkeeps := hrest.keeps
      rw [hworking] at hkeeps
      intro other hother
      obtain ⟨hfresh, hnodup⟩ := List.nodup_cons.mp hnodup
      rcases List.mem_cons.mp hother with rfl | hother
      · exact Settled.of_keeps_after hkeeps hfresh (Or.inl (FileTree.fileAt?_of_place hplace))
      · have hne : other.location tree.workingDirectory directory ≠
            file.location tree.workingDirectory directory := by
          intro hsame
          rw [← hsame] at hfresh
          exact hfresh (List.mem_map_of_mem hother)
        exact (ih hworking hnodup other hother).of_keeps_before hturn hne

theorem settled_of_writeFiles {files : List RenderedFile} {session final : Session}
    {summary : WriteSummary}
    (hnodup : (files.map (RenderedFile.location session.tree.workingDirectory directory)).Nodup)
    (hdry : options.dryRun = false)
    (hrun : writeFiles (Session.host formatter) options directory files session =
      (.ok summary, final)) :
    ∀ file ∈ files, Settled options session.tree final.tree
      (file.location session.tree.workingDirectory directory) file.contents :=
  (turns_of_writeFiles hrun).settled hdry rfl hnodup

end ApiSurface
