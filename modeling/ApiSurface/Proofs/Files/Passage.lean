import ApiSurface.Proofs.Files.Changes

/-!
# The way to a file

A path leads somewhere exactly if every location on its way is a directory (`locate_eq_ok_iff`).
The way to the directory of a file is the front of the way to the file, from the root or from the
working directory (`passes_of_parent`).  The way of a path that never goes up leads down to its end,
so in a tree where everything stands in a directory such a path finds whatever there is at its end
(`contains_of_locate`).
-/

namespace ApiSurface

namespace Path

/-! ## Paths that lead down -/

def Descends (path : String) : Prop :=
  ".." ∉ names path

instance (path : String) : Decidable (Descends path) :=
  inferInstanceAs (Decidable (_ ∉ _))

theorem prefix_foldl_move {steps : List String} (hdown : ".." ∉ steps) (start : Location) :
    start <+: steps.foldl move start := by
  induction steps generalizing start with
  | nil => exact List.prefix_rfl
  | cons step steps ih =>
      rw [List.mem_cons, not_or] at hdown
      refine List.IsPrefix.trans ?_ (ih hdown.2 (move start step))
      unfold move
      split
      · exact List.prefix_rfl
      · rw [if_neg (Ne.symm hdown.1)]
        exact List.prefix_append start [step]

theorem foldl_move_prefix {front steps : List String} (hdown : ".." ∉ steps)
    (hfront : front <+: steps) (start : Location) :
    front.foldl move start <+: steps.foldl move start := by
  obtain ⟨back, rfl⟩ := hfront
  rw [List.foldl_append]
  exact prefix_foldl_move (fun hmem => hdown (List.mem_append_right front hmem)) _

/-- A path goes through a location on its way to its end. -/
def Passes (working : Location) (path : String) (passed : Location) : Prop :=
  ∃ front, front <+: names path ∧ front.foldl move (start working path) = passed

theorem passes_front (working : Location) {path : String} {front : List String}
    (hfront : front <+: steps path) :
    Passes working path (front.foldl move (start working path)) := by
  rw [steps_eq] at hfront
  split at hfront
  · rcases List.prefix_concat_iff.mp hfront with rfl | hfront
    · exact ⟨names path, List.prefix_rfl, by rw [List.foldl_append]; rfl⟩
    · exact ⟨front, hfront, rfl⟩
  · rw [List.append_nil] at hfront
    exact ⟨front, hfront, rfl⟩

theorem Descends.prefix_of_passes {path : String} (hdescends : Descends path)
    {working passed : Location} (hpasses : Passes working path passed) :
    passed <+: location working path := by
  obtain ⟨front, hfront, rfl⟩ := hpasses
  rw [location_eq]
  exact foldl_move_prefix hdescends hfront _

/-! ## Parents -/

theorem dropIdle_suffix (pieces : List String) : dropIdle pieces <:+ pieces := by
  fun_induction dropIdle pieces with
  | case1 => exact List.suffix_rfl
  | case2 => exact List.suffix_rfl
  | case3 piece rest _ _ ih => exact ih.trans (List.suffix_cons piece rest)
  | case4 => exact List.suffix_rfl

theorem dropIdle_ne_nil {pieces : List String} (hne : pieces ≠ []) : dropIdle pieces ≠ [] := by
  fun_induction dropIdle pieces with
  | case1 => exact absurd rfl hne
  | case2 => simp
  | case3 piece rest hmore _ ih => exact ih hmore
  | case4 => simp

theorem startsWith_slash_iff (path : String) :
    path.startsWith "/" = true ↔ ∃ second rest, Text.split '/' path = "" :: second :: rest := by
  rw [String.startsWith_string_iff, Text.split]
  cases path.toList with
  | nil => simp [Text.splitAt]
  | cons c cs =>
      have hmore : Text.splitAt (· == '/') cs ≠ [] := by
        rw [Text.splitAt_eq_splitOnP]
        exact List.splitOnP_ne_nil _ cs
      obtain ⟨piece, pieces, hpieces⟩ := List.exists_cons_of_ne_nil hmore
      rw [Text.splitAt, hpieces]
      by_cases hslash : c = '/'
      · simp [hslash]
      · simp [hslash, Ne.symm hslash]

/-- A parent is spelled by the first pieces of the path.  Only where these are none, or just the one
before the slash of the root, they do not say whether the path starts there. -/
theorem parent_cases {path parent : String} (hparent : parent? path = some parent) :
    (parent = "" ∧ path.startsWith "/" = false) ∨
      (parent = "/" ∧ path.startsWith "/" = true) ∨
        ∃ pieces, pieces <+: Text.split '/' path ∧ pieces ≠ [] ∧ pieces ≠ [""] ∧
          parent = Text.join "/" pieces := by
  have hkept := dropIdle_suffix (piecesBackwards path)
  unfold parent? at hparent
  split at hparent
  · cases hparent
  · next only hpieces =>
      left
      rw [hpieces, piecesBackwards, ← List.reverse_prefix, List.reverse_reverse] at hkept
      split at hparent
      · cases hparent
      · next hnonempty =>
          cases hparent
          refine ⟨rfl, Bool.eq_false_iff.mpr fun hslash => ?_⟩
          obtain ⟨second, rest, hsplit⟩ := (startsWith_slash_iff path).mp hslash
          rw [hsplit] at hkept
          obtain ⟨rfl, -⟩ := List.cons_prefix_cons.mp hkept
          exact hnonempty rfl
  · next last rest hmore hpieces =>
      right
      rw [hpieces, piecesBackwards, ← List.reverse_prefix, List.reverse_reverse] at hkept
      have hrest := dropIdle_suffix rest
      split at hparent
      · next hroot =>
          left
          cases hparent
          refine ⟨rfl, (startsWith_slash_iff path).mpr ?_⟩
          rw [hroot] at hrest
          obtain ⟨front, rfl⟩ := hrest
          obtain ⟨back, hsplit⟩ := hkept
          obtain ⟨second, others, hothers⟩ := List.exists_cons_of_ne_nil
            (List.append_ne_nil_of_right_ne_nil front.reverse (List.cons_ne_nil last back))
          exact ⟨second, others, by rw [← hsplit, ← hothers]; simp⟩
      · next hother =>
          right
          cases hparent
          have hpieces : (dropIdle rest).reverse <+: (last :: rest).reverse :=
            List.reverse_prefix.mpr (hrest.trans (List.suffix_cons last rest))
          refine ⟨(dropIdle rest).reverse, hpieces.trans hkept, ?_, ?_, rfl⟩
          · exact List.reverse_ne_nil_iff.mpr (dropIdle_ne_nil hmore)
          · intro honly
            exact hother (List.reverse_eq_iff.mp honly)

theorem split_join_pieces {path : String} {pieces : List String} (hne : pieces ≠ [])
    (hpieces : pieces <+: Text.split '/' path) :
    Text.split '/' (Text.join "/" pieces) = pieces :=
  Text.split_join rfl hne fun _ hpiece => Text.notMem_of_mem_split (hpieces.subset hpiece)

theorem names_parent {path parent : String} (hparent : parent? path = some parent) :
    names parent <+: names path := by
  rcases parent_cases hparent with ⟨rfl, -⟩ | ⟨rfl, -⟩ | ⟨pieces, hpieces, hne, -, rfl⟩
  · exact List.nil_prefix
  · exact List.nil_prefix
  · rw [names, split_join_pieces hne hpieces, names]
    exact hpieces.filter _

theorem start_parent (working : Location) {path parent : String}
    (hparent : parent? path = some parent) : start working parent = start working path := by
  have hsame : parent.startsWith "/" = path.startsWith "/" := by
    rcases parent_cases hparent with ⟨rfl, hpath⟩ | ⟨rfl, hpath⟩ |
      ⟨pieces, hpieces, hne, hother, rfl⟩
    · rw [hpath]
      decide +kernel
    · rw [hpath]
      decide +kernel
    · obtain ⟨first, rest, rfl⟩ := List.exists_cons_of_ne_nil hne
      obtain ⟨back, hsplit⟩ := hpieces
      rw [Bool.eq_iff_iff, startsWith_slash_iff, startsWith_slash_iff,
        split_join_pieces hne ⟨back, hsplit⟩, ← hsplit]
      -- more pieces follow an empty one, so those of the path behind them make no difference
      cases rest with
      | nil => simpa using fun hfirst => absurd hfirst (by simpa using hother)
      | cons second rest => simp
  rw [start, hsame, start]

theorem passes_of_parent {working : Location} {path parent : String}
    (hparent : parent? path = some parent) {passed : Location}
    (hpasses : Passes working parent passed) : Passes working path passed := by
  obtain ⟨front, hfront, hpassed⟩ := hpasses
  rw [start_parent working hparent] at hpassed
  exact ⟨front, hfront.trans (names_parent hparent), hpassed⟩

end Path

namespace FileTree

variable {tree later : FileTree} {start reached location : Location} {path contents : String}

/-! ## Following a path -/

theorem follow_eq_ok_iff {steps : List String} : tree.follow start steps = .ok reached ↔
    (∀ front, front <+: steps → front ≠ steps →
      tree.node? (front.foldl Path.move start) = some .directory) ∧
      steps.foldl Path.move start = reached := by
  induction steps generalizing start with
  | nil =>
      rw [follow, Except.ok.injEq, List.foldl_nil]
      refine (and_iff_right fun front hfront hother => ?_).symm
      exact absurd (List.prefix_nil.mp hfront) hother
  | cons step steps ih =>
      have hway : (∀ front, front <+: step :: steps → front ≠ step :: steps →
            tree.node? (front.foldl Path.move start) = some .directory) ↔
          tree.node? start = some .directory ∧ ∀ front, front <+: steps → front ≠ steps →
            tree.node? (front.foldl Path.move (Path.move start step)) = some .directory := by
        constructor
        · intro hdirectories
          refine ⟨hdirectories [] List.nil_prefix (by simp), fun front hfront hother => ?_⟩
          exact hdirectories (step :: front) (by simpa using hfront) (by simpa using hother)
        · rintro ⟨hstart, hdirectories⟩ front hfront hother
          cases front with
          | nil => exact hstart
          | cons first front =>
              obtain ⟨rfl, hrest⟩ := List.cons_prefix_cons.mp hfront
              exact hdirectories front hrest (by simpa using hother)
      rw [hway, follow_cons, List.foldl_cons, and_assoc, ← ih]
      cases tree.node? start with
      | none => simp
      | some node => cases node <;> simp

theorem locate_eq_ok_iff : tree.locate path = .ok reached ↔
    path ≠ "" ∧
      (∀ front, front <+: Path.steps path → front ≠ Path.steps path →
        tree.node? (front.foldl Path.move (Path.start tree.workingDirectory path)) =
          some .directory) ∧
      Path.location tree.workingDirectory path = reached := by
  rw [Path.location, ← follow_eq_ok_iff]
  unfold locate
  by_cases hempty : path = "" <;> simp [hempty]

theorem contains_iff : tree.contains path = true ↔
    let location := Path.location tree.workingDirectory path
    tree.locate path = .ok location ∧ tree.node? location ≠ none := by
  unfold contains find?
  cases hlocate : tree.locate path with
  | error error => simp
  | ok reached =>
      rw [location_of_locate hlocate]
      simp [Option.isSome_iff_ne_none]

theorem read_of_contains (hcontains : tree.contains path = true)
    (hfile : tree.fileAt? (Path.location tree.workingDirectory path) = some contents) :
    tree.read path = .ok contents := by
  obtain ⟨hlocate, -⟩ := contains_iff.mp hcontains
  rw [fileAt?_eq_some_iff] at hfile
  simp [read, hlocate, hfile, bind, Except.bind]

/-! ## Growing trees -/

theorem Grows.locate (hgrows : Grows tree later) (hlocate : tree.locate path = .ok reached) :
    later.locate path = .ok reached := by
  rw [locate_eq_ok_iff] at hlocate ⊢
  obtain ⟨hne, hdirectories, hreached⟩ := hlocate
  rw [hgrows.workingDirectory]
  exact ⟨hne, fun front hfront hother =>
    hgrows.directories _ (hdirectories front hfront hother), hreached⟩

theorem Grows.contains (hgrows : Grows tree later) (hcontains : tree.contains path = true) :
    later.contains path = true := by
  rw [contains_iff] at hcontains ⊢
  rw [hgrows.workingDirectory]
  exact ⟨hgrows.locate hcontains.1, hgrows.node?_ne_none hcontains.2⟩

/-! ## Rooted trees -/

/-- Everything stands in a directory. -/
def IsRooted (tree : FileTree) : Prop :=
  ∀ location, tree.node? location ≠ none → tree.node? location.dropLast = some .directory

theorem isRooted_of_entries
    (hentries : ∀ entry ∈ tree.entries, tree.node? entry.1.dropLast = some .directory) :
    tree.IsRooted := by
  intro location hthere
  unfold node? at hthere
  split at hthere
  · next habove => exact node?_of_above ((List.dropLast_prefix location).trans habove)
  · obtain ⟨node, hnode⟩ := Option.ne_none_iff_exists'.mp hthere
    obtain ⟨before, after, hsplit, -⟩ := List.lookup_eq_some_iff.mp hnode
    exact hentries (location, node) (by simp [hsplit])

theorem IsRooted.directory_above (hrooted : tree.IsRooted)
    (hthere : tree.node? location ≠ none) {front : Location} (hfront : front <+: location)
    (hother : front ≠ location) : tree.node? front = some .directory := by
  obtain ⟨back, rfl⟩ := hfront
  induction back using List.reverseRecOn with
  | nil => exact absurd (List.append_nil front).symm hother
  | append_singleton back name ih =>
      have hparent := hrooted _ hthere
      rw [← List.append_assoc, List.dropLast_concat] at hparent
      by_cases hback : back = []
      · rwa [hback, List.append_nil] at hparent
      · exact ih (by simp [hparent]) (by simpa using hback)

/-- A path that leads down finds in a rooted tree what stands at its end, if the way to it can be
gone later. -/
theorem IsRooted.contains_of_locate (hrooted : tree.IsRooted) (hdescends : Path.Descends path)
    (hgrows : Grows tree later) (hlocate : later.locate path = .ok reached)
    (hthere : tree.node? (Path.location tree.workingDirectory path) ≠ none) :
    tree.contains path = true := by
  rw [contains_iff]
  refine ⟨?_, hthere⟩
  rw [locate_eq_ok_iff] at hlocate ⊢
  obtain ⟨hne, hdirectories, -⟩ := hlocate
  rw [hgrows.workingDirectory] at hdirectories
  refine ⟨hne, fun front hfront hother => ?_, rfl⟩
  by_cases hend : front.foldl Path.move (Path.start tree.workingDirectory path) =
      Path.location tree.workingDirectory path
  · -- the end is passed, as by a path with a slash behind it: it is a directory later, so now
    have hlater := hdirectories front hfront hother
    rw [hend] at hlater ⊢
    cases hnode : tree.node? (Path.location tree.workingDirectory path) with
    | none => exact absurd hnode hthere
    | some node =>
        cases node with
        | directory => rfl
        | file contents =>
            have hfile := hgrows.files _ (Option.isSome_of_eq_some (fileAt?_eq_some_iff.mpr hnode))
            obtain ⟨found, hfound⟩ := Option.isSome_iff_exists.mp hfile
            rw [fileAt?_eq_some_iff, hlater] at hfound
            cases hfound
  · exact hrooted.directory_above hthere
      (hdescends.prefix_of_passes (Path.passes_front _ hfront)) hend

theorem IsRooted.put (hrooted : tree.IsRooted) {node : Node}
    (hbelow : ¬location <+: tree.workingDirectory)
    (hparent : tree.node? location.dropLast = some .directory)
    (hstays : tree.node? location = some .directory → node = .directory) :
    (tree.put location node).IsRooted := by
  have hself := node?_put_self tree hbelow node
  intro other hthere
  by_cases hother : other = location
  · have hshorter : location.dropLast ≠ location := by
      intro hsame
      have hlength := congrArg List.length hsame
      have hpositive : 0 < location.length := by
        rw [List.length_pos_iff]
        rintro rfl
        exact hbelow List.nil_prefix
      rw [List.length_dropLast] at hlength
      omega
    rw [hother, node?_put_of_ne tree hshorter]
    exact hparent
  · rw [node?_put_of_ne tree hother] at hthere
    have hdirectory := hrooted other hthere
    by_cases habove : other.dropLast = location
    · rw [habove] at hdirectory ⊢
      rw [hself, hstays hdirectory]
    · rwa [node?_put_of_ne tree habove]

theorem IsRooted.createFrom {steps : List String} {created : FileTree} (hrooted : tree.IsRooted)
    (hstart : tree.node? start = some .directory)
    (hcreate : tree.createFrom start steps = .ok created) : created.IsRooted := by
  fun_induction FileTree.createFrom tree start steps with
  | case1 =>
      cases hcreate
      exact hrooted
  | case2 tree location steps ih => exact ih hrooted hstart hcreate
  | case3 tree location steps ih => exact ih hrooted (hrooted location (by simp [hstart])) hcreate
  | case4 tree location name steps hdot hdots next hnode ih => exact ih hrooted hnode hcreate
  | case5 tree location name steps hdot hdots next hnode ih =>
      have hparent : tree.node? next.dropLast = some .directory := by
        rwa [List.dropLast_concat]
      have hbelow := not_prefix_of_node?_eq_none hnode
      exact ih (hrooted.put hbelow hparent fun _ => rfl) (node?_put_self tree hbelow .directory)
        hcreate
  | case6 => cases hcreate

theorem IsRooted.parent_of_follow {steps : List String} (hrooted : tree.IsRooted)
    (hparent : tree.node? start.dropLast = some .directory)
    (hfollow : tree.follow start steps = .ok reached) :
    tree.node? reached.dropLast = some .directory := by
  induction steps generalizing start with
  | nil =>
      rw [follow] at hfollow
      cases hfollow
      exact hparent
  | cons step steps ih =>
      rw [follow_cons] at hfollow
      cases hstart : tree.node? start with
      | none => simp [hstart] at hfollow
      | some node =>
          cases node with
          | file => simp [hstart] at hfollow
          | directory =>
              rw [hstart] at hfollow
              refine ih ?_ hfollow
              unfold Path.move
              split
              · exact hparent
              · split
                · exact hrooted _ (by simp [hparent])
                · rwa [List.dropLast_concat]

theorem IsRooted.write (hrooted : tree.IsRooted) (hwrite : tree.write path contents = .ok later) :
    later.IsRooted := by
  obtain ⟨hlocate, hfree, rfl⟩ := eq_put_of_write hwrite
  refine hrooted.put (not_prefix_of_node?_ne_directory hfree) ?_ fun hdirectory =>
    absurd hdirectory hfree
  unfold locate at hlocate
  split at hlocate
  · cases hlocate
  · refine hrooted.parent_of_follow (hrooted _ ?_) hlocate
    simp [node?_start]

/-! ## Placing files -/

def place (tree : FileTree) (path contents : String) : Except FileError FileTree :=
  match Path.parent? path with
  | none => tree.write path contents
  | some parent => tree.createDirectories parent >>= fun created => created.write path contents

theorem exists_of_place (hplace : tree.place path contents = .ok later) :
    ∃ created, Changes (Path.Passes tree.workingDirectory path) (fun _ => False) tree created ∧
      (tree.IsRooted → created.IsRooted) ∧ created.write path contents = .ok later := by
  unfold place at hplace
  split at hplace
  · exact ⟨tree, .done tree, id, hplace⟩
  · next parent hparent =>
      obtain ⟨created, hcreate, hwrite⟩ := bind_eq_ok_iff.mp hplace
      refine ⟨created, changes_createDirectories hcreate fun front hfront => ?_, ?_, hwrite⟩
      · exact Path.passes_of_parent hparent (Path.passes_front _ hfront)
      · exact fun hrooted => hrooted.createFrom (node?_start tree parent) hcreate

theorem changes_place (hplace : tree.place path contents = .ok later) :
    Changes (Path.Passes tree.workingDirectory path)
      (· = Path.location tree.workingDirectory path) tree later := by
  obtain ⟨created, hchanges, -, hwrite⟩ := exists_of_place hplace
  have hwritten : Path.location created.workingDirectory path =
      Path.location tree.workingDirectory path := by
    rw [hchanges.workingDirectory_eq]
  exact (hchanges.mono (fun _ => id) (fun _ => False.elim)).trans (changes_write hwritten hwrite)

theorem workingDirectory_of_place (hplace : tree.place path contents = .ok later) :
    later.workingDirectory = tree.workingDirectory :=
  (changes_place hplace).workingDirectory_eq

theorem fileAt?_of_place (hplace : tree.place path contents = .ok later) :
    later.fileAt? (Path.location tree.workingDirectory path) = some contents := by
  obtain ⟨created, hchanges, -, hwrite⟩ := exists_of_place hplace
  rw [← hchanges.workingDirectory_eq]
  exact fileAt?_of_write hwrite

theorem contains_of_place (hplace : tree.place path contents = .ok later) :
    later.contains path = true := by
  obtain ⟨created, -, -, hwrite⟩ := exists_of_place hplace
  have hfile := fileAt?_eq_some_iff.mp (fileAt?_of_write hwrite)
  have hchanges : Changes (fun _ => False) (fun _ => True) created later :=
    changes_write trivial hwrite
  rw [contains_iff, hchanges.workingDirectory_eq]
  exact ⟨(Grows.of_changes hchanges).locate (eq_put_of_write hwrite).1, by simp [hfile]⟩

theorem IsRooted.place (hrooted : tree.IsRooted) (hplace : tree.place path contents = .ok later) :
    later.IsRooted := by
  obtain ⟨created, -, hcreated, hwrite⟩ := exists_of_place hplace
  exact (hcreated hrooted).write hwrite

theorem IsRooted.contains_of_place (hrooted : tree.IsRooted) (hdescends : Path.Descends path)
    (hplace : tree.place path contents = .ok later)
    (hthere : tree.node? (Path.location tree.workingDirectory path) ≠ none) :
    tree.contains path = true := by
  obtain ⟨created, hchanges, -, hwrite⟩ := exists_of_place hplace
  obtain ⟨hlocate, -⟩ := eq_put_of_write hwrite
  exact hrooted.contains_of_locate hdescends (.of_changes hchanges) hlocate hthere

/-- Placing one file does not decide whether another one is there, unless the other's location is on
its way. -/
theorem IsRooted.contains_eq_of_place (hrooted : tree.IsRooted) (hdescends : Path.Descends path)
    {other : String} (hother : Path.Descends other)
    (hapart : ¬Path.location tree.workingDirectory other <+:
      Path.location tree.workingDirectory path)
    (hplace : tree.place path contents = .ok later) :
    later.contains other = tree.contains other := by
  have hchanges := changes_place hplace
  have hgrows := Grows.of_changes hchanges
  rw [Bool.eq_iff_iff]
  refine ⟨fun hlater => ?_, hgrows.contains⟩
  obtain ⟨hlocate, hthere⟩ := contains_iff.mp hlater
  rw [hgrows.workingDirectory] at hthere
  refine hrooted.contains_of_locate hother hgrows hlocate fun hnone => hthere ?_
  refine hchanges.node?_eq_none (fun hpasses => ?_) (fun hsame => ?_) hnone
  · exact hapart (hdescends.prefix_of_passes hpasses)
  · exact hapart (hsame ▸ List.prefix_rfl)

end FileTree

end ApiSurface
