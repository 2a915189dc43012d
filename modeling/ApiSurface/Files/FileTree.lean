import ApiSurface.Files.Path

/-!
# File trees

All files and directories, and the working directory, in which relative paths start.  A tree is
seen through `node?`, which says what is at a location; every operation is described by what it
does to that view.
-/

namespace ApiSurface

inductive FileError where
  | notFound
  | alreadyExists
  | notDirectory
  | isDirectory
  | other (message : String)
  deriving DecidableEq, Repr

def FileError.message : FileError → String
  | .notFound => "No such file or directory (os error 2)"
  | .alreadyExists => "File exists (os error 17)"
  | .notDirectory => "Not a directory (os error 20)"
  | .isDirectory => "Is a directory (os error 21)"
  | .other message => message

inductive Node where
  | file (contents : String)
  | directory
  deriving DecidableEq, Repr

/-- The working directory, and what is at each location, each location at most once. -/
structure FileTree where
  workingDirectory : Location
  entries : List (Location × Node)
  deriving Repr

namespace FileTree

def empty : FileTree :=
  ⟨[], []⟩

/-- What is at a location; the working directory and those above it are always there. -/
def node? (tree : FileTree) (location : Location) : Option Node :=
  if location <+: tree.workingDirectory then some .directory else tree.entries.lookup location

def erase (tree : FileTree) (location : Location) : FileTree :=
  { tree with entries := tree.entries.filter fun entry => entry.1 != location }

def put (tree : FileTree) (location : Location) (node : Node) : FileTree :=
  { tree with entries := (location, node) :: (tree.erase location).entries }

/-! ## The view -/

private theorem lookup_filter_ne (location other : Location) (entries : List (Location × Node)) :
    (entries.filter fun entry => entry.1 != location).lookup other =
      if other = location then none else entries.lookup other := by
  induction entries with
  | nil => simp
  | cons entry entries ih =>
      obtain ⟨key, value⟩ := entry
      by_cases found : other = key
      · subst found
        by_cases same : other = location
        · rw [if_pos same] at ih ⊢
          simpa [same] using ih
        · simp [same]
      · have differs : (other == key) = false := by simpa using found
        by_cases same : key = location
        · subst same
          simpa [List.lookup_cons, differs, found] using ih
        · simpa [same, List.lookup_cons, differs] using ih

theorem workingDirectory_put (tree : FileTree) (location : Location) (node : Node) :
    (tree.put location node).workingDirectory = tree.workingDirectory :=
  rfl

theorem node?_put (tree : FileTree) (location other : Location) (node : Node)
    (hfree : ¬other <+: tree.workingDirectory) :
    (tree.put location node).node? other =
      if other = location then some node else tree.node? other := by
  by_cases found : other = location
  · subst found
    simp [node?, hfree, put]
  · have differs : (other == location) = false := by simpa using found
    simp [node?, hfree, put, erase, found, List.lookup_cons, differs, lookup_filter_ne]

/-! ## Looking up paths -/

/-- Follows steps from a directory.  All locations on the way have to be directories; there
need not be anything at the last one. -/
def follow (tree : FileTree) : Location → List String → Except FileError Location
  | location, [] => .ok location
  | location, step :: steps =>
      match tree.node? location with
      | none => .error .notFound
      | some (.file _) => .error .notDirectory
      | some .directory =>
          match step with
          | "." => tree.follow location steps
          | ".." => tree.follow location.dropLast steps
          | name => tree.follow (location ++ [name]) steps

/-- Where a path leads.  An empty one leads nowhere, not even to the working directory. -/
def locate (tree : FileTree) (path : String) : Except FileError Location :=
  if path.isEmpty then .error .notFound
  else tree.follow (Path.start tree.workingDirectory path) (Path.steps path)

def find? (tree : FileTree) (path : String) : Option Node :=
  match tree.locate path with
  | .ok location => tree.node? location
  | .error _ => none

def contains (tree : FileTree) (path : String) : Bool :=
  (tree.find? path).isSome

/-! ## Reading -/

def read (tree : FileTree) (path : String) : Except FileError String := do
  match tree.node? (← tree.locate path) with
  | none => .error .notFound
  | some .directory => .error .isDirectory
  | some (.file contents) => .ok contents

/-- The paths of all files in and below the working directory, with their contents. -/
def files (tree : FileTree) : List (String × String) :=
  tree.entries.filterMap fun entry =>
    match entry with
    | (location, .file contents) =>
        (tree.workingDirectory.isPrefixOf? location).map fun names =>
          (Text.join "/" names, contents)
    | (_, .directory) => none

/-! ## Writing -/

def write (tree : FileTree) (path contents : String) : Except FileError FileTree := do
  let location ← tree.locate path
  match tree.node? location with
  | some .directory => .error .isDirectory
  | _ => .ok (tree.put location (.file contents))

def createFrom (tree : FileTree) : Location → List String → Except FileError FileTree
  | _, [] => .ok tree
  | location, "." :: steps => tree.createFrom location steps
  | location, ".." :: steps => tree.createFrom location.dropLast steps
  | location, name :: steps =>
      let next := location ++ [name]
      match tree.node? next with
      | some .directory => tree.createFrom next steps
      | none => (tree.put next .directory).createFrom next steps
      | some (.file _) => .error (if steps.isEmpty then .alreadyExists else .notDirectory)

/-- Makes a path a directory; the empty path is the working directory. -/
def createDirectories (tree : FileTree) (path : String) : Except FileError FileTree :=
  tree.createFrom (Path.start tree.workingDirectory path) (Path.steps path)

def remove (tree : FileTree) (path : String) : Except FileError FileTree := do
  let location ← tree.locate path
  match tree.node? location with
  | none => .error .notFound
  | some .directory => .error .isDirectory
  | some (.file _) => .ok (tree.erase location)

end FileTree

end ApiSurface
