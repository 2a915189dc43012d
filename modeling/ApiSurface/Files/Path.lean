import ApiSurface.Text.Pieces

/-!
# Paths

Paths are texts of names between slashes.  Slashes in a row count as one, and a dot behind a
slash leads nowhere; the texts of the parts are kept as they were written.
-/

namespace ApiSurface

/-- The names from the root to a file or directory. -/
abbrev Location := List String

namespace Path

def join (directory path : String) : String :=
  if path.startsWith "/" then path
  else if directory.isEmpty || directory.endsWith "/" then directory ++ path
  else directory ++ "/" ++ path

/-! ## Parts -/

def piecesBackwards (path : String) : List String :=
  (Text.split '/' path).reverse

/-- Passes over pieces at the end that lead nowhere.  The first piece of all tells a path in
the root and one in the working directory from others, so it stays. -/
def dropIdle : List String → List String
  | [] => []
  | [first] => [first]
  | piece :: rest => if piece == "" || piece == "." then dropIdle rest else piece :: rest

/-- The path without its last part; neither the root nor an empty path has one. -/
def parent? (path : String) : Option String :=
  match dropIdle (piecesBackwards path) with
  | [] => none
  | [only] => if only.isEmpty then none else some ""
  | _ :: rest =>
      match dropIdle rest with
      | [""] => some "/"
      | rest => some (Text.join "/" rest.reverse)

def fileName (path : String) : String :=
  (dropIdle (piecesBackwards path)).headD ""

/-- A name before and after its last dot.  A dot that starts the name ends no stem. -/
def splitName (name : String) : String × Option String :=
  let cs := name.toList
  let extension := Text.afterLast '.' cs
  let stem := Text.dropEnd (extension.length + 1) cs
  if stem.isEmpty then (name, none) else (.ofList stem, some (.ofList extension))

def stem (path : String) : String :=
  (splitName (fileName path)).1

def extension? (path : String) : Option String :=
  (splitName (fileName path)).2

/-! ## Steps -/

/-- Where a path starts: a slash in front of it stands for the root. -/
def start (working : Location) (path : String) : Location :=
  if path.startsWith "/" then [] else working

/-- The names that a path goes through from its start, with `.` for staying and `..` for going up;
a slash at the end stays in a directory. -/
def steps (path : String) : List String :=
  let names := (Text.split '/' path).filter fun piece => !piece.isEmpty
  if path.endsWith "/" then names ++ ["."] else names

end Path

end ApiSurface
