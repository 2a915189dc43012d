import ApiSurface.Command.Failure
import ApiSurface.Logging.Event

/-!
# Hosts

A command runs on a host: files that it reads and writes, a place for its report, and one for
its events.  Commands are written for every host.  A session is the host whose files are a file
tree and which keeps what it is told.
-/

namespace ApiSurface

structure Host (m : Type → Type) where
  contains : String → m Bool
  read : String → m (Except FileError String)
  createDirectories : String → m (Except FileError Unit)
  write : String → String → m (Except FileError Unit)
  print : String → m Unit
  notify : Event → m Unit
  /-- Formats source files, and says what went wrong if that fails. -/
  formatSources : List String → m (Option String)

abbrev Run (m : Type → Type) (α : Type) := ExceptT Failure m α

namespace Run

variable {m : Type → Type} [Monad m] {α : Type}

def ofFile (failure : FileError → Failure) (operation : m (Except FileError α)) : Run m α := do
  match ← (operation : m _) with
  | .ok value => return value
  | .error error => throw (failure error)

def ofExcept : Except Failure α → Run m α
  | .ok value => return value
  | .error failure => throw failure

end Run

/-! ## Sessions -/

structure Session where
  tree : FileTree
  printed : String
  events : List Event
  deriving Repr

namespace Session

def start (tree : FileTree) : Session :=
  ⟨tree, "", []⟩

def change (update : FileTree → Except FileError FileTree) :
    StateM Session (Except FileError Unit) := fun session =>
  match update session.tree with
  | .ok tree => (.ok (), { session with tree := tree })
  | .error error => (.error error, session)

/-- The host of a session, with the outcome of formatting files. -/
def host (formatter : List String → Option String) : Host (StateM Session) where
  contains path := return (← get).tree.contains path
  read path := return (← get).tree.read path
  createDirectories path := change fun tree => tree.createDirectories path
  write path contents := change fun tree => tree.write path contents
  print text := modify fun session => { session with printed := session.printed ++ text }
  notify event := modify fun session => { session with events := session.events ++ [event] }
  formatSources paths := return formatter paths

end Session

end ApiSurface
