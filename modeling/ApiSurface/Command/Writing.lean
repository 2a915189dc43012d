import ApiSurface.Command.Host
import ApiSurface.Output.Files

/-!
# Writing rendered files

Rendered files are written into a directory one after the other.  A file that is there already
is skipped unless overwriting is asked for, and a dry run only says what it would write.
-/

namespace ApiSurface

open Output

structure WriteOptions where
  overwrite : Bool
  dryRun : Bool
  deriving DecidableEq, Repr

structure WriteSummary where
  written : List String
  skipped : List String
  deriving DecidableEq, Repr

namespace WriteSummary

def empty : WriteSummary :=
  ⟨[], []⟩

def withWritten (summary : WriteSummary) (path : String) : WriteSummary :=
  { summary with written := path :: summary.written }

def withSkipped (summary : WriteSummary) (path : String) : WriteSummary :=
  { summary with skipped := path :: summary.skipped }

end WriteSummary

/-! ## Lines of the report -/

def skippedLine (path : String) : String :=
  "⚠️  Skipping existing file: " ++ Text.quote path ++ " (use --force to overwrite)\n"

def plannedLine (path contents : String) : String :=
  "📝 Would write " ++ Text.quote path ++ " (" ++
    Text.decimal (Text.byteLength contents.toList) ++ " bytes)\n"

def writtenLine (path : String) : String :=
  "✅ Generated " ++ Text.quote path ++ "\n"

/-! ## Writing -/

variable {m : Type → Type} [Monad m]

def Output.RenderedFile.target (directory : String) (file : RenderedFile) : String :=
  Path.join directory file.name

/-- Puts a file into its directory, which is created if it is missing. -/
def place (host : Host m) (path contents : String) : Run m Unit := do
  if let some parent := Path.parent? path then
    Run.ofFile (.noDirectory parent) (host.createDirectories parent)
  Run.ofFile (.notWritten path) (host.write path contents)

def writeFiles (host : Host m) (options : WriteOptions) (directory : String) :
    List RenderedFile → Run m WriteSummary
  | [] => return .empty
  | file :: files => do
      let path := file.target directory
      let present ← (host.contains path : m _)
      if present && !options.overwrite then
        host.print (skippedLine path)
        return (← writeFiles host options directory files).withSkipped path
      else if options.dryRun then
        host.print (plannedLine path file.contents)
        return (← writeFiles host options directory files).withWritten path
      else
        place host path file.contents
        host.print (writtenLine path)
        return (← writeFiles host options directory files).withWritten path

end ApiSurface
