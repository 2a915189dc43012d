import ApiSurface.Command.Host
import ApiSurface.Logging.ResourceEvents

/-!
# Synthesized catalogs

A catalog file is read, the settings for it are collected, and its resources are synthesized.
Later settings win over earlier ones: the defaults, a settings file, the settings in the catalog
and the environment.
-/

namespace ApiSurface

open Document

variable {m : Type → Type} [Monad m]

/-! ## Reading the catalog -/

def catalogFormat (path : String) : DocumentFormat :=
  match Path.extension? path with
  | some "yaml" => .yaml
  | some "yml" => .yaml
  | _ => .json

def Catalog.event (catalog : Catalog) (path : String) : Event :=
  ⟨.debug, .loading, "catalog loaded",
    [("path", .string path), ("title", .string catalog.title),
      ("types", .nat catalog.types.length)]⟩

/-- The catalog in a text; the path stands for a title that is missing. -/
def Catalog.ofText (path text : String) : Except Failure Catalog :=
  let format := catalogFormat path
  match Catalog.parse (format = .yaml) text with
  | .ok catalog => .ok (catalog.withTitle (Path.stem path))
  | .error error => .error (.malformedCatalog path format error)

def Catalog.load (host : Host m) (path : String) : Run m Catalog := do
  let text ← Run.ofFile (.unreadableCatalog path) (host.read path)
  let catalog ← Run.ofExcept (Catalog.ofText path text)
  host.notify (catalog.event path)
  return catalog

/-! ## Collecting the settings -/

def settingsFileName : String :=
  "brrtcrud.toml"

def settingsBeside (host : Host m) (catalog : String) : m (Option String) := do
  match Path.parent? catalog with
  | none => return none
  | some directory =>
      let path := Path.join directory settingsFileName
      return if ← host.contains path then some path else none

def settingsPath (host : Host m) (asked : Option String) (catalog : String) :
    m (Option String) := do
  match asked with
  | none => settingsBeside host catalog
  | some path => if ← host.contains path then return some path else settingsBeside host catalog

def SettingsPatch.ofText (path text : String) : Except Failure SettingsPatch :=
  match SettingsPatch.parse text with
  | .ok patch => .ok patch
  | .error error => .error (.malformedSettings path error)

def settingsEvent (path : String) : Event :=
  ⟨.debug, .settings, "applying settings file", [("path", .string path)]⟩

def SettingsPatch.load (host : Host m) : Option String → Run m SettingsPatch
  | none => return .empty
  | some path => do
      let text ← Run.ofFile (.unreadableSettings path) (host.read path)
      let patch ← Run.ofExcept (SettingsPatch.ofText path text)
      host.notify (settingsEvent path)
      return patch

def checkAsked (host : Host m) : Option String → Run m Unit
  | none => return
  | some path => do
      if !(← host.contains path) then
        throw (.noSettings path)

def Settings.ofLayers (file catalog : SettingsPatch) (environment : Environment) : Settings :=
  ((Settings.default.apply file).apply catalog).applyEnvironment environment

def Settings.load (host : Host m) (environment : Environment) (asked : Option String)
    (path : String) (catalog : Catalog) : Run m Settings := do
  checkAsked host asked
  let found ← (settingsPath host asked path : m _)
  let file ← SettingsPatch.load host found
  return .ofLayers file (catalog.settings.getD .empty) environment

/-! ## Synthesis -/

structure SynthesizedCatalog where
  title : String
  settings : Settings
  declared : DeclaredTypes
  report : CatalogReport
  deriving Repr

/-- Reads and synthesizes a catalog.  The settings decide how loudly operations are reported. -/
def SynthesizedCatalog.load (host : Host m) (environment : Environment) (path : String)
    (asked : Option String) (verbosity : Settings → Verbosity) : Run m SynthesizedCatalog := do
  let catalog ← Catalog.load host path
  let settings ← Settings.load host environment asked path catalog
  let declared : DeclaredTypes := ⟨catalog.types⟩
  ((catalogEvents declared settings (verbosity settings)).forM host.notify : m _)
  return ⟨catalog.title, settings, declared, .ofTypes declared settings⟩

end ApiSurface
