import ApiSurface.Settings.Basic

/-!
# Settings patches

A patch sets some of the settings.  Settings are built by laying patches over the defaults, one
after the other; the last layer that sets a field decides it.
-/

namespace ApiSurface

structure CollaboratorPatch where
  dataAccessor : Option String
  dataMapper : Option String
  dataMerger : Option String
  searchFilterBuilder : Option String
  referenceResolver : Option String
  deriving DecidableEq, Repr

def CollaboratorPatch.empty : CollaboratorPatch :=
  ⟨none, none, none, none, none⟩

def Collaborators.apply (collaborators : Collaborators) (patch : CollaboratorPatch) :
    Collaborators where
  dataAccessor := patch.dataAccessor.getD collaborators.dataAccessor
  dataMapper := patch.dataMapper.getD collaborators.dataMapper
  dataMerger := patch.dataMerger.getD collaborators.dataMerger
  searchFilterBuilder := patch.searchFilterBuilder.getD collaborators.searchFilterBuilder
  referenceResolver := patch.referenceResolver.getD collaborators.referenceResolver

structure SettingsPatch where
  classNamePrefix : Option String
  classNamePattern : Option String
  dataWrapper : Option String
  dtoNamespace : Option String
  dtoSuffix : Option String
  entitySuffixes : Option (List String)
  /-- The number of spaces of one level. -/
  indentation : Option Nat
  pageSize : Option Nat
  verbose : Option Bool
  security : Option SecurityPolicy
  collaborators : Option CollaboratorPatch
  exporter : Option OutputFormat
  deriving DecidableEq, Repr

def SettingsPatch.empty : SettingsPatch :=
  ⟨none, none, none, none, none, none, none, none, none, none, none, none⟩

def nonEmpty (value : String) : Option String :=
  if value.isEmpty then none else some value

/-- A text of so many spaces.  The number has no bound here; with more than `2 ^ 63 - 1`, which no
memory holds, a running program breaks off instead. -/
def spaces (count : Nat) : String :=
  .ofList (List.replicate count ' ')

def Settings.apply (settings : Settings) (patch : SettingsPatch) : Settings where
  classNamePrefix := patch.classNamePrefix.getD settings.classNamePrefix
  classNamePattern := patch.classNamePattern.getD settings.classNamePattern
  dataWrapper := (patch.dataWrapper.map normalizeWrapper).getD settings.dataWrapper
  dtoNamespace := (patch.dtoNamespace.map nonEmpty).getD settings.dtoNamespace
  dtoSuffix := patch.dtoSuffix.getD settings.dtoSuffix
  entitySuffixes := patch.entitySuffixes.getD settings.entitySuffixes
  indentation := (patch.indentation.map spaces).getD settings.indentation
  pageSize := patch.pageSize.getD settings.pageSize
  verbose := patch.verbose.getD settings.verbose
  security := (patch.security.map some).getD settings.security
  collaborators :=
    (patch.collaborators.map settings.collaborators.apply).getD settings.collaborators
  exporter := patch.exporter.getD settings.exporter

/-! ## Environment variables -/

abbrev Environment := String → Option String

def naturalVariable (bound : Nat) (value : String) : Option Nat :=
  (Text.readNatural? (Text.trimChars value.toList)).filter (· < bound)

def flagVariable (value : String) : Option Bool :=
  match Text.trim value with
  | "true" => some true
  | "false" => some false
  | _ => none

def SettingsPatch.ofEnvironment (environment : Environment) : SettingsPatch :=
  { SettingsPatch.empty with
    classNamePrefix := environment "BRRTCRUD_CLASS_PREFIX"
    classNamePattern := environment "BRRTCRUD_CLASS_PATTERN"
    dataWrapper := environment "BRRTCRUD_DATA_WRAPPER"
    dtoNamespace := environment "BRRTCRUD_DTO_NAMESPACE"
    indentation := (environment "BRRTCRUD_INDENT").bind (naturalVariable (Nat.pow 2 64))
    pageSize := (environment "BRRTCRUD_PAGE_SIZE").bind (naturalVariable (Nat.pow 2 32))
    verbose := (environment "BRRTCRUD_VERBOSE").bind flagVariable }

def Settings.applyEnvironment (settings : Settings) (environment : Environment) : Settings :=
  settings.apply (.ofEnvironment environment)

end ApiSurface
