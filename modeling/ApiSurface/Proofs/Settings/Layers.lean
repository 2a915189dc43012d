import ApiSurface.Proofs.Text.Numerals
import ApiSurface.Settings.Patch

/-!
# Layers of settings

Settings are patched field by field: laying a patch over another one is laying the merged patch
(`Settings.apply_apply`), and of many layers the last one that sets a field decides it
(`settings_of_layers`).  The fields stand in one table with what patches say of them, and the
table leaves none out (`SettingsField.eq_of_values`).
-/

namespace ApiSurface

/-! ## Merged patches -/

def CollaboratorPatch.merge (patch later : CollaboratorPatch) : CollaboratorPatch where
  dataAccessor := later.dataAccessor.or patch.dataAccessor
  dataMapper := later.dataMapper.or patch.dataMapper
  dataMerger := later.dataMerger.or patch.dataMerger
  searchFilterBuilder := later.searchFilterBuilder.or patch.searchFilterBuilder
  referenceResolver := later.referenceResolver.or patch.referenceResolver

/-- The patch that sets what one of two patches sets, to what the later one says. -/
def SettingsPatch.merge (patch later : SettingsPatch) : SettingsPatch where
  classNamePrefix := later.classNamePrefix.or patch.classNamePrefix
  classNamePattern := later.classNamePattern.or patch.classNamePattern
  dataWrapper := later.dataWrapper.or patch.dataWrapper
  dtoNamespace := later.dtoNamespace.or patch.dtoNamespace
  dtoSuffix := later.dtoSuffix.or patch.dtoSuffix
  entitySuffixes := later.entitySuffixes.or patch.entitySuffixes
  indentation := later.indentation.or patch.indentation
  pageSize := later.pageSize.or patch.pageSize
  verbose := later.verbose.or patch.verbose
  security := later.security.or patch.security
  collaborators := Option.merge CollaboratorPatch.merge patch.collaborators later.collaborators
  exporter := later.exporter.or patch.exporter

/-! ## Fields -/

/-- A field of the settings: what patches say of it, how that is normalised, and its value. -/
structure SettingsField where
  Given : Type
  Value : Type
  given? : SettingsPatch → Option Given
  normalize : Given → Value
  value : Settings → Value

namespace SettingsField

def plain {α : Type} (given? : SettingsPatch → Option α) (value : Settings → α) : SettingsField :=
  ⟨α, α, given?, id, value⟩

def dataWrapper : SettingsField :=
  ⟨String, Option String, (·.dataWrapper), normalizeWrapper, (·.dataWrapper)⟩

def dtoNamespace : SettingsField :=
  ⟨String, Option String, (·.dtoNamespace), nonEmpty, (·.dtoNamespace)⟩

def indentation : SettingsField :=
  ⟨Nat, String, (·.indentation), spaces, (·.indentation)⟩

def security : SettingsField :=
  ⟨SecurityPolicy, Option SecurityPolicy, (·.security), some, (·.security)⟩

def collaborator (given? : CollaboratorPatch → Option String) (value : Collaborators → String) :
    SettingsField :=
  plain (fun patch => patch.collaborators.bind given?) fun settings => value settings.collaborators

def all : List SettingsField :=
  [plain (·.classNamePrefix) (·.classNamePrefix), plain (·.classNamePattern) (·.classNamePattern),
    dataWrapper, dtoNamespace, plain (·.dtoSuffix) (·.dtoSuffix),
    plain (·.entitySuffixes) (·.entitySuffixes), indentation, plain (·.pageSize) (·.pageSize),
    plain (·.verbose) (·.verbose), security, collaborator (·.dataAccessor) (·.dataAccessor),
    collaborator (·.dataMapper) (·.dataMapper), collaborator (·.dataMerger) (·.dataMerger),
    collaborator (·.searchFilterBuilder) (·.searchFilterBuilder),
    collaborator (·.referenceResolver) (·.referenceResolver), plain (·.exporter) (·.exporter)]

theorem eq_of_values {settings other : Settings}
    (hvalues : ∀ field ∈ all, field.value settings = field.value other) : settings = other := by
  obtain ⟨_, _, _, _, _, _, _, _, _, _, ⟨_, _, _, _, _⟩, _⟩ := settings
  obtain ⟨_, _, _, _, _, _, _, _, _, _, ⟨_, _, _, _, _⟩, _⟩ := other
  simpa [all, plain, dataWrapper, dtoNamespace, indentation, security, collaborator,
    and_assoc] using hvalues

theorem value_apply {field : SettingsField} (hfield : field ∈ all) (settings : Settings)
    (patch : SettingsPatch) : field.value (settings.apply patch) =
      ((field.given? patch).map field.normalize).getD (field.value settings) := by
  revert field
  simp only [all, collaborator, List.forall_mem_cons]
  cases hpatch : patch.collaborators with
  | none =>
      simp [plain, dataWrapper, dtoNamespace, indentation, security, Settings.apply, hpatch]
  | some changes =>
      simp [plain, dataWrapper, dtoNamespace, indentation, security, Settings.apply, hpatch,
        Collaborators.apply]

theorem collaborators_merge (given? : CollaboratorPatch → Option String)
    (hmerge : ∀ changes others : CollaboratorPatch,
      given? (changes.merge others) = (given? others).or (given? changes))
    (patch later : SettingsPatch) : (patch.merge later).collaborators.bind given? =
      (later.collaborators.bind given?).or (patch.collaborators.bind given?) := by
  unfold SettingsPatch.merge
  cases patch.collaborators <;> cases later.collaborators <;> simp [hmerge]

theorem given?_merge {field : SettingsField} (hfield : field ∈ all)
    (patch later : SettingsPatch) :
    field.given? (patch.merge later) = (field.given? later).or (field.given? patch) := by
  revert field
  simp only [all, collaborator, List.forall_mem_cons]
  refine ⟨rfl, rfl, rfl, rfl, rfl, rfl, rfl, rfl, rfl, rfl, ?_, ?_, ?_, ?_, ?_, rfl,
    List.forall_mem_nil _⟩
  all_goals exact collaborators_merge _ (fun _ _ => rfl) patch later

end SettingsField

namespace Settings

theorem apply_apply (settings : Settings) (patch later : SettingsPatch) :
    (settings.apply patch).apply later = settings.apply (patch.merge later) := by
  apply SettingsField.eq_of_values
  intro field hfield
  rw [SettingsField.value_apply hfield, SettingsField.value_apply hfield,
    SettingsField.value_apply hfield, SettingsField.given?_merge hfield, Option.map_or,
    Option.getD_or]

end Settings

/-! ## Layers -/

namespace SettingsField

def lastGiven? (field : SettingsField) (layers : List SettingsPatch) : Option field.Given :=
  (layers.filterMap field.given?).getLast?

theorem value_foldl {field : SettingsField} (hfield : field ∈ all) (layers : List SettingsPatch)
    (settings : Settings) : field.value (layers.foldl Settings.apply settings) =
      ((field.lastGiven? layers).map field.normalize).getD (field.value settings) := by
  induction layers generalizing settings with
  | nil => rfl
  | cons layer layers ih =>
      rw [List.foldl_cons, ih, value_apply hfield, lastGiven?, lastGiven?]
      cases hlayer : field.given? layer with
      | none => rw [List.filterMap_cons_none hlayer, Option.map_none, Option.getD_none]
      | some given =>
          rw [List.filterMap_cons_some hlayer, List.getLast?_cons]
          cases (layers.filterMap field.given?).getLast? <;> rfl

end SettingsField

/-! ## Environment variables -/

/--
What a patch made of environment variables says: the texts of four of them, and what three more
say where a number or a flag can be read.
-/
structure SettingsPatch.IsOverlay (patch : SettingsPatch) (environment : Environment) : Prop where
  classNamePrefix : patch.classNamePrefix = environment "BRRTCRUD_CLASS_PREFIX"
  classNamePattern : patch.classNamePattern = environment "BRRTCRUD_CLASS_PATTERN"
  dataWrapper : patch.dataWrapper = environment "BRRTCRUD_DATA_WRAPPER"
  dtoNamespace : patch.dtoNamespace = environment "BRRTCRUD_DTO_NAMESPACE"
  indentation (count : Nat) : patch.indentation = some count ↔
    ∃ text, environment "BRRTCRUD_INDENT" = some text ∧
      Text.IsDecimal (Text.trim text).toList count ∧ count < 2 ^ 64
  pageSize (size : Nat) : patch.pageSize = some size ↔
    ∃ text, environment "BRRTCRUD_PAGE_SIZE" = some text ∧
      Text.IsDecimal (Text.trim text).toList size ∧ size < 2 ^ 32
  verbose (flag : Bool) : patch.verbose = some flag ↔
    ∃ text, environment "BRRTCRUD_VERBOSE" = some text ∧
      Text.trim text = if flag then "true" else "false"
  dtoSuffix : patch.dtoSuffix = none
  entitySuffixes : patch.entitySuffixes = none
  security : patch.security = none
  collaborators : patch.collaborators = none
  exporter : patch.exporter = none

theorem naturalVariable_eq_some_iff {bound value : Nat} {text : String} :
    naturalVariable bound text = some value ↔
      Text.IsDecimal (Text.trim text).toList value ∧ value < bound := by
  rw [naturalVariable, Option.filter_eq_some_iff, Text.readNatural?_eq_some_iff, Text.trim,
    String.toList_ofList, decide_eq_true_iff]

theorem flagVariable_eq_some_iff {flag : Bool} {text : String} :
    flagVariable text = some flag ↔ Text.trim text = if flag then "true" else "false" := by
  unfold flagVariable
  split
  · next htrue => cases flag <;> simp [htrue]
  · next hfalse => cases flag <;> simp [hfalse]
  · next htrue hfalse =>
      cases flag with
      | false => simpa using hfalse
      | true => simpa using htrue

theorem isOverlay_ofEnvironment (environment : Environment) :
    (SettingsPatch.ofEnvironment environment).IsOverlay environment where
  classNamePrefix := rfl
  classNamePattern := rfl
  dataWrapper := rfl
  dtoNamespace := rfl
  indentation count := by
    simp only [SettingsPatch.ofEnvironment, Option.bind_eq_some_iff, naturalVariable_eq_some_iff]
    rfl
  pageSize size := by
    simp only [SettingsPatch.ofEnvironment, Option.bind_eq_some_iff, naturalVariable_eq_some_iff]
    rfl
  verbose flag := by
    simp only [SettingsPatch.ofEnvironment, Option.bind_eq_some_iff, flagVariable_eq_some_iff]
  dtoSuffix := rfl
  entitySuffixes := rfl
  security := rfl
  collaborators := rfl
  exporter := rfl

/-! ## Layered settings -/

/--
Laying a patch over another one is laying the merged patch.  After any patches and the environment
every field is what the last layer that sets it says, normalised, or is as before where none does.
-/
theorem settings_of_layers (settings : Settings) (patches : List SettingsPatch)
    (environment : Environment) :
    (∀ patch later, (settings.apply patch).apply later = settings.apply (patch.merge later)) ∧
      ∃ overlay : SettingsPatch, overlay.IsOverlay environment ∧
        ∀ field ∈ SettingsField.all,
          field.value ((patches.foldl Settings.apply settings).applyEnvironment environment) =
            ((field.lastGiven? (patches ++ [overlay])).map field.normalize).getD
              (field.value settings) := by
  refine ⟨settings.apply_apply, .ofEnvironment environment, isOverlay_ofEnvironment environment, ?_⟩
  intro field hfield
  rw [← SettingsField.value_foldl hfield, List.foldl_append]
  rfl

def pagePatch : SettingsPatch :=
  { SettingsPatch.empty with dataWrapper := some "Page", pageSize := some 50 }

def barePatch : SettingsPatch :=
  { SettingsPatch.empty with dataWrapper := some " None " }

def indentVariables : Environment := fun name =>
  if name = "BRRTCRUD_INDENT" then some " +2\n" else none

theorem pagePatch_layers :
    ∃ layered, layered = ([pagePatch, barePatch].foldl Settings.apply .default).applyEnvironment
        indentVariables ∧ layered.dataWrapper = none ∧ layered.indentation = "  " := by
  refine ⟨_, rfl, ?_⟩
  obtain ⟨-, overlay, hoverlay, hfields⟩ :=
    settings_of_layers .default [pagePatch, barePatch] indentVariables
  have hbare : overlay.dataWrapper = none := by
    simp [hoverlay.dataWrapper, indentVariables]
  have hindent : overlay.indentation = some 2 :=
    (hoverlay.indentation 2).mpr
      ⟨" +2\n", rfl, ⟨['2'], by simp, by simp, by decide +kernel, rfl⟩, by decide⟩
  have hwrapper := hfields .dataWrapper (by simp [SettingsField.all])
  have hspaces := hfields .indentation (by simp [SettingsField.all])
  have hword : SettingsField.dataWrapper.lastGiven? ([pagePatch, barePatch] ++ [overlay]) =
      some " None " := by
    simp [SettingsField.lastGiven?, SettingsField.dataWrapper, pagePatch, barePatch, hbare]
  have hcount : SettingsField.indentation.lastGiven? ([pagePatch, barePatch] ++ [overlay]) =
      some (2 : Nat) := by
    simp [SettingsField.lastGiven?, SettingsField.indentation, pagePatch, barePatch, hindent]
  rw [hword] at hwrapper
  rw [hcount] at hspaces
  have hnone : normalizeWrapper " None " = none := by decide +kernel
  have htwo : spaces 2 = "  " := by decide
  exact ⟨hwrapper.trans hnone, hspaces.trans htwo⟩

end ApiSurface
