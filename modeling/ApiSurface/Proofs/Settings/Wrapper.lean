import ApiSurface.Proofs.Naming.BasePath
import ApiSurface.Proofs.Operation.Response
import ApiSurface.Proofs.Resource.Assembly
import ApiSurface.Settings.Patch

/-!
# Wrapper types

The word `none` in place of a wrapper type turns wrapping off.  Whatever layers are laid over the
defaults, the settings never hold that word as a type (`Settings.Layered.isWrapper`), and neither
does a resource that is assembled under them (`wrapper_of_layers`).
-/

namespace ApiSurface

/-! ## The word that turns wrapping off -/

def SaysNone (text : String) : Prop :=
  text.toList.map Char.toLower = ['n', 'o', 'n', 'e']

instance (text : String) : Decidable (SaysNone text) :=
  inferInstanceAs (Decidable (_ = _))

def IsWrapper (text : String) : Prop :=
  Text.IsTrimmed text ∧ ¬SaysNone text

theorem equalsIgnoringCase_noWrapper_iff {text : String} :
    Text.equalsIgnoringCase text noWrapper = true ↔ SaysNone text := by
  have hword : noWrapper.toList.map Char.toLower = ['n', 'o', 'n', 'e'] := by decide
  rw [Text.equalsIgnoringCase, hword, beq_iff_eq, SaysNone]

theorem normalizeWrapper_eq_some_iff {value wrapper : String} :
    normalizeWrapper value = some wrapper ↔ Text.trim value = wrapper ∧ IsWrapper wrapper := by
  have htrimmed : Text.IsTrimmed (Text.trim value) ↔ Text.trim value ≠ "" :=
    and_iff_left (Text.trim_trim value)
  unfold normalizeWrapper
  simp only [Bool.or_eq_true, String.isEmpty_iff, equalsIgnoringCase_noWrapper_iff]
  constructor
  · intro hsome
    split at hsome
    · cases hsome
    · next hkept =>
        obtain rfl := Option.some.inj hsome
        rw [not_or] at hkept
        exact ⟨rfl, htrimmed.mpr hkept.1, hkept.2⟩
  · rintro ⟨rfl, hwrapper⟩
    rw [if_neg (not_or.mpr ⟨hwrapper.1.1, hwrapper.2⟩)]

theorem normalizeWrapper_of_saysNone {text : String} (htrimmed : Text.IsTrimmed text)
    (hword : SaysNone text) : normalizeWrapper text = none := by
  rw [Option.eq_none_iff_forall_ne_some]
  intro wrapper hsome
  obtain ⟨htrim, -, hother⟩ := normalizeWrapper_eq_some_iff.mp hsome
  rw [← htrim, htrimmed.2] at hother
  exact hother hword

/-! ## Layers -/

namespace Settings

/-- Settings made of the defaults by patches and environment variables, in any number and order. -/
inductive Layered : Settings → Prop
  | default : Layered .default
  | patched {settings : Settings} (patch : SettingsPatch) (hlayered : Layered settings) :
      Layered (settings.apply patch)
  | overlaid {settings : Settings} (environment : Environment) (hlayered : Layered settings) :
      Layered (settings.applyEnvironment environment)

variable {settings : Settings}

theorem dataWrapper_apply (settings : Settings) (patch : SettingsPatch) :
    (settings.apply patch).dataWrapper =
      (patch.dataWrapper.map normalizeWrapper).getD settings.dataWrapper :=
  rfl

theorem isWrapper_apply (hwrapper : ∀ wrapper ∈ settings.dataWrapper, IsWrapper wrapper)
    (patch : SettingsPatch) : ∀ wrapper ∈ (settings.apply patch).dataWrapper, IsWrapper wrapper := by
  rw [dataWrapper_apply]
  cases patch.dataWrapper with
  | none => simpa using hwrapper
  | some value =>
      intro wrapper hmem
      have hsome : normalizeWrapper value = some wrapper := by simpa using hmem
      exact (normalizeWrapper_eq_some_iff.mp hsome).2

theorem Layered.isWrapper (hlayered : settings.Layered) :
    ∀ wrapper ∈ settings.dataWrapper, IsWrapper wrapper := by
  induction hlayered with
  | default => simp [Settings.default]
  | patched patch _ ih => exact isWrapper_apply ih patch
  | overlaid environment _ ih => exact isWrapper_apply ih (.ofEnvironment environment)

end Settings

/-! ## Resources -/

namespace ResourceMetadata

variable {values : MarkerValues} {settings : Settings} {text : String}

theorem wrapperOf_of_none (hunset : values.text? "wrapper" = none) :
    wrapperOf values settings = settings.dataWrapper := by
  rw [wrapperOf, hunset]

theorem wrapperOf_of_saysNone (htext : values.text? "wrapper" = some text)
    (hword : SaysNone text) : wrapperOf values settings = none := by
  simp only [wrapperOf, htext]
  exact normalizeWrapper_of_saysNone (MarkerValues.isTrimmed_of_text? htext) hword

theorem wrapperOf_of_some (htext : values.text? "wrapper" = some text)
    (hother : ¬SaysNone text) : wrapperOf values settings = some text := by
  simp only [wrapperOf, htext]
  have htrimmed := MarkerValues.isTrimmed_of_text? htext
  exact normalizeWrapper_eq_some_iff.mpr ⟨htrimmed.2, htrimmed, hother⟩

theorem isWrapper_of_wrapperOf (hlayered : settings.Layered) :
    ∀ wrapper ∈ wrapperOf values settings, IsWrapper wrapper := by
  intro wrapper hmem
  cases htext : values.text? "wrapper" with
  | none =>
      rw [wrapperOf_of_none htext] at hmem
      exact hlayered.isWrapper wrapper hmem
  | some text =>
      simp only [wrapperOf, htext, Option.mem_def] at hmem
      exact (normalizeWrapper_eq_some_iff.mp hmem).2

end ResourceMetadata

theorem enclosed_inj {wrapper word bare : String}
    (hsame : wrapper ++ "<" ++ bare ++ ">" = word ++ "<" ++ bare ++ ">") : wrapper = word := by
  rw [← String.toList_inj] at hsame ⊢
  simpa using hsame

theorem ne_enclosed (word bare : String) : bare ≠ word ++ "<" ++ bare ++ ">" := by
  intro hsame
  have hlength := congrArg String.length hsame
  simp only [String.length_append] at hlength
  have : ">".length = 1 := rfl
  omega

theorem declaredType_ne_of_saysNone {config : ResourceConfiguration}
    (hwrapper : ∀ wrapper ∈ config.wrapper, IsWrapper wrapper) (shape : ResponseShape)
    {word : String} (hword : SaysNone word) :
    declaredType config shape ≠ word ++ "<" ++ shape.bareType ++ ">" := by
  unfold declaredType
  cases hconfig : config.wrapper with
  | none => exact ne_enclosed word shape.bareType
  | some wrapper =>
      intro hsame
      rw [enclosed_inj hsame] at hconfig
      exact (hwrapper word hconfig).2 hword

/--
A wrapper that the marker names is that of the resource, and `none` in its place leaves responses
bare; without one the settings decide.  Under layered settings the wrapper is a type, and no
response is put into the word `none`.
-/
theorem wrapper_of_layers (declared : DeclaredTypes) (declaration : ResourceDeclaration)
    (settings : Settings) {assembled : AssembledResource}
    (hassembled : assemble declared declaration settings = .ok assembled) :
    let config := assembled.configuration
    let marked := declaration.values.text? "wrapper"
    (∀ text, marked = some text → SaysNone text → config.wrapper = none) ∧
      (∀ text, marked = some text → ¬SaysNone text → config.wrapper = some text) ∧
      (marked = none → config.wrapper = settings.dataWrapper) ∧
      (settings.Layered →
        (config.wrapper = none ∨
          ∃ wrapper, config.wrapper = some wrapper ∧ Text.IsTrimmed wrapper ∧ ¬SaysNone wrapper) ∧
        ∀ operation ∈ config.synthesize.operations, ∀ word, SaysNone word →
          operation.response.declaredType ≠
            word ++ "<" ++ operation.response.shape.bareType ++ ">") := by
  intro config marked
  have hconfig : config.wrapper = ResourceMetadata.wrapperOf declaration.values settings :=
    wrapper_of_assemble hassembled
  rw [hconfig]
  refine ⟨fun text => ResourceMetadata.wrapperOf_of_saysNone,
    fun text => ResourceMetadata.wrapperOf_of_some, ResourceMetadata.wrapperOf_of_none, ?_⟩
  intro hlayered
  have hwrapper : ∀ wrapper ∈ config.wrapper, IsWrapper wrapper := by
    rw [hconfig]
    exact ResourceMetadata.isWrapper_of_wrapperOf hlayered
  constructor
  · rw [← hconfig]
    cases hcase : config.wrapper with
    | none => exact Or.inl rfl
    | some wrapper => exact Or.inr ⟨wrapper, rfl, hwrapper wrapper hcase⟩
  · intro operation hoperation word hword
    obtain ⟨hcontract, -⟩ := ResourceConfiguration.operation_answers hoperation
    rw [hcontract]
    exact declaredType_ne_of_saysNone hwrapper _ hword

def bareMarker : Marker :=
  ⟨"CrudResource", [("entity", .string "shop.Order"), ("wrapper", .string " NoNe\n")]⟩

def bareController : TypeDecl :=
  ⟨"shop.OrderController", [bareMarker], [], []⟩

def bareDeclaration : ResourceDeclaration :=
  ⟨bareController, bareMarker.valuesAt "shop.OrderController"⟩

def envelopeSettings : Settings :=
  (Settings.default.apply { SettingsPatch.empty with dataWrapper := some " shop.Envelope" })
    |>.applyEnvironment fun _ => none

theorem bareOrders_wrapper :
    envelopeSettings.Layered ∧ envelopeSettings.dataWrapper = some "shop.Envelope" ∧
      SaysNone "NoNe" ∧ ∃ assembled,
        assemble ⟨[bareController, .bare "shop.Order"]⟩ bareDeclaration envelopeSettings =
          .ok assembled ∧
        assembled.configuration.wrapper = none ∧
        ∀ operation ∈ assembled.configuration.synthesize.operations,
          operation.response.declaredType ≠
            "NoNe" ++ "<" ++ operation.response.shape.bareType ++ ">" := by
  have hlayered : envelopeSettings.Layered := .overlaid _ (.patched _ .default)
  have hsettings : envelopeSettings.dataWrapper = some "shop.Envelope" := by decide +kernel
  have hword : SaysNone "NoNe" := by decide
  have hmarked : bareDeclaration.values.text? "wrapper" = some "NoNe" := by decide +kernel
  obtain ⟨assembled, hassembled⟩ : ∃ assembled,
      assemble ⟨[bareController, .bare "shop.Order"]⟩ bareDeclaration envelopeSettings =
        .ok assembled :=
    exists_eq_ok_of_isOk (by decide +kernel)
  obtain ⟨hnone, -, -, hnever⟩ := wrapper_of_layers _ _ _ hassembled
  exact ⟨hlayered, hsettings, hword, assembled, hassembled, hnone "NoNe" hmarked hword,
    fun operation hoperation => (hnever hlayered).2 operation hoperation "NoNe" hword⟩

end ApiSurface
