import ApiSurface.Synthesis.Lifecycle

/-!
# Runs of a lifecycle

A resource is called any number of times, in any order and with any arguments.  A call that fails
changes nothing, a call that succeeds takes the resource from one stage to the next, and at every
stage there is exactly what belongs to it (`Consistent`).  `after_calls` puts this together for
every run from a new or a configured resource.
-/

namespace ApiSurface

namespace Lifecycle

/-! ## One transition -/

theorem expectStage_of_eq {lifecycle : Lifecycle} {expected : Stage}
    (hstage : lifecycle.stage = expected) :
    expectStage expected lifecycle = .ok () lifecycle := by
  change (if lifecycle.stage = expected then (pure () : Transition Unit)
    else throw (.outOfOrder expected lifecycle.stage)) lifecycle = _
  rw [if_pos hstage]
  rfl

theorem expectStage_of_ne {lifecycle : Lifecycle} {expected : Stage}
    (hstage : lifecycle.stage ≠ expected) :
    expectStage expected lifecycle =
      .error (.outOfOrder expected lifecycle.stage) lifecycle := by
  change (if lifecycle.stage = expected then (pure () : Transition Unit)
    else throw (.outOfOrder expected lifecycle.stage)) lifecycle = _
  rw [if_neg hstage]
  rfl

theorem configure_of_ne {lifecycle : Lifecycle} (declared : DeclaredTypes)
    (declaration : ResourceDeclaration) (settings : Settings)
    (hstage : lifecycle.stage ≠ .unresolved) :
    configure declared declaration settings lifecycle =
      .error (.outOfOrder .unresolved lifecycle.stage) lifecycle := by
  simp only [configure, bind, EStateM.bind, expectStage_of_ne hstage]

theorem configure_of_error {lifecycle : Lifecycle} {declared : DeclaredTypes}
    {declaration : ResourceDeclaration} {settings : Settings} {error : ConfigurationError}
    (hstage : lifecycle.stage = .unresolved)
    (herror : assemble declared declaration settings = .error error) :
    configure declared declaration settings lifecycle =
      .error (.configuration error) lifecycle := by
  simp only [configure, bind, EStateM.bind, expectStage_of_eq hstage, herror]
  rfl

theorem configure_of_ok {lifecycle : Lifecycle} {declared : DeclaredTypes}
    {declaration : ResourceDeclaration} {settings : Settings} {assembled : AssembledResource}
    (hstage : lifecycle.stage = .unresolved)
    (hassembled : assemble declared declaration settings = .ok assembled) :
    configure declared declaration settings lifecycle =
      .ok assembled.configuration
        ⟨.configured, some assembled.configuration, lifecycle.operations?, assembled.issues⟩ := by
  simp only [configure, bind, EStateM.bind, expectStage_of_eq hstage, hassembled]
  rfl

theorem synthesize_of_ne {lifecycle : Lifecycle} (hstage : lifecycle.stage ≠ .configured) :
    synthesize lifecycle = .error (.outOfOrder .configured lifecycle.stage) lifecycle := by
  simp only [synthesize, bind, EStateM.bind, expectStage_of_ne hstage]

theorem synthesize_of_none {lifecycle : Lifecycle} (hstage : lifecycle.stage = .configured)
    (hnone : lifecycle.configuration? = none) :
    synthesize lifecycle = .error (.outOfOrder .configured .unresolved) lifecycle := by
  obtain ⟨stage, configuration?, operations?, issues⟩ := lifecycle
  subst hstage hnone
  rfl

theorem synthesize_of_some {lifecycle : Lifecycle} {configuration : ResourceConfiguration}
    (hstage : lifecycle.stage = .configured)
    (hsome : lifecycle.configuration? = some configuration) :
    synthesize lifecycle =
      .ok configuration.synthesize
        ⟨.synthesized, some configuration, some configuration.synthesize, lifecycle.issues⟩ := by
  obtain ⟨stage, configuration?, operations?, issues⟩ := lifecycle
  subst hstage hsome
  rfl

/-! ## What a transition needs and what it leaves -/

theorem configure_eq_ok_iff {lifecycle next : Lifecycle} {declared : DeclaredTypes}
    {declaration : ResourceDeclaration} {settings : Settings} {result : ResourceConfiguration} :
    configure declared declaration settings lifecycle = .ok result next ↔
      lifecycle.stage = .unresolved ∧
        ∃ assembled, assemble declared declaration settings = .ok assembled ∧
          assembled.configuration = result ∧
          ⟨.configured, some assembled.configuration, lifecycle.operations?,
            assembled.issues⟩ = next := by
  by_cases hstage : lifecycle.stage = .unresolved
  · cases hassembled : assemble declared declaration settings with
    | error error => simp [configure_of_error hstage hassembled]
    | ok assembled => simp [configure_of_ok hstage hassembled, hstage]
  · simp [configure_of_ne declared declaration settings hstage, hstage]

theorem synthesize_eq_ok_iff {lifecycle next : Lifecycle} {result : OperationSet} :
    synthesize lifecycle = .ok result next ↔
      lifecycle.stage = .configured ∧
        ∃ configuration, lifecycle.configuration? = some configuration ∧
          configuration.synthesize = result ∧
          ⟨.synthesized, some configuration, some configuration.synthesize,
            lifecycle.issues⟩ = next := by
  by_cases hstage : lifecycle.stage = .configured
  · cases hconfiguration : lifecycle.configuration? with
    | none => simp [synthesize_of_none hstage hconfiguration]
    | some configuration => simp [synthesize_of_some hstage hconfiguration, hstage]
  · simp [synthesize_of_ne hstage, hstage]

theorem eq_of_configure_eq_error {lifecycle next : Lifecycle} {declared : DeclaredTypes}
    {declaration : ResourceDeclaration} {settings : Settings} {error : SynthesisError}
    (herror : configure declared declaration settings lifecycle = .error error next) :
    next = lifecycle := by
  by_cases hstage : lifecycle.stage = .unresolved
  · cases hassembled : assemble declared declaration settings with
    | error cause => simp_all [configure_of_error hstage hassembled]
    | ok assembled => simp [configure_of_ok hstage hassembled] at herror
  · simp_all [configure_of_ne declared declaration settings hstage]

theorem eq_of_synthesize_eq_error {lifecycle next : Lifecycle} {error : SynthesisError}
    (herror : synthesize lifecycle = .error error next) : next = lifecycle := by
  by_cases hstage : lifecycle.stage = .configured
  · cases hconfiguration : lifecycle.configuration? with
    | none => simp_all [synthesize_of_none hstage hconfiguration]
    | some configuration => simp [synthesize_of_some hstage hconfiguration] at herror
  · simp_all [synthesize_of_ne hstage]

/-! ## Calls -/

inductive Call where
  | configure (declared : DeclaredTypes) (declaration : ResourceDeclaration)
      (settings : Settings)
  | synthesize

def Call.perform : Call → Transition Unit
  | .configure declared declaration settings => do
      let _ ← Lifecycle.configure declared declaration settings
  | .synthesize => do
      let _ ← Lifecycle.synthesize

theorem perform_configure_eq_ok_iff {lifecycle next : Lifecycle} {declared : DeclaredTypes}
    {declaration : ResourceDeclaration} {settings : Settings} :
    (Call.configure declared declaration settings).perform lifecycle = .ok () next ↔
      ∃ result, Lifecycle.configure declared declaration settings lifecycle =
        .ok result next := by
  simp only [Call.perform, bind, EStateM.bind]
  cases Lifecycle.configure declared declaration settings lifecycle <;>
    simp [pure, EStateM.pure]

theorem perform_synthesize_eq_ok_iff {lifecycle next : Lifecycle} :
    Call.synthesize.perform lifecycle = .ok () next ↔
      ∃ result, Lifecycle.synthesize lifecycle = .ok result next := by
  simp only [Call.perform, bind, EStateM.bind]
  cases Lifecycle.synthesize lifecycle <;> simp [pure, EStateM.pure]

theorem eq_of_perform_eq_error {lifecycle next : Lifecycle} {call : Call}
    {error : SynthesisError} (herror : call.perform lifecycle = .error error next) :
    next = lifecycle := by
  cases call with
  | configure declared declaration settings =>
      simp only [Call.perform, bind, EStateM.bind] at herror
      cases hconfigure : Lifecycle.configure declared declaration settings lifecycle with
      | ok result left => simp [hconfigure, pure, EStateM.pure] at herror
      | error cause left =>
          simp only [hconfigure, EStateM.Result.error.injEq] at herror
          exact herror.2 ▸ eq_of_configure_eq_error hconfigure
  | synthesize =>
      simp only [Call.perform, bind, EStateM.bind] at herror
      cases hsynthesize : Lifecycle.synthesize lifecycle with
      | ok result left => simp [hsynthesize, pure, EStateM.pure] at herror
      | error cause left =>
          simp only [hsynthesize, EStateM.Result.error.injEq] at herror
          exact herror.2 ▸ eq_of_synthesize_eq_error hsynthesize

def after (lifecycle : Lifecycle) (call : Call) : Lifecycle :=
  match call.perform lifecycle with
  | .ok _ next => next
  | .error _ next => next

def afterAll (lifecycle : Lifecycle) (calls : List Call) : Lifecycle :=
  calls.foldl after lifecycle

/-! ## What there is at each stage -/

inductive Consistent : Lifecycle → Prop
  | unresolved : Consistent .unresolved
  | configured (configuration : ResourceConfiguration) (issues : List Issue) :
      Consistent ⟨.configured, some configuration, none, issues⟩
  | synthesized (configuration : ResourceConfiguration) (issues : List Issue) :
      Consistent
        ⟨.synthesized, some configuration, some configuration.synthesize, issues⟩

theorem Consistent.of_configure {lifecycle next : Lifecycle} {declared : DeclaredTypes}
    {declaration : ResourceDeclaration} {settings : Settings} {result : ResourceConfiguration}
    (hconsistent : Consistent lifecycle)
    (hok : configure declared declaration settings lifecycle = .ok result next) :
    Consistent next := by
  obtain ⟨hstage, assembled, -, -, rfl⟩ := configure_eq_ok_iff.mp hok
  cases hconsistent with
  | unresolved => exact .configured assembled.configuration assembled.issues
  | configured => cases hstage
  | synthesized => cases hstage

theorem Consistent.of_synthesize {lifecycle next : Lifecycle} {result : OperationSet}
    (hok : synthesize lifecycle = .ok result next) : Consistent next := by
  obtain ⟨-, configuration, -, -, rfl⟩ := synthesize_eq_ok_iff.mp hok
  exact .synthesized configuration lifecycle.issues

theorem Consistent.after {lifecycle : Lifecycle} (hconsistent : Consistent lifecycle)
    (call : Call) : Consistent (lifecycle.after call) := by
  cases hperform : call.perform lifecycle with
  | error error next =>
      rw [Lifecycle.after, hperform, eq_of_perform_eq_error hperform]
      exact hconsistent
  | ok _ next =>
      rw [Lifecycle.after, hperform]
      cases call with
      | configure declared declaration settings =>
          obtain ⟨result, hok⟩ := perform_configure_eq_ok_iff.mp hperform
          exact hconsistent.of_configure hok
      | synthesize =>
          obtain ⟨result, hok⟩ := perform_synthesize_eq_ok_iff.mp hperform
          exact .of_synthesize hok

theorem Consistent.afterAll {lifecycle : Lifecycle} (hconsistent : Consistent lifecycle)
    (calls : List Call) : Consistent (lifecycle.afterAll calls) := by
  induction calls generalizing lifecycle with
  | nil => exact hconsistent
  | cons call calls ih => exact ih (hconsistent.after call)

theorem Consistent.stage_iff {lifecycle : Lifecycle} (hconsistent : Consistent lifecycle) :
    (lifecycle.stage = .unresolved ↔
        lifecycle.configuration? = none ∧ lifecycle.operations? = none) ∧
      (lifecycle.stage = .configured ↔
        lifecycle.configuration?.isSome ∧ lifecycle.operations? = none) ∧
      (lifecycle.stage = .synthesized ↔
        ∃ configuration, lifecycle.configuration? = some configuration ∧
          lifecycle.operations? = some configuration.synthesize) ∧
      lifecycle.stage ≠ .synthesizing := by
  cases hconsistent <;> simp [Lifecycle.unresolved]

theorem Consistent.resource?_isSome_iff {lifecycle : Lifecycle}
    (hconsistent : Consistent lifecycle) :
    lifecycle.resource?.isSome ↔ lifecycle.stage = .synthesized := by
  cases hconsistent <;> simp [Lifecycle.unresolved, resource?]

theorem Consistent.synthesize_succeeds_iff {lifecycle : Lifecycle}
    (hconsistent : Consistent lifecycle) :
    (∃ result next, synthesize lifecycle = .ok result next) ↔
      lifecycle.stage = .configured := by
  simp only [synthesize_eq_ok_iff]
  cases hconsistent <;> simp [Lifecycle.unresolved]

theorem configure_succeeds_iff {lifecycle : Lifecycle} {declared : DeclaredTypes}
    {declaration : ResourceDeclaration} {settings : Settings} :
    (∃ result next, configure declared declaration settings lifecycle = .ok result next) ↔
      lifecycle.stage = .unresolved ∧
        ∃ assembled, assemble declared declaration settings = .ok assembled := by
  constructor
  · rintro ⟨result, next, hok⟩
    obtain ⟨hstage, assembled, hassembled, -⟩ := configure_eq_ok_iff.mp hok
    exact ⟨hstage, assembled, hassembled⟩
  · rintro ⟨hstage, assembled, hassembled⟩
    exact ⟨_, _, configure_of_ok hstage hassembled⟩

inductive Begins : Lifecycle → Prop
  | unresolved : Begins .unresolved
  | ofConfiguration (configuration : ResourceConfiguration) :
      Begins (.ofConfiguration configuration)

theorem Begins.consistent {lifecycle : Lifecycle} (hbegins : Begins lifecycle) :
    Consistent lifecycle := by
  cases hbegins with
  | unresolved => exact .unresolved
  | ofConfiguration configuration => exact .configured configuration []

/--
After any calls the stage says exactly what is there, and the operations are those of the
configuration.  A further call succeeds only from its own stage, and changes nothing if it
fails; at the last stage, and only there, a resource is given out.
-/
theorem after_calls {start : Lifecycle} (hstart : Begins start) (calls : List Call) :
    let lifecycle := start.afterAll calls
    (lifecycle.stage = .unresolved ↔
        lifecycle.configuration? = none ∧ lifecycle.operations? = none) ∧
      (lifecycle.stage = .configured ↔
        lifecycle.configuration?.isSome ∧ lifecycle.operations? = none) ∧
      (lifecycle.stage = .synthesized ↔
        ∃ configuration, lifecycle.configuration? = some configuration ∧
          lifecycle.operations? = some configuration.synthesize) ∧
      lifecycle.stage ≠ .synthesizing ∧
      (∀ declared declaration settings,
        (∃ result next, configure declared declaration settings lifecycle = .ok result next) ↔
          lifecycle.stage = .unresolved ∧
            ∃ assembled, assemble declared declaration settings = .ok assembled) ∧
      ((∃ result next, synthesize lifecycle = .ok result next) ↔
        lifecycle.stage = .configured) ∧
      (∀ call error next, Call.perform call lifecycle = .error error next → next = lifecycle) ∧
      (lifecycle.resource?.isSome ↔ lifecycle.stage = .synthesized) := by
  have hconsistent : Consistent (start.afterAll calls) := hstart.consistent.afterAll calls
  obtain ⟨hunresolved, hconfigured, hsynthesized, hnever⟩ := hconsistent.stage_iff
  exact ⟨hunresolved, hconfigured, hsynthesized, hnever,
    fun _ _ _ => configure_succeeds_iff, hconsistent.synthesize_succeeds_iff,
    fun _ _ _ herror => eq_of_perform_eq_error herror, hconsistent.resource?_isSome_iff⟩

def orderTypes : DeclaredTypes :=
  ⟨[⟨"shop.OrderController", [⟨"CrudResource", [("entity", .string "Order")]⟩], [], []⟩,
    .bare "shop.Order"]⟩

def orderCalls : List Call :=
  [.synthesize,
    .configure orderTypes ⟨.bare "shop.OrderController", ⟨"shop.OrderController", []⟩⟩ .default] ++
  orderTypes.resourceDeclarations.flatMap fun declaration =>
    [.configure orderTypes declaration .default, .configure orderTypes declaration .default,
      .synthesize, .synthesize]

theorem orders_after_calls :
    Begins .unresolved ∧ (unresolved.afterAll orderCalls).stage = .synthesized ∧
      (unresolved.afterAll orderCalls).resource?.isSome ∧
      ¬ ∃ result next, synthesize (unresolved.afterAll orderCalls) = .ok result next := by
  have hstage : (unresolved.afterAll orderCalls).stage = .synthesized := by decide +kernel
  obtain ⟨-, -, -, -, -, hsynthesize, -, hresource⟩ := after_calls .unresolved orderCalls
  refine ⟨.unresolved, hstage, hresource.mpr hstage, fun hsucceeds => ?_⟩
  have hother := hsynthesize.mp hsucceeds
  rw [hstage] at hother
  cases hother

end Lifecycle

end ApiSurface
