import ApiSurface.Operation.Set
import ApiSurface.Resource.Assembly

/-!
# Lifecycle of a resource

A resource is first configured and then synthesized, each once and in this order.  A transition
from another stage, or a configuration that cannot be assembled, is an error.
-/

namespace ApiSurface

/-! ## Stages -/

inductive Stage where
  | unresolved
  | configured
  | synthesizing
  | synthesized
  deriving DecidableEq, Repr

def Stage.text : Stage → String
  | .unresolved => "Unresolved"
  | .configured => "Configured"
  | .synthesizing => "Synthesizing"
  | .synthesized => "Synthesized"

inductive SynthesisError where
  | configuration (error : ConfigurationError)
  | outOfOrder (expected actual : Stage)
  deriving DecidableEq, Repr

namespace SynthesisError

def message : SynthesisError → String
  | .configuration error => error.message
  | .outOfOrder expected actual =>
      "Synthesis stage out of order: expected " ++ expected.text ++ ", resource is " ++
        actual.text

def cause? : SynthesisError → Option String
  | .configuration error => some error.message
  | .outOfOrder _ _ => none

end SynthesisError

/-! ## Resources on their way -/

structure Lifecycle where
  stage : Stage
  configuration? : Option ResourceConfiguration
  operations? : Option OperationSet
  issues : List Issue
  deriving DecidableEq, Repr

namespace Lifecycle

def unresolved : Lifecycle :=
  ⟨.unresolved, none, none, []⟩

def ofConfiguration (configuration : ResourceConfiguration) : Lifecycle :=
  ⟨.configured, some configuration, none, []⟩

def resource? (lifecycle : Lifecycle) : Option SynthesizedResource :=
  match lifecycle.stage, lifecycle.configuration?, lifecycle.operations? with
  | .synthesized, some configuration, some operations => some ⟨configuration, operations⟩
  | _, _, _ => none

/-! ## Transitions -/

/-- What a transition gives, or why it does not, with the resource that it leaves in either
case. -/
abbrev Transition :=
  EStateM SynthesisError Lifecycle

def expectStage (expected : Stage) : Transition Unit := do
  let actual := (← get).stage
  if actual = expected then
    return ()
  else
    throw (.outOfOrder expected actual)

def configure (declared : DeclaredTypes) (declaration : ResourceDeclaration)
    (settings : Settings) : Transition ResourceConfiguration := do
  expectStage .unresolved
  match assemble declared declaration settings with
  | .error error => throw (.configuration error)
  | .ok assembled =>
      modify fun lifecycle => { lifecycle with issues := assembled.issues }
      modify fun lifecycle => { lifecycle with stage := .configured }
      modify fun lifecycle => { lifecycle with configuration? := some assembled.configuration }
      return assembled.configuration

def synthesize : Transition OperationSet := do
  expectStage .configured
  match (← get).configuration? with
  | none => throw (.outOfOrder .configured .unresolved)
  | some configuration =>
      modify fun lifecycle => { lifecycle with stage := .synthesizing }
      let operations := configuration.synthesize
      modify fun lifecycle => { lifecycle with stage := .synthesized }
      modify fun lifecycle => { lifecycle with operations? := some operations }
      return operations

end Lifecycle

end ApiSurface
