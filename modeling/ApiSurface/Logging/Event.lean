import ApiSurface.Document.Json

/-!
# Log events

What a run reports while it works: a message at a level, from a part of the program, with named
values.
-/

namespace ApiSurface

inductive LogLevel where
  | error
  | warn
  | info
  | debug
  | trace
  deriving DecidableEq, Repr

namespace LogLevel

def name : LogLevel → String
  | .error => "error"
  | .warn => "warn"
  | .info => "info"
  | .debug => "debug"
  | .trace => "trace"

def label : LogLevel → String
  | .error => "ERROR"
  | .warn => "WARN"
  | .info => "INFO"
  | .debug => "DEBUG"
  | .trace => "TRACE"

end LogLevel

inductive EventSource where
  | loading
  | settings
  | relations
  | assembly
  | synthesis
  | generation
  deriving DecidableEq, Repr

def EventSource.target : EventSource → String
  | .loading => "brrtcrud::resource::load"
  | .settings => "brrtcrud::settings"
  | .relations => "brrtcrud::resource::relations"
  | .assembly => "brrtcrud::resource::config"
  | .synthesis => "brrtcrud::synth::pipeline"
  | .generation => "brrtcrud::generate"

structure Event where
  level : LogLevel
  source : EventSource
  message : String
  fields : List (String × Json)
  deriving Repr, BEq

def Event.toJson (event : Event) : Json :=
  .array [.string event.level.label, .string event.source.target,
    .object (("message", .string event.message) :: event.fields)]

end ApiSurface
