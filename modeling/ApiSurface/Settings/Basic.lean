import ApiSurface.Security

/-!
# Settings

What holds for every resource of a catalog: how controllers are named, what responses are
wrapped in, who provides the data, and how the output is written.
-/

namespace ApiSurface

open Naming

/-! ## Output formats -/

inductive OutputFormat where
  | rust
  | json
  | yaml
  deriving DecidableEq, Repr

def OutputFormat.text : OutputFormat → String
  | .rust => "rust"
  | .json => "json"
  | .yaml => "yaml"

def OutputFormat.named : List (String × OutputFormat) :=
  [.rust, .json, .yaml].map fun format => (OutputFormat.text format, format)

/-! ## Collaborators -/

structure Collaborators where
  dataAccessor : String
  dataMapper : String
  dataMerger : String
  searchFilterBuilder : String
  referenceResolver : String
  deriving DecidableEq, Repr

def Collaborators.default : Collaborators :=
  ⟨"DataAccessor", "DataMapper", "DataMerger", "SearchFilterBuilder", "ReferenceResolver"⟩

def Collaborators.fields (collaborators : Collaborators) : List (String × String) :=
  [("data_accessor", collaborators.dataAccessor),
    ("data_mapper", collaborators.dataMapper),
    ("data_merger", collaborators.dataMerger),
    ("search_filter_builder", collaborators.searchFilterBuilder),
    ("reference_resolver", collaborators.referenceResolver)]

/-! ## Settings -/

structure Settings where
  classNamePrefix : String
  classNamePattern : String
  dataWrapper : Option String
  dtoNamespace : Option String
  dtoSuffix : String
  entitySuffixes : List String
  indentation : String
  pageSize : Nat
  verbose : Bool
  security : Option SecurityPolicy
  collaborators : Collaborators
  exporter : OutputFormat
  deriving DecidableEq, Repr

def Settings.default : Settings where
  classNamePrefix := "Generated"
  classNamePattern := "\x7bPREFIX\x7d\x7bNAME\x7d"
  dataWrapper := none
  dtoNamespace := none
  dtoSuffix := defaultDtoSuffix
  entitySuffixes := defaultEntitySuffixes
  indentation := "    "
  pageSize := 20
  verbose := false
  security := none
  collaborators := .default
  exporter := .rust

/-- The value of a wrapper setting that turns wrapping off. -/
def noWrapper : String :=
  "none"

/-- The wrapper type that a value names: none if it is blank or says so. -/
def normalizeWrapper (value : String) : Option String :=
  let wrapper := Text.trim value
  if wrapper.isEmpty || Text.equalsIgnoringCase wrapper noWrapper then none else some wrapper

def Settings.adapt (settings : Settings) (policy : SecurityPolicy) : SecurityPolicy :=
  { policy with entitySuffixes := settings.entitySuffixes }

end ApiSurface
