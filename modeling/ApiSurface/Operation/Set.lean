import ApiSurface.Operation.OnRelation

/-!
# Operation sets

The operations of a controller: those on the resource, then those on each relation.  Each has a
synthesizer, which declines if its route is written by hand already.
-/

namespace ApiSurface

/-! ## Scaffolding -/

structure ScaffoldField where
  name : String
  type : String
  deriving DecidableEq, Repr

def Collaborators.scaffolding (collaborators : Collaborators) : List ScaffoldField :=
  collaborators.fields.map fun (name, type) => ⟨name, type⟩

/-! ## Sets -/

structure OperationSet where
  controllerName : String
  resourceType : String
  operations : List Operation
  scaffolding : List ScaffoldField
  deriving DecidableEq, Repr

namespace OperationSet

def names (set : OperationSet) : List String :=
  set.operations.map Operation.name

def named? (set : OperationSet) (name : String) : Option Operation :=
  set.operations.find? fun operation => operation.name == name

def size (set : OperationSet) : Nat :=
  set.operations.length

end OperationSet

/-! ## Synthesizers -/

abbrev Synthesizer :=
  ResourceConfiguration → Option Operation

abbrev RelationSynthesizer :=
  ResourceConfiguration → Relation → Option Operation

namespace ResourceConfiguration

def resourceSynthesizers : List (OperationKind × Synthesizer) :=
  [(.create, createOperation?), (.read, readOperation?), (.updatePartial, updateOperation?),
    (.replace, replaceOperation?), (.delete, deleteOperation?), (.list, listOperation?),
    (.search, searchOperation?)]

def relationSynthesizers : Cardinality → List (OperationKind × RelationSynthesizer)
  | .single =>
      [(.relationGet, getOperation?), (.relationSet, setOperation?),
        (.relationDelete, clearOperation?)]
  | .multiple =>
      [(.relationGetAll, getAllOperation?), (.relationAdd, addOperation?),
        (.relationAddById, addByIdOperation?), (.relationRemove, removeOperation?),
        (.relationRemoveById, removeByIdOperation?)]

end ResourceConfiguration

/-! ## Synthesis -/

structure Outcome where
  kind : OperationKind
  relation : Option String
  /-- The operation, unless the synthesizer declined. -/
  contributed : Option Operation
  deriving DecidableEq, Repr

namespace ResourceConfiguration

def resourceOutcomes (config : ResourceConfiguration) : List Outcome :=
  resourceSynthesizers.map fun (kind, synthesizer) => ⟨kind, none, synthesizer config⟩

def relationOutcomes (config : ResourceConfiguration) (relation : Relation) : List Outcome :=
  (relationSynthesizers relation.cardinality).map fun (kind, synthesizer) =>
    ⟨kind, some relation.name, synthesizer config relation⟩

def outcomes (config : ResourceConfiguration) : List Outcome :=
  config.resourceOutcomes ++ config.relations.flatMap config.relationOutcomes

def synthesize (config : ResourceConfiguration) : OperationSet where
  controllerName := config.controllerName
  resourceType := config.resourceType
  operations := config.outcomes.filterMap Outcome.contributed
  scaffolding := config.collaborators.scaffolding

end ResourceConfiguration

structure SynthesizedResource where
  configuration : ResourceConfiguration
  operations : OperationSet
  deriving DecidableEq, Repr

/-! ## Tables -/

/-- A line of an operation table: name, route, status and required roles. -/
def Operation.tableRow (operation : Operation) : String :=
  "  " ++ Text.padRight 28 operation.name ++ " " ++ Text.padRight 40 operation.routeLabel ++
    " " ++ Text.padLeft 3 (Text.decimal operation.response.status.code) ++
    operation.security.elim "" (fun requirement => "  " ++ requirement.text) ++ "\n"

def SynthesizedResource.table (resource : SynthesizedResource) : String :=
  let operations := resource.operations
  operations.controllerName ++ " (" ++ operations.resourceType ++ ") → " ++
    resource.configuration.basePath ++ "\n" ++
    Text.concat (operations.operations.map Operation.tableRow)

end ApiSurface
