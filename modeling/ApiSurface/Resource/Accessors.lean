import ApiSurface.Naming.Casing
import ApiSurface.Naming.Inflection
import ApiSurface.Resource.RouteTable
import ApiSurface.Resource.TypeExpression

/-!
# Relation accessors

The methods of an entity by which a relation is read and changed, one for each slot.  By
convention they are named after the relation, in the singular where one value is added or
removed.
-/

namespace ApiSurface

inductive AccessorKind where
  | get
  | set
  | add
  | remove
  deriving DecidableEq, Repr

namespace AccessorKind

def all : List AccessorKind :=
  [.get, .set, .add, .remove]

def key : AccessorKind → String
  | .get => "get"
  | .set => "set"
  | .add => "add"
  | .remove => "remove"

/-- Reads `ADD`, `add` or `AccessorType.ADD`. -/
def parse? (raw : String) : Option AccessorKind :=
  let name := Text.trim (lastSegment raw)
  all.find? fun kind => Text.equalsIgnoringCase kind.key name

end AccessorKind

structure Accessors where
  get : String
  set : String
  add : String
  remove : String
  deriving DecidableEq, Repr

namespace Accessors

def slot (accessors : Accessors) : AccessorKind → String
  | .get => accessors.get
  | .set => accessors.set
  | .add => accessors.add
  | .remove => accessors.remove

def ofSlots (name : AccessorKind → String) : Accessors :=
  ⟨name .get, name .set, name .add, name .remove⟩

theorem slot_ofSlots (name : AccessorKind → String) (kind : AccessorKind) :
    (ofSlots name).slot kind = name kind := by
  cases kind <;> rfl

def conventionalName (relation : String) : AccessorKind → String
  | .get => "get" ++ Naming.capitalize relation
  | .set => "set" ++ Naming.capitalize relation
  | .add => "add" ++ Naming.capitalize (Naming.singular relation)
  | .remove => "remove" ++ Naming.capitalize (Naming.singular relation)

def conventional (relation : String) : Accessors :=
  ofSlots (conventionalName relation)

def requiredKinds : Cardinality → List AccessorKind
  | .single => [.get, .set]
  | .multiple => [.get, .add, .remove]

def requiredFor (accessors : Accessors) (cardinality : Cardinality) : List String :=
  (requiredKinds cardinality).map accessors.slot

def toJson (accessors : Accessors) : Json :=
  .object (AccessorKind.all.map fun kind => (kind.key, .string (accessors.slot kind)))

end Accessors

end ApiSurface
