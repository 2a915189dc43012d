import ApiSurface.Catalog.DeclaredTypes
import ApiSurface.Naming.Casing

/-!
# Identifiers

How the instances of a type are identified: the type and name of its identifier and the method
that reads it.
-/

namespace ApiSurface

structure Identifier where
  type : String
  name : String
  accessor : String
  deriving DecidableEq, Repr

namespace Identifier

def default : Identifier :=
  ⟨"i32", "id", "getId"⟩

def ofField (field : FieldDecl) : Identifier :=
  if Text.equalsIgnoringCase field.name default.name then
    { default with type := field.type }
  else
    ⟨field.type, field.name, "get" ++ Naming.capitalize field.name⟩

def markedField? (declared : DeclaredTypes) (type : TypeDecl) : Option FieldDecl :=
  (declared.fields type.id).find? fun field => Marker.isPresent "Id" field.markers

def isAccessorOf (type : TypeDecl) (name : String) (method : MethodDecl) : Bool :=
  let member := Member.method type method
  match Marker.find? "IdAccessor" member.markers with
  | none => false
  | some marker =>
      ((marker.valuesAt member.location).text? "name").getD default.name == name

/-- The identifier that the markers of a type declare, if they declare one: a marked field, a
marked accessor of the name that the field gives, or both. -/
def resolve? (declared : DeclaredTypes) (type : TypeDecl) : Option Identifier :=
  let field? := markedField? declared type
  let identifier := field?.elim default ofField
  match (declared.methods type.id).find? (isAccessorOf type identifier.name) with
  | some method => some { identifier with accessor := method.name }
  | none => field?.map fun _ => identifier

def toJson (identifier : Identifier) : Json :=
  .object [("type_id", .string identifier.type), ("name", .string identifier.name),
    ("accessor", .string identifier.accessor)]

end Identifier

end ApiSurface
