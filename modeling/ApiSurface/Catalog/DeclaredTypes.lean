import ApiSurface.Catalog.Declaration
import ApiSurface.Naming.TypeId

/-!
# Looking types up

The declared types of a catalog.  Of two declarations with one id the first is meant; a simple
name stands for a type if it is the name of exactly one declaration.
-/

namespace ApiSurface

open Naming

structure DeclaredTypes where
  types : List TypeDecl
  deriving Repr

namespace DeclaredTypes

def named? (declared : DeclaredTypes) (id : String) : Option TypeDecl :=
  declared.types.find? fun type => type.id == id

def fields (declared : DeclaredTypes) (id : String) : List FieldDecl :=
  (declared.named? id).elim [] TypeDecl.fields

def methods (declared : DeclaredTypes) (id : String) : List MethodDecl :=
  (declared.named? id).elim [] TypeDecl.methods

def withSimpleName (declared : DeclaredTypes) (name : String) : List TypeDecl :=
  declared.types.filter fun type => simpleName type.id == name

/-- The type that a reference means: by its id, or by a simple name that is unique. -/
def resolve? (declared : DeclaredTypes) (reference : String) : Option TypeDecl :=
  match declared.named? reference with
  | some type => some type
  | none =>
      if isQualified reference then none
      else
        match declared.withSimpleName reference with
        | [only] => some only
        | _ => none

/-- The type id that a marker's reference to a data transfer object means.  A name that is not
declared stands for an external type; a name of several declared types is refused. -/
def shape (declared : DeclaredTypes) (resource reference : String) :
    Except ConfigurationError String :=
  if isQualified reference || (declared.named? reference).isSome then
    .ok reference
  else
    match declared.withSimpleName reference with
    | [] => .ok reference
    | [only] => .ok only.id
    | many => .error (.ambiguousDto resource reference (many.map TypeDecl.id))

end DeclaredTypes

end ApiSurface
