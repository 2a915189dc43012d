import ApiSurface.Catalog.Marker

/-!
# Declared types

Types with their fields and methods, in declaration order, each with the markers on it.
-/

namespace ApiSurface

structure FieldDecl where
  name : String
  type : String
  markers : List Marker
  deriving Repr, BEq

structure MethodDecl where
  name : String
  returns : Option String
  markers : List Marker
  deriving Repr, BEq

structure TypeDecl where
  id : String
  markers : List Marker
  fields : List FieldDecl
  methods : List MethodDecl
  deriving Repr, BEq

def TypeDecl.bare (id : String) : TypeDecl :=
  ⟨id, [], [], []⟩

def TypeDecl.field? (type : TypeDecl) (name : String) : Option FieldDecl :=
  type.fields.find? fun field => field.name == name

/-! ## Members -/

/-- Something that carries markers. -/
inductive Member where
  | type (owner : TypeDecl)
  | field (owner : TypeDecl) (field : FieldDecl)
  | method (owner : TypeDecl) (method : MethodDecl)

def Member.markers : Member → List Marker
  | .type owner => owner.markers
  | .field _ decl => decl.markers
  | .method _ decl => decl.markers

/-- Where a member is declared: `type`, `type#field` or `type#method()`. -/
def Member.location : Member → String
  | .type owner => owner.id
  | .field owner decl => owner.id ++ "#" ++ decl.name
  | .method owner decl => owner.id ++ "#" ++ decl.name ++ "()"

def TypeDecl.members (type : TypeDecl) : List Member :=
  .type type :: type.fields.map (Member.field type) ++ type.methods.map (Member.method type)

end ApiSurface
