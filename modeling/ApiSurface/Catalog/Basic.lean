import ApiSurface.Catalog.Declaration
import ApiSurface.Document.JsonReader
import ApiSurface.Document.YamlReader
import ApiSurface.Naming.Casing
import ApiSurface.Settings.Documents

/-!
# Catalogs

A catalog has a title, settings of its own and the declared types.  It is read from JSON or
YAML and written as JSON.
-/

namespace ApiSurface

open Document

structure Catalog where
  title : String
  settings : Option SettingsPatch
  types : List TypeDecl
  deriving Repr

/-! ## Reading -/

namespace FieldDecl

def recordType : RecordType :=
  ⟨"struct FieldDecl", ["name", "type", "markers"], false⟩

structure Fields where
  name : Option String
  type : Option String
  markers : List Marker

def readField : FieldReader Fields := fun fields field datum => do
  match field with
  | "name" => return { fields with name := some (← datum.text) }
  | "type" => return { fields with type := some (← datum.text) }
  | _ => return { fields with markers := ← datum.listOf Marker.ofDatum }

def ofDatum (datum : Datum) : Decoded FieldDecl := do
  let (form, fields) ← datum.readRecord recordType readField ⟨none, none, []⟩
  let name ← required recordType form "name" fields.name
  let type ← required recordType form "type" fields.type
  return ⟨name, type, fields.markers⟩

end FieldDecl

namespace MethodDecl

def recordType : RecordType :=
  ⟨"struct MethodDecl", ["name", "returns", "markers"], false⟩

structure Fields where
  name : Option String
  returns : Option String
  markers : List Marker

def readField : FieldReader Fields := fun fields field datum => do
  match field with
  | "name" => return { fields with name := some (← datum.text) }
  | "returns" => return { fields with returns := ← datum.optional Datum.text }
  | _ => return { fields with markers := ← datum.listOf Marker.ofDatum }

def ofDatum (datum : Datum) : Decoded MethodDecl := do
  let (form, fields) ← datum.readRecord recordType readField ⟨none, none, []⟩
  let name ← required recordType form "name" fields.name
  return ⟨name, fields.returns, fields.markers⟩

end MethodDecl

namespace TypeDecl

def recordType : RecordType :=
  ⟨"struct TypeDecl", ["id", "markers", "fields", "methods"], false⟩

structure Fields where
  id : Option String
  markers : List Marker
  fields : List FieldDecl
  methods : List MethodDecl

def readField : FieldReader Fields := fun fields field datum => do
  match field with
  | "id" => return { fields with id := some (← datum.text) }
  | "markers" => return { fields with markers := ← datum.listOf Marker.ofDatum }
  | "fields" => return { fields with fields := ← datum.listOf FieldDecl.ofDatum }
  | _ => return { fields with methods := ← datum.listOf MethodDecl.ofDatum }

def ofDatum (datum : Datum) : Decoded TypeDecl := do
  let (form, fields) ← datum.readRecord recordType readField ⟨none, [], [], []⟩
  let id ← required recordType form "id" fields.id
  return ⟨id, fields.markers, fields.fields, fields.methods⟩

end TypeDecl

namespace Catalog

def empty : Catalog :=
  ⟨"", none, []⟩

def recordType : RecordType :=
  ⟨"struct Catalog", ["title", "settings", "types"], false⟩

def readField : FieldReader Catalog := fun catalog field datum => do
  match field with
  | "title" => return { catalog with title := ← datum.text }
  | "settings" => return { catalog with settings := ← datum.optional SettingsPatch.ofDatum }
  | _ => return { catalog with types := ← datum.listOf TypeDecl.ofDatum }

def ofDatum (datum : Datum) : Decoded Catalog := do
  let (_, catalog) ← datum.readRecord recordType readField empty
  return catalog

end Catalog

/-! ## Writing -/

def FieldDecl.toJson (field : FieldDecl) : Json :=
  .object [("name", .string field.name), ("type", .string field.type),
    ("markers", .array (field.markers.map Marker.toJson))]

def MethodDecl.toJson (method : MethodDecl) : Json :=
  .object (("name", .string method.name) ::
    Json.present "returns" (method.returns.map .string) ++
    [("markers", .array (method.markers.map Marker.toJson))])

def TypeDecl.toJson (type : TypeDecl) : Json :=
  .object [("id", .string type.id), ("markers", .array (type.markers.map Marker.toJson)),
    ("fields", .array (type.fields.map FieldDecl.toJson)),
    ("methods", .array (type.methods.map MethodDecl.toJson))]

def Catalog.toJson (catalog : Catalog) : Json :=
  .object (("title", .string catalog.title) ::
    Json.present "settings" (catalog.settings.map SettingsPatch.toJson) ++
    [("types", .array (catalog.types.map TypeDecl.toJson))])

/-! ## Text -/

def Catalog.parse (yaml : Bool) (text : String) : Decoded Catalog :=
  if yaml then decodeParsed Catalog.ofDatum (YamlText.parse? text)
  else JsonText.decode Catalog.ofDatum text

/-- The catalog with the slug of its title; a blank title is replaced by a name. -/
def Catalog.withTitle (catalog : Catalog) (name : String) : Catalog :=
  let title := if (Text.trim catalog.title).isEmpty then name else catalog.title
  { catalog with title := Naming.slug title }

end ApiSurface
