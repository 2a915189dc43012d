import ApiSurface.Document.Reading
import ApiSurface.Resource.Accessors

/-!
# Relations in documents

Readers for the parts of a relation that documents spell out.
-/

namespace ApiSurface

open Document

def Cardinality.ofDatum : Datum → Decoded Cardinality :=
  Datum.variant ([.single, .multiple].map fun cardinality =>
    (Cardinality.text cardinality, cardinality))

namespace Accessors

def recordType : RecordType :=
  ⟨"struct Accessors", AccessorKind.all.map AccessorKind.key, false⟩

structure Fields where
  get : Option String
  set : Option String
  add : Option String
  remove : Option String

def readField : FieldReader Fields := fun fields field datum => do
  let name ← datum.text
  match field with
  | "get" => return { fields with get := some name }
  | "set" => return { fields with set := some name }
  | "add" => return { fields with add := some name }
  | _ => return { fields with remove := some name }

def ofDatum (datum : Datum) : Decoded Accessors := do
  let (form, fields) ← datum.readRecord recordType readField ⟨none, none, none, none⟩
  let get ← required recordType form "get" fields.get
  let set ← required recordType form "set" fields.set
  let add ← required recordType form "add" fields.add
  let remove ← required recordType form "remove" fields.remove
  return ⟨get, set, add, remove⟩

end Accessors

end ApiSurface
