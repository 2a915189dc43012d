import ApiSurface.Catalog.Problem
import ApiSurface.Document.Reading
import ApiSurface.Text.Blank

/-!
# Markers

A marker is a named annotation with values of any depth.  What reads it sees the values flat:
one text for each path of keys that ends in neither a null nor an object, the keys of a path
joined by slashes.
-/

namespace ApiSurface

structure Marker where
  name : String
  values : List (String × Json)
  deriving Repr, BEq

namespace Marker

def find? (name : String) (markers : List Marker) : Option Marker :=
  markers.find? fun marker => marker.name == name

def isPresent (name : String) (markers : List Marker) : Bool :=
  (find? name markers).isSome

def withValue (marker : Marker) (key : String) (value : Json) : Marker :=
  { marker with values := Json.insertMember key value marker.values }

end Marker

/-! ## Flat values -/

mutual

/-- The text of a value; the items of a list are joined by commas. -/
def Json.primitiveText : Json → String
  | .null => ""
  | .string value => value
  | .array items => Text.join "," (Json.primitiveTexts items)
  | value => value.text

def Json.primitiveTexts : List Json → List String
  | [] => []
  | item :: items => item.primitiveText :: Json.primitiveTexts items

end

def nestedKey : Option String → String → String
  | some path, key => path ++ "/" ++ key
  | none, key => key

mutual

def Json.flatEntries (path : String) : Json → List (String × String)
  | .null => []
  | .object members => Json.flatMembers (some path) members
  | value => [(path, value.primitiveText)]

def Json.flatMembers (path : Option String) : List (String × Json) → List (String × String)
  | [] => []
  | (key, value) :: members =>
      value.flatEntries (nestedKey path key) ++ Json.flatMembers path members

end

/-- The flat values of a marker and the member that carries it. -/
structure MarkerValues where
  location : String
  entries : List (String × String)
  deriving DecidableEq, Repr

def Marker.valuesAt (marker : Marker) (location : String) : MarkerValues :=
  ⟨location, Json.flatMembers none marker.values⟩

namespace MarkerValues

/-- The raw text at a key; of entries with one key the later one counts. -/
def raw? (values : MarkerValues) (key : String) : Option String :=
  values.entries.reverse.lookup key

/-- The trimmed text at a key, unless it is blank. -/
def text? (values : MarkerValues) (key : String) : Option String :=
  match values.raw? key with
  | none => none
  | some raw =>
      let trimmed := Text.trim raw
      if trimmed.isEmpty then none else some trimmed

def firstOf? (values : MarkerValues) (keys : List String) : Option String :=
  keys.findSome? values.text?

def invalid (values : MarkerValues) (key value : String) : ConfigurationError :=
  .invalidMarkerValue values.location key value

def readFlag? (raw : String) : Option Bool :=
  match String.ofList (Text.lowerAscii raw.toList) with
  | "true" | "yes" | "1" => some true
  | "false" | "no" | "0" => some false
  | _ => none

def flag (values : MarkerValues) (key : String) (unset : Bool) :
    Except ConfigurationError Bool :=
  match values.text? key with
  | none => .ok unset
  | some raw =>
      match readFlag? raw with
      | some value => .ok value
      | none => .error (values.invalid key raw)

def list (values : MarkerValues) (key : String) : List String :=
  match values.text? key with
  | none => []
  | some raw => ((Text.split ',' raw).map Text.trim).filter fun part => !part.isEmpty

def isEmpty (values : MarkerValues) : Bool :=
  values.entries.isEmpty

def insertEntry (entry : String × String) : List (String × String) → List (String × String)
  | [] => [entry]
  | other :: rest =>
      if entry.1 == other.1 then entry :: rest
      else if entry.1 < other.1 then entry :: other :: rest
      else other :: insertEntry entry rest

def sorted (values : MarkerValues) : List (String × String) :=
  values.entries.foldl (fun entries entry => insertEntry entry entries) []

end MarkerValues

/-! ## Documents -/

namespace Marker

open Document

def recordType : RecordType :=
  ⟨"struct Marker", ["name", "values"], false⟩

structure Fields where
  name : Option String
  values : List (String × Json)

def readField : FieldReader Fields := fun fields field datum => do
  match field with
  | "name" => return { fields with name := some (← datum.text) }
  | _ => return { fields with values := ← datum.members }

def ofDatum (datum : Datum) : Decoded Marker := do
  let (form, fields) ← datum.readRecord recordType readField ⟨none, []⟩
  let name ← required recordType form "name" fields.name
  return ⟨name, fields.values⟩

def toJson (marker : Marker) : Json :=
  .object [("name", .string marker.name), ("values", .object marker.values)]

end Marker

end ApiSurface
