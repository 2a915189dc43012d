import ApiSurface.Catalog.DeclaredTypes
import ApiSurface.Text.LetterCase

/-!
# Routes written by hand

A route is a verb and a path.  A table of routes holds each once, sorted, with the verb in upper
case and the path in lower case; an operation on a route of the table is not generated.  Mapping
markers on the methods of a type declare its routes.
-/

namespace ApiSurface

/-! ## Verbs -/

inductive Verb where
  | get
  | post
  | put
  | patch
  | delete
  | head
  | options
  deriving DecidableEq, Repr

def Verb.text : Verb → String
  | .get => "GET"
  | .post => "POST"
  | .put => "PUT"
  | .patch => "PATCH"
  | .delete => "DELETE"
  | .head => "HEAD"
  | .options => "OPTIONS"

def Verb.all : List Verb :=
  [.get, .post, .put, .patch, .delete, .head, .options]

def lastSegment (name : String) : String :=
  .ofList (Text.afterLast '.' name.toList)

def upperAscii (text : String) : String :=
  .ofList (Text.upperAscii text.toList)

def Verb.parse? (raw : String) : Option Verb :=
  let name := upperAscii (Text.trim (lastSegment raw))
  Verb.all.find? fun verb => verb.text == name

/-! ## Tables -/

structure Route where
  verb : String
  path : String
  deriving DecidableEq, Repr

def Route.key (verb path : String) : Route :=
  ⟨upperAscii verb, Text.lowercase path⟩

def Route.precedes (left right : Route) : Bool :=
  left.verb < right.verb || (left.verb == right.verb && left.path < right.path)

structure RouteTable where
  routes : List Route
  deriving DecidableEq, Repr

namespace RouteTable

def empty : RouteTable :=
  ⟨[]⟩

def insertSorted (route : Route) : List Route → List Route
  | [] => [route]
  | other :: rest =>
      if route == other then other :: rest
      else if route.precedes other then route :: other :: rest
      else other :: insertSorted route rest

def insert (table : RouteTable) (verb path : String) : RouteTable :=
  ⟨insertSorted (Route.key verb path) table.routes⟩

def contains (table : RouteTable) (verb path : String) : Bool :=
  table.routes.contains (Route.key verb path)

def containsAny (table : RouteTable) (verbs : List String) (path : String) : Bool :=
  verbs.any fun verb => table.contains verb path

def toJson (table : RouteTable) : Json :=
  .object [("routes", .array (table.routes.map fun route => Json.strings [route.verb, route.path]))]

end RouteTable

/-! ## Mapping markers -/

inductive Mapping where
  | fixed (verb : Verb)
  | listed
  deriving DecidableEq, Repr

def Mapping.ofMarkerName? : String → Option Mapping
  | "GetMapping" => some (.fixed .get)
  | "PostMapping" => some (.fixed .post)
  | "PutMapping" => some (.fixed .put)
  | "PatchMapping" => some (.fixed .patch)
  | "DeleteMapping" => some (.fixed .delete)
  | "RequestMapping" => some .listed
  | _ => none

/-- The path of a mapping; one of a single byte declares no route. -/
def mappedPath? (values : MarkerValues) : Option String :=
  (values.firstOf? ["value", "path"]).filter fun path => path.utf8ByteSize > 1

def readVerb (values : MarkerValues) (raw : String) : Except ConfigurationError Verb :=
  match Verb.parse? raw with
  | some verb => .ok verb
  | none => .error (values.invalid "method" raw)

/-- The verbs that a mapping marker is for; a list of none means reading. -/
def Mapping.verbs (mapping : Mapping) (values : MarkerValues) :
    Except ConfigurationError (List Verb) :=
  match mapping with
  | .fixed verb => .ok [verb]
  | .listed =>
      match values.list "method" with
      | [] => .ok [.get]
      | names => names.mapM (readVerb values)

def Marker.routes (marker : Marker) (location : String) :
    Except ConfigurationError (List (Verb × String)) :=
  match Mapping.ofMarkerName? marker.name with
  | none => .ok []
  | some mapping =>
      let values := marker.valuesAt location
      match mappedPath? values with
      | none => .ok []
      | some path => return (← mapping.verbs values).map fun verb => (verb, path)

def DeclaredTypes.handRoutes (declared : DeclaredTypes) (type : TypeDecl) :
    Except ConfigurationError (List (Verb × String)) := do
  let perMethod ← (declared.methods type.id).mapM fun method => do
    let member := Member.method type method
    let perMarker ← member.markers.mapM fun marker => marker.routes member.location
    return perMarker.flatten
  return perMethod.flatten

def RouteTable.ofRoutes (routes : List (Verb × String)) : RouteTable :=
  routes.foldl (fun table (verb, path) => table.insert verb.text path) .empty

def RouteTable.scrape (declared : DeclaredTypes) (type : TypeDecl) :
    Except ConfigurationError RouteTable :=
  return .ofRoutes (← declared.handRoutes type)

end ApiSurface
