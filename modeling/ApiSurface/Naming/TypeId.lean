import ApiSurface.Text.Pieces

/-!
# Type ids

A type id is a simple name behind an optional namespace; `.` and `::` separate the parts, and
the last separator splits the id.  An id with type arguments counts as unsplit.
-/

namespace ApiSurface.Naming

open ApiSurface.Text

inductive Separator where
  | dot
  | colons
  deriving DecidableEq, Repr

def Separator.chars : Separator → List Char
  | .dot => ['.']
  | .colons => [':', ':']

def Separator.text (separator : Separator) : String :=
  .ofList separator.chars

def leadingSeparator? : List Char → Option (Separator × List Char)
  | '.' :: rest => some (.dot, rest)
  | ':' :: ':' :: rest => some (.colons, rest)
  | _ => none

structure SplitId where
  namespaceChars : List Char
  separator : Separator
  simple : List Char
  deriving DecidableEq, Repr

def splitLast? : List Char → Option SplitId
  | [] => none
  | c :: rest =>
      match splitLast? rest with
      | some split => some { split with namespaceChars := c :: split.namespaceChars }
      | none =>
          match leadingSeparator? (c :: rest) with
          | some (separator, simple) => some ⟨[], separator, simple⟩
          | none => none

def splitId? (id : List Char) : Option SplitId :=
  if id.contains '<' then none else splitLast? id

def simpleNameChars (id : List Char) : List Char :=
  match splitId? id with
  | some split => split.simple
  | none => id

def simpleName (id : String) : String :=
  .ofList (simpleNameChars id.toList)

def namespaceOf? (id : String) : Option (String × Separator) :=
  (splitId? id.toList).map fun split => (.ofList split.namespaceChars, split.separator)

def isQualified (name : String) : Bool :=
  name.toList.contains '.' || containsChars [':', ':'] name.toList

/-- A name in the namespace of a sibling, unless it has a namespace already. -/
def qualify (name sibling : String) : String :=
  if isQualified name then
    name
  else
    match namespaceOf? sibling with
    | some (space, separator) => space ++ separator.text ++ name
    | none => name

def sourcePath (id : String) : String :=
  replace "." "::" id

end ApiSurface.Naming
