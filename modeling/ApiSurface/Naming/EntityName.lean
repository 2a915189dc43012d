import ApiSurface.Naming.Casing
import ApiSurface.Naming.Inflection
import ApiSurface.Naming.TypeId
import ApiSurface.Text.Blank

/-!
# Entity names

The name of an entity without the suffix that marks its layer, and the base path under which
its resource is mounted by default.
-/

namespace ApiSurface.Naming

open ApiSurface.Text

/-- Suffixes of entity names, in the order in which they are tried. -/
def defaultEntitySuffixes : List String :=
  ["Model", "Entity", "BO", "Dao"]

def defaultDtoSuffix : String :=
  "Dto"

def hasSuffix (name suffix : String) : Bool :=
  !suffix.isEmpty && name.toList.length > suffix.toList.length &&
    endsWith suffix.toList name.toList

/-- The name without the first listed suffix that it has; a second one stays. -/
def normalizeEntityName (name : String) (suffixes : List String) : String :=
  match suffixes.find? (hasSuffix name) with
  | some suffix => .ofList (dropEnd suffix.toList.length name.toList)
  | none => name

def defaultBasePath (resourceType : String) (suffixes : List String) : String :=
  let name := normalizeEntityName (simpleName resourceType) suffixes
  "/" ++ replace "_" "-" (plural (snakeCase name))

def basePathChars (path : List Char) : List Char :=
  let trimmed := ((trimChars path).reverse.dropWhile (· == '/')).reverse
  if trimmed.head? == some '/' then trimmed else '/' :: trimmed

/-- A path with a leading slash and no trailing one. -/
def normalizeBasePath (path : String) : String :=
  .ofList (basePathChars path.toList)

end ApiSurface.Naming
