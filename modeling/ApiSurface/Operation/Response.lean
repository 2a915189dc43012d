import ApiSurface.Operation.Basic
import ApiSurface.Resource.Configuration

/-!
# Responses

How an operation ends.  Where the resource has a wrapper, the result is put into one before it
is returned; otherwise it is returned as it is.
-/

namespace ApiSurface

def declaredType (config : ResourceConfiguration) (shape : ResponseShape) : String :=
  match config.wrapper with
  | some wrapper => wrapper ++ "<" ++ shape.bareType ++ ">"
  | none => shape.bareType

def ResponseShape.status : ResponseShape → Status
  | .empty => .noContent
  | _ => .ok

def contractFor (config : ResourceConfiguration) (shape : ResponseShape) : ResponseContract :=
  ⟨shape, config.isWrapped, declaredType config shape, shape.status⟩

def responseVariable : String :=
  "response"

def respondEmpty (config : ResourceConfiguration) : List Step :=
  if config.isWrapped then [.wrapNoContent responseVariable, .return responseVariable]
  else [.returnEmpty]

def respondWith (config : ResourceConfiguration) (shape : ResponseShape) (source : String) :
    List Step :=
  match shape.contentKind? with
  | none => respondEmpty config
  | some content =>
      if config.isWrapped then
        [.wrapContent source content responseVariable, .return responseVariable]
      else
        [.return source]

def respondThrough (operation : String) (arguments : List String) : List Step :=
  [.delegate operation arguments (some responseVariable), .return responseVariable]

end ApiSurface
