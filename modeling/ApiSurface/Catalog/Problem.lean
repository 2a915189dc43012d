import ApiSurface.Text.Pieces

/-!
# Configuration problems

Why a declared resource cannot be configured.  Such a problem concerns its own resource only.
-/

namespace ApiSurface

inductive ConfigurationError where
  | missingEntity (resource : String)
  | unknownType (resource typeId : String)
  | ambiguousDto (resource name : String) (candidates : List String)
  | duplicateRelation (resource relation : String)
  | invalidMarkerValue (location key value : String)
  deriving DecidableEq, Repr

def apostrophed (name : String) : String :=
  "'" ++ name ++ "'"

def ConfigurationError.message : ConfigurationError → String
  | .missingEntity resource =>
      "Resource configuration error in " ++ apostrophed resource ++
        ": the resource marker does not name an entity"
  | .unknownType resource typeId =>
      "Resource configuration error in " ++ apostrophed resource ++ ": entity type " ++
        apostrophed typeId ++ " is not declared"
  | .ambiguousDto resource name candidates =>
      "Resource configuration error in " ++ apostrophed resource ++ ": DTO " ++
        apostrophed name ++ " is ambiguous, candidates: " ++ Text.join ", " candidates
  | .duplicateRelation resource relation =>
      "Resource configuration error in " ++ apostrophed resource ++ ": relation " ++
        apostrophed relation ++ " is declared more than once"
  | .invalidMarkerValue location key value =>
      "Resource configuration error at " ++ apostrophed location ++ ": invalid value " ++
        apostrophed value ++ " for " ++ apostrophed key

end ApiSurface
