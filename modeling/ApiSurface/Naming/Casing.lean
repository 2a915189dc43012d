import ApiSurface.Text.LetterCase
import ApiSurface.Text.Pieces

/-!
# Spelling styles

One name in the styles that generated code needs: capitalised, snake case, Pascal case, and the
slug of a free-form title.
-/

namespace ApiSurface.Naming

open ApiSurface.Text

/-! ## First letters -/

def capitalizeChars : List Char → List Char
  | [] => []
  | first :: rest => upperChar first ++ rest

def decapitalizeChars : List Char → List Char
  | [] => []
  | first :: rest => lowerChar first ++ rest

def capitalize (name : String) : String :=
  .ofList (capitalizeChars name.toList)

def decapitalize (name : String) : String :=
  .ofList (decapitalizeChars name.toList)

/-! ## Snake case -/

def isSnakeBreak (c : Char) : Bool :=
  c == '-' || c == ' ' || c == '_'

/-- What stands before the next character of a name in snake case. -/
structure SnakeContext where
  atStart : Bool
  afterBreak : Bool
  afterLower : Bool
  deriving DecidableEq, Repr

/-- Breaks become one underscore, and so does the step from a lower-case letter or digit to a
capital; there is none at the start and no two in a row. -/
def snakeFrom : SnakeContext → List Char → List Char
  | _, [] => []
  | context, c :: rest =>
      if isSnakeBreak c then
        if context.atStart || context.afterBreak then
          snakeFrom { context with afterLower := false } rest
        else
          '_' :: snakeFrom ⟨false, true, false⟩ rest
      else if isUppercase c then
        let lowered := lowerChar c
        let tail := snakeFrom ⟨false, false, false⟩ rest
        if context.afterLower && !context.afterBreak then '_' :: lowered ++ tail
        else lowered ++ tail
      else
        c :: snakeFrom ⟨false, false, isLowercase c || c.isDigit⟩ rest

def snakeChars (cs : List Char) : List Char :=
  snakeFrom ⟨true, false, false⟩ cs

def snakeCase (name : String) : String :=
  .ofList (snakeChars name.toList)

/-! ## Pascal case and slugs -/

def pascalChars (cs : List Char) : List Char :=
  (splitAt (fun c => c == '_' || c == '-') cs).flatMap capitalizeChars

def pascalCase (name : String) : String :=
  .ofList (pascalChars name.toList)

def slugChars (cs : List Char) : List Char :=
  let spelled := (lowercaseChars cs).map fun c => if c.isAlphanum then c else '_'
  ((spelled.dropWhile (· == '_')).reverse.dropWhile (· == '_')).reverse

/-- Lower-case ASCII letters and digits; every other character becomes an underscore, with none
at the ends. -/
def slug (title : String) : String :=
  .ofList (slugChars title.toList)

end ApiSurface.Naming
