import ApiSurface.Naming.TypeId
import ApiSurface.Text.Blank
import ApiSurface.Text.Word

/-!
# Type expressions

The type of a field says how many values a relation has and of which type they are: `T[]` and
`List<T>` have many, `Option<T>` is looked through, every other expression is one value of
itself.  Parsing looks into the first type argument, which is shorter than the expression, see
`length_firstArgument_lt`.
-/

namespace ApiSurface

open Naming Text

inductive Cardinality where
  | single
  | multiple
  deriving DecidableEq, Repr

def Cardinality.text : Cardinality → String
  | .single => "SINGLE"
  | .multiple => "MULTIPLE"

namespace TypeExpression

/-! ## Type arguments -/

def depthAfter (depth : Nat) (c : Char) : Nat :=
  if c == '<' then depth + 1 else if c == '>' then depth - 1 else depth

def outerPieces : Nat → List Char → List (List Char)
  | _, [] => [[]]
  | depth, c :: rest =>
      if c == ',' && depth == 0 then
        [] :: outerPieces depth rest
      else
        match outerPieces (depthAfter depth c) rest with
        | [] => [[c]]
        | piece :: pieces => (c :: piece) :: pieces

def typeArguments (cs : List Char) : List (List Char) :=
  (outerPieces 0 cs).map trimChars

def firstArgument (cs : List Char) : List Char :=
  (typeArguments cs).headD []

/-! ## Generic types -/

structure Generic where
  name : List Char
  inner : List Char
  deriving DecidableEq, Repr

def isNameChar (c : Char) : Bool :=
  isWord c || c == ':' || c == '.'

def startsName (cs : List Char) : Bool :=
  match cs with
  | [] => false
  | c :: _ => c.isAlpha || c == '_'

/-- Whether text between brackets may be type arguments: something other than line breaks, with
no line break in it. -/
def holdsArguments (inner : List Char) : Bool :=
  let core := trimChars inner
  if core.isEmpty then inner.any (· != '\n') else !core.contains '\n'

/-- An ASCII letter or underscore starts the name; the last bracket ends the expression. -/
def generic? (expression : List Char) : Option Generic :=
  if startsName expression then
    match (expression.dropWhile isNameChar).dropWhile isBlank with
    | '<' :: rest =>
        if rest.getLast? == some '>' && holdsArguments rest.dropLast then
          some ⟨expression.takeWhile isNameChar, rest.dropLast⟩
        else
          none
    | _ => none
  else
    none

/-! ## Sizes -/

theorem length_head_outerPieces_le (depth : Nat) (cs : List Char) :
    ((outerPieces depth cs).headD []).length ≤ cs.length := by
  induction cs generalizing depth with
  | nil => simp [outerPieces]
  | cons c rest ih =>
      rw [outerPieces]
      split
      · simp
      · have tail := ih (depthAfter depth c)
        split
        · simp
        · next h => simpa [h] using tail

theorem length_firstArgument_le (cs : List Char) : (firstArgument cs).length ≤ cs.length := by
  have head := length_head_outerPieces_le 0 cs
  unfold firstArgument typeArguments
  cases h : outerPieces 0 cs with
  | nil => simp
  | cons piece pieces =>
      rw [h] at head
      exact Nat.le_trans (length_trimChars_le piece) head

theorem length_inner_lt {expression : List Char} {generic : Generic}
    (h : generic? expression = some generic) : generic.inner.length < expression.length := by
  unfold generic? at h
  split at h
  · split at h
    · next rest heq =>
        split at h
        · cases h
          have shorter : ('<' :: rest).length ≤ expression.length := by
            rw [← heq]
            exact ((List.dropWhile_suffix _).trans (List.dropWhile_suffix _)).length_le
          have : rest.dropLast.length ≤ rest.length := by simp
          simp only [List.length_cons] at shorter
          exact Nat.lt_of_le_of_lt this (Nat.lt_of_succ_le shorter)
        · cases h
    · cases h
  · cases h

theorem length_firstArgument_lt {expression : List Char} {generic : Generic}
    (h : generic? expression = some generic) :
    (firstArgument generic.inner).length < expression.length :=
  Nat.lt_of_le_of_lt (length_firstArgument_le _) (length_inner_lt h)

/-! ## Shapes -/

def collectionTypes : List String :=
  ["List", "Set", "Collection", "Iterable", "Vec", "HashSet", "BTreeSet", "VecDeque",
    "LinkedList", "SortedSet"]

def optionalTypes : List String :=
  ["Option", "Optional"]

def isNamed (names : List String) (name : List Char) : Bool :=
  names.any fun known => known.toList == name

def shapeChars (cs : List Char) : Cardinality × List Char :=
  let expression := trimChars cs
  if endsWith ['[', ']'] expression then
    (.multiple, trimChars (dropEnd 2 expression))
  else
    match _found : generic? expression with
    | none => (.single, expression)
    | some generic =>
        let outer := simpleNameChars generic.name
        if isNamed collectionTypes outer then
          (.multiple, (shapeChars (firstArgument generic.inner)).2)
        else if isNamed optionalTypes outer then
          shapeChars (firstArgument generic.inner)
        else
          (.single, expression)
termination_by cs.length
decreasing_by
  all_goals exact Nat.lt_of_lt_of_le (length_firstArgument_lt _found) (length_trimChars_le cs)

end TypeExpression

structure TypeShape where
  cardinality : Cardinality
  element : String
  deriving DecidableEq, Repr

def TypeShape.ofExpression (expression : String) : TypeShape :=
  let (cardinality, element) := TypeExpression.shapeChars expression.toList
  ⟨cardinality, .ofList element⟩

end ApiSurface
