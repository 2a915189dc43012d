/-!
# Cutting and joining text

Character lists are cut at a separator, searched for a piece, and joined again.
-/

namespace ApiSurface.Text

/-! ## Cutting -/

def splitAt (separator : Char → Bool) : List Char → List (List Char)
  | [] => [[]]
  | c :: rest =>
      if separator c then
        [] :: splitAt separator rest
      else
        match splitAt separator rest with
        | [] => [[c]]
        | piece :: pieces => (c :: piece) :: pieces

theorem splitAt_eq_splitOnP (separator : Char → Bool) (cs : List Char) :
    splitAt separator cs = cs.splitOnP separator := by
  induction cs with
  | nil => rw [splitAt, List.splitOnP_nil]
  | cons c rest ih =>
      rw [splitAt, List.splitOnP_cons_eq_if_modifyHead, ih]
      split
      · rfl
      · cases hpieces : rest.splitOnP separator with
        | nil => exact absurd hpieces (List.splitOnP_ne_nil separator rest)
        | cons piece pieces => rfl

def split (separator : Char) (text : String) : List String :=
  (splitAt (· == separator) text.toList).map String.ofList

def afterLast (separator : Char) (cs : List Char) : List Char :=
  (cs.reverse.takeWhile (· != separator)).reverse

def dropEnd (count : Nat) (cs : List Char) : List Char :=
  cs.take (cs.length - count)

def withoutCarriageReturn (line : List Char) : List Char :=
  if line.getLast? == some '\r' then line.dropLast else line

/-- The lines of a text.  A line break at the very end starts no further line, and a carriage
return before a line break belongs to the break. -/
def lines (cs : List Char) : List (List Char) :=
  let pieces := splitAt (· == '\n') cs
  let ended := pieces.dropLast.map withoutCarriageReturn
  match pieces.getLast? with
  | none => ended
  | some last => if last.isEmpty then ended else ended ++ [last]

/-! ## Searching -/

def containsChars (piece : List Char) : List Char → Bool
  | [] => piece.isEmpty
  | c :: rest => piece.isPrefixOf (c :: rest) || containsChars piece rest

def endsWith (ending text : List Char) : Bool :=
  ending.isSuffixOf text

/-- Replaces the occurrences of a piece from left to right; `skip` characters that belong to
the last occurrence are still to be passed over. -/
def replaceFrom (piece value : List Char) : Nat → List Char → List Char
  | _, [] => []
  | skip + 1, _ :: rest => replaceFrom piece value skip rest
  | 0, c :: rest =>
      if piece.isPrefixOf (c :: rest) then
        value ++ replaceFrom piece value (piece.length - 1) rest
      else
        c :: replaceFrom piece value 0 rest

def replaceChars (piece value cs : List Char) : List Char :=
  replaceFrom piece value 0 cs

def replace (piece value text : String) : String :=
  .ofList (replaceChars piece.toList value.toList text.toList)

/-! ## Joining -/

def join (separator : String) : List String → String
  | [] => ""
  | [piece] => piece
  | piece :: pieces => piece ++ separator ++ join separator pieces

def concat (pieces : List String) : String :=
  join "" pieces

def repeatText (count : Nat) (text : String) : String :=
  .ofList (List.replicate count text.toList).flatten

/-- Text padded with spaces at its right to a width counted in characters. -/
def padRight (width : Nat) (text : String) : String :=
  text ++ .ofList (List.replicate (width - text.length) ' ')

def padLeft (width : Nat) (text : String) : String :=
  .ofList (List.replicate (width - text.length) ' ') ++ text

/-! ## Sizes -/

def byteLength : List Char → Nat
  | [] => 0
  | c :: rest => c.utf8Size + byteLength rest

def equalsIgnoringCase (left right : String) : Bool :=
  left.toList.map Char.toLower == right.toList.map Char.toLower

def lowerAscii (cs : List Char) : List Char :=
  cs.map Char.toLower

def upperAscii (cs : List Char) : List Char :=
  cs.map Char.toUpper

end ApiSurface.Text
