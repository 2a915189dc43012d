import ApiSurface.Text.Pieces

/-!
# Places in YAML text

Characters by their role, and a place in a text, which knows its line and column.  A line ends
at a carriage return, a line feed, both together, or one of three further separators.
-/

namespace ApiSurface.Document.YamlText

/-! ## Characters -/

def isBlank (c : Char) : Bool :=
  c == ' ' || c == '\t'

def isBreak (c : Char) : Bool :=
  c == '\n' || c == '\r' || c == '\x85' || c == '\u2028' || c == '\u2029'

def isGap (c : Char) : Bool :=
  isBlank c || isBreak c

def startsGap : List Char → Bool
  | [] => true
  | c :: _ => isGap c

def isFlowIndicator (c : Char) : Bool :=
  c == ',' || c == '[' || c == ']' || c == '\x7b' || c == '\x7d'

def isIndicator (c : Char) : Bool :=
  isFlowIndicator c || c == '#' || c == '&' || c == '*' || c == '!' || c == '|' || c == '>' ||
    c == '\x27' || c == '\x22' || c == '%' || c == '@' || c == '\x60'

def isAllowed (c : Char) : Bool :=
  let code := c.toNat
  code == 0x9 || code == 0xA || code == 0xD || (0x20 ≤ code && code ≤ 0x7E) || code == 0x85 ||
    (0xA0 ≤ code && code ≤ 0xFFFD) || 0x10000 ≤ code

/-! ## Places -/

structure Cursor where
  index : Nat
  line : Nat
  column : Nat
  rest : List Char
  deriving DecidableEq, Repr

namespace Cursor

def head? (cursor : Cursor) : Option Char :=
  cursor.rest.head?

def advance (cursor : Cursor) (count : Nat) : Cursor :=
  ⟨cursor.index + count, cursor.line, cursor.column + count, cursor.rest.drop count⟩

def passWhile (cursor : Cursor) (belongs : Char → Bool) : Cursor :=
  cursor.advance (cursor.rest.takeWhile belongs).length

def nextLine (cursor : Cursor) : Cursor :=
  let width := if ['\r', '\n'].isPrefixOf cursor.rest then 2 else 1
  ⟨cursor.index + width, cursor.line + 1, 0, cursor.rest.drop width⟩

theorem length_nextLine_lt {cursor : Cursor} (h : cursor.rest ≠ []) :
    cursor.nextLine.rest.length < cursor.rest.length := by
  have := List.length_pos_iff.mpr h
  unfold nextLine
  split <;> simp only [List.length_drop] <;> omega

def atBreak (cursor : Cursor) : Bool :=
  cursor.head?.any isBreak

def atMark (cursor : Cursor) : Bool :=
  cursor.column == 0 &&
    (['-', '-', '-'].isPrefixOf cursor.rest || ['.', '.', '.'].isPrefixOf cursor.rest) &&
    startsGap (cursor.rest.drop 3)

def start (text : List Char) : Cursor :=
  ⟨0, 0, 0, text⟩

def passOrderMark (cursor : Cursor) : Cursor :=
  if cursor.column == 0 && cursor.head? == some '\ufeff' then cursor.advance 1 else cursor

end Cursor

end ApiSurface.Document.YamlText
