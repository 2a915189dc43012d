import ApiSurface.Document.Yaml.Cursor
import ApiSurface.Text.Digits

/-!
# Scalars in YAML text

Unquoted scalars and the two kinds of quoted ones.  All of them may go over several lines, which
are joined: one line break becomes a space, and of several one is left out.
-/

namespace ApiSurface.Document.YamlText

open ApiSurface.Text

/-! ## Gaps inside a scalar -/

inductive Gap where
  | blanks (text : List Char)
  /-- Line breaks, with any blanks around them; the first one may be escaped. -/
  | breaks (first : Option Char) (others : List Char)
  deriving DecidableEq, Repr

namespace Gap

def empty : Gap :=
  .blanks []

def isBroken : Gap → Bool
  | .blanks _ => false
  | .breaks _ _ => true

def breakChar (c : Char) : Char :=
  if c == '\u2028' || c == '\u2029' then c else '\n'

def addBlank (gap : Gap) (c : Char) : Gap :=
  match gap with
  | .blanks text => .blanks (text ++ [c])
  | .breaks first others => .breaks first others

def addBreak (gap : Gap) (c : Char) : Gap :=
  match gap with
  | .blanks _ => .breaks (some (breakChar c)) []
  | .breaks first others => .breaks first (others ++ [breakChar c])

def text : Gap → List Char
  | .blanks text => text
  | .breaks (some '\n') [] => [' ']
  | .breaks (some '\n') others => others
  | .breaks (some c) others => c :: others
  | .breaks none others => others

end Gap

/-- Passes blanks and line breaks.  Behind a line break no tab may stand left of a column. -/
def readGap (bound : Nat) (gap : Gap) (cursor : Cursor) : Option (Gap × Cursor) :=
  match _h : cursor.rest with
  | [] => some (gap, cursor)
  | c :: _ =>
      if isBlank c then
        if gap.isBroken && c == '\t' && cursor.column < bound then none
        else readGap bound (gap.addBlank c) (cursor.advance 1)
      else if isBreak c then
        readGap bound (gap.addBreak c) cursor.nextLine
      else
        some (gap, cursor)
termination_by cursor.rest.length
decreasing_by
  · simp [Cursor.advance, _h]
  · exact Cursor.length_nextLine_lt (by simp [_h])

/-! ## Unquoted scalars -/

def startsPlain (inFlow : Bool) (c : Char) (rest : List Char) : Bool :=
  if c == '-' then !startsGap rest
  else if c == '?' || c == ':' then !inFlow && !startsGap rest
  else !isIndicator c && !isGap c

/-- The text up to the next blank or the end of the scalar.  In a flow collection a colon must
not stand right before an indicator. -/
def plainRun (inFlow : Bool) : List Char → Option (List Char)
  | [] => some []
  | c :: rest =>
      if isGap c then some []
      else if inFlow && c == ':' && rest.head?.any (fun d => d == '?' || isFlowIndicator d) then
        none
      else if (c == ':' && startsGap rest) || (inFlow && isFlowIndicator c) then some []
      else (plainRun inFlow rest).map (c :: ·)

structure PlainScan where
  text : List Char
  broken : Bool
  cursor : Cursor

/-- Reads on in an unquoted scalar behind a gap.  In a block its further lines start at a column
or to the right of it. -/
def readPlain (inFlow : Bool) (bound : Nat) : Nat → Gap → Cursor → Option PlainScan
  | 0, _, _ => none
  | fuel + 1, gap, cursor =>
      if cursor.atMark || cursor.head? == some '#' then
        some ⟨[], gap.isBroken, cursor⟩
      else do
        let run ← plainRun inFlow cursor.rest
        let (text, gap) := if run.isEmpty then ([], gap) else (gap.text ++ run, Gap.empty)
        let cursor := cursor.advance run.length
        if cursor.head?.any isGap then
          let (gap, cursor) ← readGap bound gap cursor
          if !inFlow && cursor.column < bound then
            return ⟨text, gap.isBroken, cursor⟩
          else
            let scan ← readPlain inFlow bound fuel gap cursor
            return { scan with text := text ++ scan.text }
        else
          return ⟨text, gap.isBroken, cursor⟩

def plainAt (inFlow : Bool) (bound : Nat) (cursor : Cursor) : Option PlainScan :=
  readPlain inFlow bound (cursor.rest.length + 1) Gap.empty cursor

/-! ## Quoted scalars -/

def namedEscape? (c : Char) : Option Char :=
  match c with
  | '0' => some '\x00'
  | 'a' => some '\x07'
  | 'b' => some '\x08'
  | 't' => some '\t'
  | '\t' => some '\t'
  | 'n' => some '\n'
  | 'v' => some '\x0b'
  | 'f' => some '\x0c'
  | 'r' => some '\r'
  | 'e' => some '\x1b'
  | ' ' => some ' '
  | '\x22' => some '\x22'
  | '/' => some '/'
  | '\\' => some '\\'
  | 'N' => some '\u0085'
  | '_' => some '\u00a0'
  | 'L' => some '\u2028'
  | 'P' => some '\u2029'
  | _ => none

def escape? (cs : List Char) : Option (Char × Nat) :=
  match cs with
  | 'x' :: digits => (readCodePoint? 2 digits).map fun (c, _) => (c, 3)
  | 'u' :: digits => (readCodePoint? 4 digits).map fun (c, _) => (c, 5)
  | 'U' :: digits => (readCodePoint? 8 digits).map fun (c, _) => (c, 9)
  | c :: _ => (namedEscape? c).map fun c => (c, 1)
  | [] => none

def startsDoubled (cs : List Char) : Bool :=
  ['\x27', '\x27'].isPrefixOf cs

def quotedPiece (double : Bool) (cursor : Cursor) : Option (List Char × Cursor) :=
  let gapText := fun (gap, cursor) => (Gap.text gap, cursor)
  match cursor.rest with
  | [] => none
  | c :: rest =>
      if isGap c then
        (readGap 0 Gap.empty cursor).map gapText
      else if double && c == '\\' then
        if rest.head?.any isBreak then
          (readGap 0 (.breaks none []) (cursor.advance 1).nextLine).map gapText
        else
          (escape? rest).map fun (c, count) => ([c], cursor.advance (count + 1))
      else if !double && startsDoubled cursor.rest then
        some (['\x27'], cursor.advance 2)
      else
        some ([c], cursor.advance 1)

/-- Reads on behind the opening quote.  No document may begin or end inside a scalar. -/
def readQuoted (double : Bool) : Nat → Cursor → Option (List Char × Cursor)
  | 0, _ => none
  | fuel + 1, cursor =>
      let quote := if double then '\x22' else '\x27'
      let closes := cursor.head? == some quote &&
        (double || !startsDoubled cursor.rest)
      if cursor.atMark then none
      else if closes then some ([], cursor.advance 1)
      else do
        let (piece, cursor) ← quotedPiece double cursor
        let (text, cursor) ← readQuoted double fuel cursor
        return (piece ++ text, cursor)

def quotedAt (cursor : Cursor) : Option (List Char × Cursor) :=
  readQuoted (cursor.head? == some '\x22') (cursor.rest.length + 1) (cursor.advance 1)

end ApiSurface.Document.YamlText
