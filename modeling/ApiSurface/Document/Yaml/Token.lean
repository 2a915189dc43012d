import ApiSurface.Document.Yaml.Scalar

/-!
# YAML tokens

A text as a list of tokens.  Indentation is turned into tokens that open and close block
collections.  A scalar or a collection turns out to be a key only at the colon behind it; until
then its place is kept, and the token for a key is put there later.
-/

namespace ApiSurface.Document.YamlText

inductive Token where
  | documentStart
  | documentEnd
  | blockSequence
  | blockMapping
  | blockEnd
  | flowSequence
  | flowSequenceEnd
  | flowMapping
  | flowMappingEnd
  | entry
  | comma
  | key
  | value
  | scalar (quoted : Bool) (text : String)
  deriving DecidableEq, Repr

structure KeyPlace where
  required : Bool
  tokens : Nat
  cursor : Cursor
  deriving DecidableEq, Repr

/-- A key ends on its line and within so many characters. -/
def keyLimit : Nat := 1024

def KeyPlace.isStale (place : KeyPlace) (cursor : Cursor) : Bool :=
  place.cursor.line < cursor.line || place.cursor.index + keyLimit < cursor.index

structure Layout where
  /-- The tokens so far, the last one first. -/
  tokens : List Token
  count : Nat
  cursor : Cursor
  /-- The columns of the open block collections, the innermost first. -/
  indents : List Nat
  place : Option KeyPlace
  outer : List (Option KeyPlace)
  keyAllowed : Bool

namespace Layout

def start (text : List Char) : Layout :=
  ⟨[], 0, .start text, [], none, [], true⟩

def inFlow (layout : Layout) : Bool :=
  !layout.outer.isEmpty

def push (layout : Layout) (token : Token) : Layout :=
  { layout with tokens := token :: layout.tokens, count := layout.count + 1 }

def insert (layout : Layout) (place : Nat) (token : Token) : Layout :=
  let later := layout.count - place
  { layout with
    tokens := layout.tokens.take later ++ token :: layout.tokens.drop later
    count := layout.count + 1 }

def advance (layout : Layout) (count : Nat) : Layout :=
  { layout with cursor := layout.cursor.advance count }

/-! ## Gaps between tokens -/

/-- Passes blanks, comments and line breaks, over so many lines at most.  A tab does not indent
what may be a key. -/
def passGap : Nat → Layout → Layout
  | 0, layout => layout
  | fuel + 1, layout =>
      let cursor := layout.cursor.passOrderMark.passWhile fun c =>
        c == ' ' || (c == '\t' && (layout.inFlow || !layout.keyAllowed))
      let cursor := if cursor.head? == some '#' then cursor.passWhile (!isBreak ·) else cursor
      if cursor.atBreak then
        passGap fuel
          { layout with
            cursor := cursor.nextLine
            keyAllowed := layout.keyAllowed || !layout.inFlow }
      else
        { layout with cursor := cursor }

/-! ## Keys -/

def dropPlace (layout : Layout) : Option Layout :=
  if layout.place.any KeyPlace.required then none else some { layout with place := none }

def fresh? (cursor : Cursor) : Option KeyPlace → Option (Option KeyPlace)
  | none => some none
  | some place =>
      if place.isStale cursor then if place.required then none else some none
      else some (some place)

def dropStale (layout : Layout) : Option Layout := do
  let place ← fresh? layout.cursor layout.place
  let outer ← layout.outer.mapM (fresh? layout.cursor)
  return { layout with place := place, outer := outer }

def keepPlace (layout : Layout) : Option Layout :=
  if layout.keyAllowed then do
    let required := !layout.inFlow && layout.indents.head? == some layout.cursor.column
    let layout ← layout.dropPlace
    return { layout with place := some ⟨required, layout.count, layout.cursor⟩ }
  else
    some layout

/-! ## Indentation -/

def closeBlocks (layout : Layout) (column : Nat) : Layout :=
  if layout.inFlow then layout
  else
    let kept := layout.indents.dropWhile (column < ·)
    let closed := layout.indents.length - kept.length
    { layout with
      tokens := List.replicate closed .blockEnd ++ layout.tokens
      count := layout.count + closed
      indents := kept }

def closeAll (layout : Layout) : Layout :=
  if layout.inFlow then layout
  else
    { layout with
      tokens := List.replicate layout.indents.length .blockEnd ++ layout.tokens
      count := layout.count + layout.indents.length
      indents := [] }

/-- Opens a block collection at a column that is indented more than the blocks around; its token
stands before those from a place on. -/
def openBlock (layout : Layout) (token : Token) (column place : Nat) : Layout :=
  if layout.inFlow || !layout.indents.head?.all (· < column) then layout
  else { layout.insert place token with indents := column :: layout.indents }

/-! ## Tokens -/

def readMark (layout : Layout) (token : Token) : Option Layout := do
  let layout ← layout.closeAll.dropPlace
  return { (layout.push token).advance 3 with keyAllowed := false }

def openFlow (layout : Layout) (token : Token) : Option Layout := do
  let layout ← layout.keepPlace
  return { (layout.push token).advance 1 with
    outer := layout.place :: layout.outer, place := none, keyAllowed := true }

def closeFlow (layout : Layout) (token : Token) : Option Layout := do
  let layout ← layout.dropPlace
  return { (layout.push token).advance 1 with
    place := layout.outer.head?.getD none, outer := layout.outer.drop 1, keyAllowed := false }

def readComma (layout : Layout) : Option Layout := do
  let layout ← layout.dropPlace
  return { (layout.push .comma).advance 1 with keyAllowed := true }

def allowsIndicator (layout : Layout) : Bool :=
  layout.inFlow || layout.keyAllowed

def readEntry (layout : Layout) : Option Layout :=
  if layout.allowsIndicator then do
    let layout := layout.openBlock .blockSequence layout.cursor.column layout.count
    let layout ← layout.dropPlace
    return { (layout.push .entry).advance 1 with keyAllowed := true }
  else
    none

def readKeyMark (layout : Layout) : Option Layout :=
  if layout.allowsIndicator then do
    let layout := layout.openBlock .blockMapping layout.cursor.column layout.count
    let layout ← layout.dropPlace
    return { (layout.push .key).advance 1 with keyAllowed := !layout.inFlow }
  else
    none

def readValueMark (layout : Layout) : Option Layout :=
  match layout.place with
  | some place =>
      let layout := layout.insert place.tokens .key
      let layout := layout.openBlock .blockMapping place.cursor.column place.tokens
      some { (layout.push .value).advance 1 with place := none, keyAllowed := false }
  | none =>
      if layout.allowsIndicator then
        let layout := layout.openBlock .blockMapping layout.cursor.column layout.count
        some { (layout.push .value).advance 1 with keyAllowed := !layout.inFlow }
      else
        none

def readQuotedScalar (layout : Layout) : Option Layout := do
  let layout ← layout.keepPlace
  let (text, cursor) ← quotedAt layout.cursor
  return { layout.push (.scalar true (.ofList text)) with cursor := cursor, keyAllowed := false }

def readPlainScalar (layout : Layout) : Option Layout := do
  let layout ← layout.keepPlace
  let bound := layout.indents.head?.elim 0 (· + 1)
  let scan ← plainAt layout.inFlow bound layout.cursor
  return { layout.push (.scalar false (.ofList scan.text)) with
    cursor := scan.cursor, keyAllowed := scan.broken }

def readToken (layout : Layout) (c : Char) (rest : List Char) : Option Layout :=
  let separate := layout.inFlow || startsGap rest
  if layout.cursor.atMark then
    layout.readMark (if c == '-' then .documentStart else .documentEnd)
  else if c == '[' then layout.openFlow .flowSequence
  else if c == '\x7b' then layout.openFlow .flowMapping
  else if c == ']' then layout.closeFlow .flowSequenceEnd
  else if c == '\x7d' then layout.closeFlow .flowMappingEnd
  else if c == ',' then layout.readComma
  else if c == '-' && startsGap rest then layout.readEntry
  else if c == '?' && separate then layout.readKeyMark
  else if c == ':' && separate then layout.readValueMark
  else if c == '\x22' || c == '\x27' then layout.readQuotedScalar
  else if startsPlain layout.inFlow c rest then layout.readPlainScalar
  else none

def run : Nat → Layout → Option Layout
  | 0, _ => none
  | fuel + 1, layout => do
      let layout ← (layout.passGap (fuel + 1)).dropStale
      match layout.cursor.rest with
      | [] => layout.closeAll.dropPlace
      | c :: rest =>
          let layout ← (layout.closeBlocks layout.cursor.column).readToken c rest
          run fuel layout

end Layout

def tokens? (text : List Char) : Option (List Token) :=
  if text.all isAllowed then
    (Layout.run (text.length + 1) (.start text)).map fun layout => layout.tokens.reverse
  else
    none

end ApiSurface.Document.YamlText
