import ApiSurface.Document.Datum
import ApiSurface.Document.PlainScalar

/-!
# Reading TOML text

Keys with values, tables under headers, and inline tables and arrays.  A table is made either by
its header, once, or by dotted keys, and a key is set once; a text that breaks such a rule, or
the grammar, is no document at all.  A reader gives what it read and what follows.

Containers within each other and the parts of a key are limited.  A number out of range is a
fault at its place: it breaks the document only where somebody comes by.
-/

namespace ApiSurface.Document.TomlText

open ApiSurface.Text

def depthLimit : Nat := 80

/-! ## Gaps -/

def isBlankChar (c : Char) : Bool :=
  c == ' ' || c == '\t'

def skipBlank (cs : List Char) : List Char :=
  cs.dropWhile isBlankChar

/-- Control characters may not stand anywhere in a text; tabs and line feeds have their places. -/
def isControl (c : Char) : Bool :=
  (c.toNat < 0x20 && c != '\t') || c.toNat == 0x7F

def normalizeBreaks : List Char → List Char
  | [] => []
  | '\r' :: '\n' :: rest => '\n' :: normalizeBreaks rest
  | c :: rest => c :: normalizeBreaks rest

def skipComment : List Char → Option (List Char)
  | [] => some []
  | c :: rest =>
      if c == '\n' then some (c :: rest) else if isControl c then none else skipComment rest

def lineEnd (cs : List Char) : Option (List Char) := do
  let rest ←
    match skipBlank cs with
    | '#' :: rest => skipComment rest
    | rest => some rest
  match rest with
  | [] => some []
  | '\n' :: rest => some rest
  | _ => none

def skipGaps : Nat → List Char → Option (List Char)
  | 0, _ => none
  | fuel + 1, cs =>
      match skipBlank cs with
      | '\n' :: rest => skipGaps fuel rest
      | '#' :: rest => do skipGaps fuel (← skipComment rest)
      | rest => some rest

/-! ## Strings -/

def escape : List Char → Option (Char × List Char)
  | 'b' :: rest => some ('\x08', rest)
  | 't' :: rest => some ('\t', rest)
  | 'n' :: rest => some ('\n', rest)
  | 'f' :: rest => some ('\x0c', rest)
  | 'r' :: rest => some ('\r', rest)
  | 'e' :: rest => some ('\x1b', rest)
  | '\x22' :: rest => some ('\x22', rest)
  | '\\' :: rest => some ('\\', rest)
  | 'x' :: rest => readCodePoint? 2 rest
  | 'u' :: rest => readCodePoint? 4 rest
  | 'U' :: rest => readCodePoint? 8 rest
  | _ => none

def addChar (c : Char) : List Char × List Char → List Char × List Char
  | (text, rest) => (c :: text, rest)

def readLine (quote : Char) : Nat → List Char → Option (List Char × List Char)
  | 0, _ => none
  | _, [] => none
  | fuel + 1, c :: rest =>
      if c == quote then
        some ([], rest)
      else if c == '\\' && quote == '\x22' then do
        let (char, rest) ← escape rest
        return addChar char (← readLine quote fuel rest)
      else if isControl c then
        none
      else
        (readLine quote fuel rest).map (addChar c)

def skipContinuation (cs : List Char) : Option (List Char) :=
  match skipBlank cs with
  | '\n' :: rest => some (rest.dropWhile fun c => isBlankChar c || c == '\n')
  | _ => none

/-- Reads on behind the three opening quotes of a string over several lines.  Up to two quotes
may stand right before the closing ones. -/
def readLines (quote : Char) : Nat → List Char → Option (List Char × List Char)
  | 0, _ => none
  | _, [] => none
  | fuel + 1, c :: rest =>
      if c == quote then
        let count := ((c :: rest).takeWhile (· == quote)).length
        if count < 3 then
          (readLines quote fuel rest).map (addChar c)
        else if count ≤ 5 then
          some (List.replicate (count - 3) quote, (c :: rest).drop count)
        else
          none
      else if c == '\\' && quote == '\x22' then
        match skipContinuation rest with
        | some rest => readLines quote fuel rest
        | none => do
            let (char, rest) ← escape rest
            return addChar char (← readLines quote fuel rest)
      else if isControl c && c != '\n' then
        none
      else
        (readLines quote fuel rest).map (addChar c)

/-- A string value; a line break right behind three opening quotes is not part of it. -/
def readString (cs : List Char) : Option (List Char × List Char) :=
  let fuel := cs.length + 1
  match cs with
  | '\x22' :: '\x22' :: '\x22' :: '\n' :: rest => readLines '\x22' fuel rest
  | '\x22' :: '\x22' :: '\x22' :: rest => readLines '\x22' fuel rest
  | '\x27' :: '\x27' :: '\x27' :: '\n' :: rest => readLines '\x27' fuel rest
  | '\x27' :: '\x27' :: '\x27' :: rest => readLines '\x27' fuel rest
  | '\x22' :: rest => readLine '\x22' fuel rest
  | '\x27' :: rest => readLine '\x27' fuel rest
  | _ => none

def startsString (cs : List Char) : Bool :=
  cs.head? == some '\x22' || cs.head? == some '\x27'

/-! ## Numbers and times -/

/-- The number that digits spell; single underscores may stand between digits. -/
def separatedNumeral (base : Nat) (cs : List Char) : Option Nat :=
  let pieces := splitAt (· == '_') cs
  if pieces.any List.isEmpty then none else readNumeral? base pieces.flatten

def plainNumeral (cs : List Char) : Option Nat :=
  match cs with
  | '0' :: _ :: _ => none
  | _ => separatedNumeral 10 cs

def integer? (cs : List Char) : Option Int :=
  match cs with
  | '+' :: digits => (plainNumeral digits).map Int.ofNat
  | '-' :: digits => (plainNumeral digits).map fun value => -(value : Int)
  | '0' :: 'x' :: digits => (separatedNumeral 16 digits).map Int.ofNat
  | '0' :: 'o' :: digits => (separatedNumeral 8 digits).map Int.ofNat
  | '0' :: 'b' :: digits => (separatedNumeral 2 digits).map Int.ofNat
  | digits => (plainNumeral digits).map Int.ofNat

def withoutSign : List Char → List Char
  | '+' :: rest => rest
  | '-' :: rest => rest
  | cs => cs

def isExponent (cs : List Char) : Bool :=
  match cs with
  | [] => true
  | e :: digits =>
      (e == 'e' || e == 'E') && (separatedNumeral 10 (withoutSign digits)).isSome

def isFloat (cs : List Char) : Bool :=
  let unsigned := withoutSign cs
  let isPart (c : Char) : Bool := c.isDigit || c == '_'
  let whole := unsigned.takeWhile isPart
  unsigned == ['i', 'n', 'f'] || unsigned == ['n', 'a', 'n'] ||
    ((plainNumeral whole).isSome &&
      match unsigned.drop whole.length with
      | '.' :: rest =>
          (separatedNumeral 10 (rest.takeWhile isPart)).isSome &&
            isExponent (rest.dropWhile isPart)
      | [] => false
      | rest => isExponent rest)

def twoDigits (bound : Nat) : List Char → Option (Nat × List Char)
  | a :: b :: rest => do
      let value ← readNumeral? 10 [a, b]
      if a.isDigit && b.isDigit && value ≤ bound then some (value, rest) else none
  | _ => none

def literal (c : Char) : List Char → Option (List Char)
  | first :: rest => if first == c then some rest else none
  | [] => none

def monthLength (year month : Nat) : Nat :=
  if month == 2 then
    if year % 4 == 0 && (year % 100 != 0 || year % 400 == 0) then 29 else 28
  else if [4, 6, 9, 11].contains month then 30
  else 31

def date? (cs : List Char) : Option (List Char) := do
  let (century, rest) ← twoDigits 99 cs
  let (year, rest) ← twoDigits 99 rest
  let (month, rest) ← twoDigits 12 (← literal '-' rest)
  let (day, rest) ← twoDigits (monthLength (century * 100 + year) month) (← literal '-' rest)
  if month == 0 || day == 0 then none else some rest

/-- The rest behind a time; seconds and their fraction may be left out. -/
def time? (cs : List Char) : Option (List Char) := do
  let (_, rest) ← twoDigits 23 cs
  let (_, rest) ← twoDigits 59 (← literal ':' rest)
  match rest with
  | ':' :: rest => do
      let (_, rest) ← twoDigits 60 rest
      match rest with
      | '.' :: c :: rest => if c.isDigit then some (rest.dropWhile Char.isDigit) else none
      | rest => some rest
  | rest => some rest

/-- The rest behind an offset from universal time, which may be left out. -/
def offset? (cs : List Char) : Option (List Char) :=
  match cs with
  | 'Z' :: rest => some rest
  | 'z' :: rest => some rest
  | c :: rest =>
      if c == '+' || c == '-' then do
        let (_, rest) ← twoDigits 23 rest
        let (_, rest) ← twoDigits 59 (← literal ':' rest)
        some rest
      else
        some (c :: rest)
  | [] => some []

def moment? (cs : List Char) : Option (List Char) :=
  match date? cs with
  | none => time? cs
  | some (c :: rest) =>
      if c == 'T' || c == 't' then do offset? (← time? rest)
      else if c == ' ' && (rest.head?.map Char.isDigit).getD false then do
        offset? (← time? rest)
      else some (c :: rest)
  | some [] => some []

def isScalarChar (c : Char) : Bool :=
  c.isAlphanum || c == '+' || c == '-' || c == '.' || c == '_' || c == ':'

/-- Integers are read up to 128 bits. -/
def integerDatum (value : Int) : Datum :=
  if -Nat.pow 2 127 ≤ value && value < Nat.pow 2 128 then .number (.integer value)
  else .fault .malformed

/-- Floating-point numbers have no readable value, and none at all past the greatest double. -/
def floatDatum (token : List Char) : Datum :=
  let unsigned := withoutSign (token.filter (· != '_'))
  match (PlainScalar.scientific? unsigned).map (PlainScalar.double? false) with
  | some none => .fault .malformed
  | _ => .unreadable .null

def momentDatum : Datum :=
  .record .toml (.cons "$moment" .null .nil)

def readScalar (cs : List Char) : Option (Datum × List Char) :=
  let token := cs.takeWhile isScalarChar
  let rest := cs.drop token.length
  match token with
  | ['t', 'r', 'u', 'e'] => some (.bool true, rest)
  | ['f', 'a', 'l', 's', 'e'] => some (.bool false, rest)
  | _ =>
      match integer? token with
      | some value => some (integerDatum value, rest)
      | none =>
          if isFloat token then some (floatDatum token, rest)
          else
            match moment? cs with
            | some rest =>
                if (rest.head?.map isScalarChar).getD false then none
                else some (momentDatum, rest)
            | none => none

/-! ## Keys -/

def isBareKeyChar (c : Char) : Bool :=
  c.isAlphanum || c == '_' || c == '-'

def readSimpleKey (cs : List Char) : Option (String × List Char) :=
  if startsString cs then
    let quote := cs.headD ' '
    (readLine quote (cs.length + 1) (cs.drop 1)).map fun (key, rest) => (.ofList key, rest)
  else
    let key := cs.takeWhile isBareKeyChar
    if key.isEmpty then none else some (.ofList key, cs.drop key.length)

def readParts : Nat → List Char → Option (List String × List Char)
  | 0, _ => none
  | count + 1, cs => do
      let (key, rest) ← readSimpleKey (skipBlank cs)
      match skipBlank rest with
      | '.' :: rest => do
          let (keys, rest) ← readParts count rest
          return (key :: keys, rest)
      | rest => return ([key], rest)

def readKey (cs : List Char) : Option (List String × List Char) :=
  readParts depthLimit cs

/-! ## Tables -/

inductive Node where
  | value (datum : Datum)
  /-- A table; an implicit one has no header of its own, a dotted one comes from dotted keys. -/
  | table (isImplicit isDotted : Bool) (entries : List (String × Node))
  /-- Tables under a repeated header, of which the last is still open. -/
  | tables (closed : List (List (String × Node))) (last : List (String × Node))

abbrev Entries := List (String × Node)

def alter (key : String) (change : Option Node → Option Node) : Entries → Option Entries
  | [] => (change none).map fun node => [(key, node)]
  | (other, node) :: rest =>
      if other == key then (change (some node)).map fun node => (other, node) :: rest
      else (alter key change rest).map ((other, node) :: ·)

def descend (change : Entries → Option Entries) : List String → Entries → Option Entries
  | [], entries => change entries
  | key :: path, entries =>
      entries |> alter key fun
        | none => (descend change path []).map (Node.table true false)
        | some (.table isImplicit isDotted entries) =>
            (descend change path entries).map (Node.table isImplicit isDotted)
        | some (.tables closed last) => (descend change path last).map (Node.tables closed)
        | some (.value _) => none

/-- Opens the table of a header; a header may complete a table that only its parts had made. -/
def openTable (key : String) : Entries → Option Entries :=
  alter key fun
    | none => some (.table false false [])
    | some (.table true false entries) => some (.table false false entries)
    | some _ => none

def openNext (key : String) : Entries → Option Entries :=
  alter key fun
    | none => some (.tables [] [])
    | some (.tables closed last) => some (.tables (closed ++ [last]) [])
    | some _ => none

/-- Sets a dotted key.  The tables of its parts have no header of their own and cannot get one
any more; a further table of a repeated header can only be passed through. -/
def insert (value : Datum) : List String → Entries → Option Entries
  | [], _ => none
  | [key], entries =>
      entries |> alter key fun
        | none => some (.value value)
        | some _ => none
  | key :: path, entries =>
      entries |> alter key fun
        | none => (insert value path []).map (Node.table true true)
        | some (.table true _ entries) => (insert value path entries).map (Node.table true true)
        | some (.tables closed last) =>
            if path.length > 1 then (insert value path last).map (Node.tables closed) else none
        | some _ => none

mutual

def Node.datum : Node → Datum
  | .value datum => datum
  | .table _ _ entries => .record .toml (membersOf entries)
  | .tables closed last =>
      .list .toml (tableItems closed (.cons (.record .toml (membersOf last)) .nil))

def membersOf : List (String × Node) → Members
  | [] => .nil
  | (key, node) :: rest => .cons key node.datum (membersOf rest)

def tableItems : List (List (String × Node)) → Items → Items
  | [], rest => rest
  | entries :: others, rest => .cons (.record .toml (membersOf entries)) (tableItems others rest)

end

/-! ## Values -/

mutual

def readValue : Nat → Nat → List Char → Option (Datum × List Char)
  | 0, _, _ => none
  | fuel + 1, depth, cs =>
      match cs, depth with
      | '[' :: rest, depth + 1 => do
          let (items, rest) ← readItems fuel depth rest
          return (.list .toml items, rest)
      | '\x7b' :: rest, depth + 1 => do
          let (entries, rest) ← readEntries fuel depth [] rest
          return (.record .toml (membersOf entries), rest)
      | cs, _ =>
          if startsString cs then
            (readString cs).map fun (text, rest) => (.string (.ofList text), rest)
          else
            readScalar cs

/-- The items up to the closing bracket; a comma may follow the last one. -/
def readItems : Nat → Nat → List Char → Option (Items × List Char)
  | 0, _, _ => none
  | fuel + 1, depth, cs => do
      match ← skipGaps (cs.length + 1) cs with
      | ']' :: rest => return (.nil, rest)
      | cs => do
          let (item, rest) ← readValue fuel depth cs
          match ← skipGaps (rest.length + 1) rest with
          | ']' :: rest => return (.cons item .nil, rest)
          | ',' :: rest => do
              let (items, rest) ← readItems fuel depth rest
              return (.cons item items, rest)
          | _ => none

/-- The entries up to the closing brace; a comma may follow the last one.  Lines may end around
a key, its equals sign and its value. -/
def readEntries : Nat → Nat → Entries → List Char → Option (Entries × List Char)
  | 0, _, _, _ => none
  | fuel + 1, depth, entries, cs => do
      match ← skipGaps (cs.length + 1) cs with
      | '\x7d' :: rest => return (entries, rest)
      | cs => do
          let (keys, rest) ← readKey cs
          let rest ← literal '=' (← skipGaps (rest.length + 1) rest)
          let (value, rest) ← readValue fuel depth (← skipGaps (rest.length + 1) rest)
          let entries ← insert value keys entries
          match ← skipGaps (rest.length + 1) rest with
          | '\x7d' :: rest => return (entries, rest)
          | ',' :: rest => readEntries fuel depth entries rest
          | _ => none

end

/-! ## Documents -/

structure Progress where
  entries : Entries
  path : List String

def Progress.start : Progress :=
  ⟨[], []⟩

/-- Opens a table by its header; the last part of the path is the table's own key. -/
def Progress.open (progress : Progress) (path : List String)
    (change : String → Entries → Option Entries) : Option Progress := do
  let key ← path.getLast?
  return ⟨← descend (change key) path.dropLast progress.entries, path⟩

def readStatement (progress : Progress) (cs : List Char) : Option (Progress × List Char) := do
  match cs with
  | '[' :: '[' :: rest => do
      let (path, rest) ← readKey rest
      let rest ← literal ']' (← literal ']' rest)
      return (← progress.open path openNext, rest)
  | '[' :: rest => do
      let (path, rest) ← readKey rest
      let rest ← literal ']' rest
      return (← progress.open path openTable, rest)
  | cs => do
      let (keys, rest) ← readKey cs
      let rest := skipBlank (← literal '=' rest)
      let (value, rest) ← readValue (2 * rest.length + 2) depthLimit rest
      let entries ← descend (insert value keys) progress.path progress.entries
      return ({ progress with entries := entries }, rest)

def readStatements : Nat → Progress → List Char → Option Progress
  | 0, _, _ => none
  | fuel + 1, progress, cs =>
      match skipBlank cs with
      | [] => some progress
      | c :: rest =>
          if c == '\n' || c == '#' then do
            readStatements fuel progress (← lineEnd (c :: rest))
          else do
            let (progress, rest) ← readStatement progress (c :: rest)
            readStatements fuel progress (← lineEnd rest)

def parse? (text : String) : Option Datum :=
  let cs := text.toList
  let cs := if cs.head? == some '\ufeff' then cs.drop 1 else cs
  let cs := normalizeBreaks cs
  (readStatements (cs.length + 1) .start cs).map fun progress =>
    .record .toml (membersOf progress.entries)

end ApiSurface.Document.TomlText
