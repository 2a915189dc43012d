import ApiSurface.Document.PlainScalar
import ApiSurface.Text.Pieces
import ApiSurface.Text.Word

/-!
# Patterns for values

The regular expressions that a directive may hold for the value of a field.  Only their form
counts here.  They hold no comma, no equals sign and no closing brace, for these end them, and so
no form that needs one.
-/

namespace ApiSurface.ValuePattern

open ApiSurface.Text

/-! ## Escapes -/

inductive Piece where
  | char (c : Char)
  | chars
  | anchor
  deriving DecidableEq, Repr

def codePoint? (count : Nat) (cs : List Char) : Option (Piece × List Char) :=
  (readCodePoint? count cs).map fun (c, rest) => (.char c, rest)

/-- What stands behind a backslash.  Letters and digits have a meaning of their own or none, and
other characters do not lose theirs. -/
def escape? : List Char → Option (Piece × List Char)
  | [] => none
  | c :: rest =>
      match c with
      | 'x' => codePoint? 2 rest
      | 'u' => codePoint? 4 rest
      | 'U' => codePoint? 8 rest
      | 'a' => some (.char '\x07', rest)
      | 'f' => some (.char '\x0c', rest)
      | 't' => some (.char '\t', rest)
      | 'n' => some (.char '\n', rest)
      | 'r' => some (.char '\r', rest)
      | 'v' => some (.char '\x0b', rest)
      | 'A' => some (.anchor, rest)
      | 'z' => some (.anchor, rest)
      | _ =>
          if "dDsSwW".toList.contains c then
            some (.chars, rest)
          else if c == 'p' || c == 'P' then
            match rest with
            | [] => none
            | category :: rest =>
                if "cClLmMnNpPsSzZ".toList.contains category then some (.chars, rest) else none
          else if !isAscii c || c.isAlphanum || c == '<' || c == '>' then
            none
          else
            some (.char c, rest)

/-! ## Character sets -/

def setNames : List String :=
  ["alnum", "alpha", "ascii", "blank", "cntrl", "digit", "graph", "lower", "print", "punct",
    "space", "upper", "word", "xdigit"]

def namedSet? (cs : List Char) : Option (List Char) :=
  match cs with
  | '[' :: ':' :: rest =>
      let rest := if rest.head? == some '^' then rest.drop 1 else rest
      let name := rest.takeWhile (· != ':')
      match rest.drop name.length with
      | ':' :: ']' :: rest => if setNames.any (·.toList == name) then some rest else none
      | _ => none
  | _ => none

/-- The rest behind the start of a set.  Hyphens, or else a closing bracket, may come first as
characters of the set. -/
def openSet (cs : List Char) : List Char :=
  let cs := if cs.head? == some '^' then cs.drop 1 else cs
  match cs with
  | '-' :: _ => cs.dropWhile (· == '-')
  | ']' :: rest => rest
  | _ => cs

def setPiece? (cs : List Char) : Option (Piece × List Char) :=
  match cs with
  | [] => none
  | '\\' :: rest =>
      match escape? rest with
      | some (.anchor, _) => none
      | piece => piece
  | c :: rest => some (.char c, rest)

def setRange? (cs : List Char) : Option (List Char) := do
  let (first, rest) ← setPiece? cs
  match rest with
  | '-' :: ']' :: _ => some rest
  | '-' :: '-' :: _ => some rest
  | '-' :: rest =>
      match first, ← setPiece? rest with
      | .char low, (.char high, rest) => if low ≤ high then some rest else none
      | _, _ => none
  | _ => some rest

def isSetOperator (cs : List Char) : Bool :=
  ["&&", "--", "~~"].any fun operator => operator.toList.isPrefixOf cs

/-- The rest behind the bracket that closes the outermost of so many open sets. -/
def readSet : Nat → Nat → List Char → Option (List Char)
  | 0, _, _ => none
  | fuel + 1, depth, cs =>
      match cs with
      | [] => none
      | ']' :: rest => if depth ≤ 1 then some rest else readSet fuel (depth - 1) rest
      | '[' :: rest =>
          match namedSet? cs with
          | some rest => readSet fuel depth rest
          | none => readSet fuel (depth + 1) (openSet rest)
      | _ =>
          if isSetOperator cs then readSet fuel depth (cs.drop 2)
          else (setRange? cs).bind (readSet fuel depth)

/-! ## Groups -/

def areFlags (cs : List Char) : Bool :=
  !cs.isEmpty && cs.getLast? != some '-' && cs.eraseDups.length == cs.length &&
    cs.all "imsUuRx-".toList.contains

def isGroupName (cs : List Char) : Bool :=
  match cs with
  | [] => false
  | c :: rest =>
      (c == '_' || (isAlphanumeric c && !c.isDigit)) &&
        rest.all fun c => isAlphanumeric c || c == '_' || c == '.' || c == '[' || c == ']'

/-- What follows a group's opening bracket: flags alone, which are closed at once, or a group. -/
def openGroup? (cs : List Char) : Option (Bool × List Char) :=
  let named := fun (cs : List Char) =>
    let name := cs.takeWhile (· != '>')
    if isGroupName name && name.length < cs.length then some (true, cs.drop (name.length + 1))
    else none
  match cs with
  | '?' :: 'P' :: '<' :: rest => named rest
  | '?' :: '<' :: rest => named rest
  | '?' :: rest =>
      let flags := rest.takeWhile fun c => c != ':' && c != ')'
      match rest.drop flags.length with
      | ':' :: rest => if flags.isEmpty || areFlags flags then some (true, rest) else none
      | ')' :: rest => if areFlags flags then some (false, rest) else none
      | _ => none
  | _ => some (true, cs)

/-! ## Patterns -/

/-- Whether so many groups are closed and every repetition has something to repeat;
`repeatable` tells whether a piece stands right before. -/
def isExpression : Nat → Nat → Bool → List Char → Bool
  | 0, _, _, _ => false
  | _, groups, _, [] => groups == 0
  | fuel + 1, groups, repeatable, c :: rest =>
      if c == '(' then
        match openGroup? rest with
        | some (true, rest) => isExpression fuel (groups + 1) false rest
        | some (false, rest) => isExpression fuel groups false rest
        | none => false
      else if c == ')' then
        groups != 0 && isExpression fuel (groups - 1) true rest
      else if c == '|' then
        isExpression fuel groups false rest
      else if c == '*' || c == '+' || c == '?' then
        let rest := if rest.head? == some '?' then rest.drop 1 else rest
        repeatable && isExpression fuel groups true rest
      else if c == '\x7b' then
        false
      else if c == '[' then
        (readSet (rest.length + 1) 1 (openSet rest)).any (isExpression fuel groups true)
      else if c == '\\' then
        (escape? rest).any fun (_, rest) => isExpression fuel groups true rest
      else
        isExpression fuel groups true rest

/-- Numbers may have a plus sign, with which no expression begins. -/
def isSignedNumber (cs : List Char) : Bool :=
  match cs with
  | '+' :: rest =>
      (Document.PlainScalar.scientific? rest).isSome ||
        ["inf", "infinity", "nan"].any fun name => name.toList == lowerAscii rest
  | _ => false

def isValid (cs : List Char) : Bool :=
  isSignedNumber cs || isExpression (cs.length + 1) 0 false cs

end ApiSurface.ValuePattern
