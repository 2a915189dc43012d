import ApiSurface.Document.Json
import ApiSurface.Document.PlainScalar

/-!
# Writing YAML text

Values in block style.  The items of a list stand at the column of its key, and a container in a
list begins behind the dash.  A text is written unquoted where it reads back as the same text,
as a literal block if it has line breaks, and between quotes otherwise; lines are never folded.
-/

namespace ApiSurface.Document.YamlText

open ApiSurface.Text

/-! ## Characters -/

def isLineBreak (c : Char) : Bool :=
  c == '\n' || c == '\r' || c == '\u0085' || c == '\u2028' || c == '\u2029'

def isPrintable (c : Char) : Bool :=
  let code := c.toNat
  code == 0xA || (0x20 ≤ code && code ≤ 0x7E) ||
    (0xA0 ≤ code && code ≤ 0xFFFD && code != 0xFEFF) || 0x10000 ≤ code

def isWhite (c : Char) : Bool :=
  c == ' ' || c == '\t' || isLineBreak c || c == '\x00'

def endsOrWhite (cs : List Char) : Bool :=
  match cs with
  | [] => true
  | c :: _ => isWhite c

def hasStep (first second : Char → Bool) : List Char → Bool
  | [] => false
  | c :: rest =>
      (first c && (rest.head?.map second).getD false) || hasStep first second rest

def isSpace (c : Char) : Bool :=
  c == ' '

/-! ## Unquoted text -/

def startsIndicator (cs : List Char) : Bool :=
  match cs with
  | [] => false
  | c :: rest =>
      [',', '[', ']', '\x7b', '\x7d', '#', '&', '*', '!', '|', '>', '\x27', '\x22', '%', '@',
        '\x60'].contains c ||
        ((c == '?' || c == ':' || c == '-') && endsOrWhite rest)

def hasIndicator : Char → List Char → Bool
  | _, [] => false
  | previous, c :: rest =>
      (c == ':' && endsOrWhite rest) || (c == '#' && isWhite previous) || hasIndicator c rest

def isUnquotable (cs : List Char) : Bool :=
  !(startsIndicator cs || ['-', '-', '-'].isPrefixOf cs || ['.', '.', '.'].isPrefixOf cs ||
    (match cs with
      | [] => true
      | c :: rest => hasIndicator c rest) ||
    cs.head? == some ' ' || cs.getLast? == some ' ' || cs.any isLineBreak ||
    cs.any (!isPrintable ·))

def readsAsText (cs : List Char) : Bool :=
  PlainScalar.resolve cs == .text && !PlainScalar.isZeroPadded cs

/-! ## Quoted text -/

def indentation (indent : Nat) : List Char :=
  List.replicate indent ' '

def indentedChars (indent : Nat) : Bool → List Char → List Char
  | _, [] => []
  | afterBreak, c :: rest =>
      if isLineBreak c then c :: indentedChars indent true rest
      else (if afterBreak then indentation indent else []) ++ c :: indentedChars indent false rest

def isSingleQuotable (cs : List Char) : Bool :=
  !(hasStep isLineBreak isSpace cs || hasStep isSpace isLineBreak cs || cs.any (!isPrintable ·))

def singleQuoted (indent : Nat) (cs : List Char) : List Char :=
  let doubled := cs.flatMap fun c => if c == '\x27' then ['\x27', '\x27'] else [c]
  let closing := if (cs.getLast?.map isLineBreak).getD false then indentation indent else []
  '\x27' :: indentedChars indent false doubled ++ closing ++ ['\x27']

def hexDigit (digit : Nat) : Char :=
  (digitChar digit).toUpper

def hexDigits : Nat → Nat → List Char
  | 0, _ => []
  | count + 1, value => hexDigits count (value / 16) ++ [hexDigit (value % 16)]

def escapeLetter? (c : Char) : Option Char :=
  match c with
  | '\x00' => some '0'
  | '\x07' => some 'a'
  | '\x08' => some 'b'
  | '\t' => some 't'
  | '\n' => some 'n'
  | '\x0b' => some 'v'
  | '\x0c' => some 'f'
  | '\r' => some 'r'
  | '\x1b' => some 'e'
  | '\x22' => some '\x22'
  | '\\' => some '\\'
  | '\u0085' => some 'N'
  | '\u2028' => some 'L'
  | '\u2029' => some 'P'
  | _ => none

def doubleQuotedChar (c : Char) : List Char :=
  match escapeLetter? c with
  | some letter => ['\\', letter]
  | none =>
      if isPrintable c then [c]
      else if c.toNat ≤ 0xFF then '\\' :: 'x' :: hexDigits 2 c.toNat
      else if c.toNat ≤ 0xFFFF then '\\' :: 'u' :: hexDigits 4 c.toNat
      else '\\' :: 'U' :: hexDigits 8 c.toNat

def doubleQuoted (cs : List Char) : List Char :=
  '\x22' :: cs.flatMap doubleQuotedChar ++ ['\x22']

/-! ## Literal blocks -/

def isLiteral (cs : List Char) : Bool :=
  !(cs.getLast? == some ' ' || hasStep isSpace isLineBreak cs || cs.any (!isPrintable ·))

def indentHint (cs : List Char) : List Char :=
  match cs with
  | [] => []
  | c :: _ => if isSpace c || isLineBreak c then ['2'] else []

/-- The mark for what follows the last line: no line break, one, or more. -/
def chompHint (cs : List Char) : List Char :=
  match cs.reverse with
  | [] => ['-']
  | last :: before =>
      if !isLineBreak last then ['-']
      else
        match before with
        | [] => ['+']
        | c :: _ => if isLineBreak c then ['+'] else []

def literalBlock (indent : Nat) (cs : List Char) : List Char :=
  let closing := if (cs.getLast?.map isLineBreak).getD false then [] else ['\n']
  '|' :: indentHint cs ++ chompHint cs ++ '\n' :: indentedChars indent true cs ++ closing

/-! ## Scalars -/

def quotedChars (indent : Nat) (cs : List Char) : List Char :=
  if isSingleQuotable cs then singleQuoted indent cs else doubleQuoted cs

def textChars (indent : Nat) (cs : List Char) : List Char :=
  if cs.contains '\n' then
    if isLiteral cs then literalBlock indent cs else doubleQuoted cs ++ ['\n']
  else if readsAsText cs && isUnquotable cs then
    cs ++ ['\n']
  else
    quotedChars indent cs ++ ['\n']

def scalarText (indent : Nat) : Json → String
  | .string value => .ofList (textChars indent value.toList)
  | value => value.text ++ "\n"

/-! ## Blocks -/

def spacing (indent : Nat) : String :=
  .ofList (indentation indent)

def entries (indent : Nat) (texts : List String) : String :=
  Text.join (spacing indent) texts

mutual

def itemText (indent : Nat) : Json → String
  | .array [] => "[]\n"
  | .object [] => "\x7b\x7d\n"
  | .array items => entries indent (itemTexts indent items)
  | .object members => entries indent (memberTexts indent members)
  | value => scalarText indent value

def itemTexts (indent : Nat) : List Json → List String
  | [] => []
  | item :: items => ("- " ++ itemText (indent + 2) item) :: itemTexts indent items

def valueText (indent : Nat) : Json → String
  | .array [] => " []\n"
  | .object [] => " \x7b\x7d\n"
  | .array items => "\n" ++ spacing indent ++ entries indent (itemTexts indent items)
  | .object members =>
      "\n" ++ spacing (indent + 2) ++ entries (indent + 2) (memberTexts (indent + 2) members)
  | value => " " ++ scalarText (indent + 2) value

def memberTexts (indent : Nat) : List (String × Json) → List String
  | [] => []
  | (key, value) :: members =>
      (key ++ ":" ++ valueText indent value) :: memberTexts indent members

end

def write (value : Json) : String :=
  itemText 0 value

end ApiSurface.Document.YamlText
