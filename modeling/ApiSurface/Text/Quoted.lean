import ApiSurface.Text.Digits
import ApiSurface.Text.EscapedTable
import ApiSurface.Text.LetterCase

/-!
# Quoted text

Text between double quotes as reports and messages show it: quotes, backslashes and line
breaks have two-character spellings, and a character that would not be seen is spelled by its
code point.
-/

namespace ApiSurface.Text

def isEscaped (c : Char) : Bool :=
  if isAscii c then c.toNat < 32 || c.toNat == 127 else inRuns escapedRuns c

def codePointSpelling (c : Char) : List Char :=
  ['\\', 'u', '\x7b'] ++ numeral 16 c.toNat ++ ['\x7d']

def quotedChar (c : Char) : List Char :=
  match c with
  | '\x00' => ['\\', '0']
  | '\t' => ['\\', 't']
  | '\r' => ['\\', 'r']
  | '\n' => ['\\', 'n']
  | '\\' => ['\\', '\\']
  | '\x22' => ['\\', '\x22']
  | c => if isEscaped c then codePointSpelling c else [c]

def quote (text : String) : String :=
  .ofList ('\x22' :: text.toList.flatMap quotedChar ++ ['\x22'])

end ApiSurface.Text
