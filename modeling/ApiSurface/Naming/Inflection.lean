import ApiSurface.Text.Pieces

/-!
# English inflection

The plural of a noun and the singular of a relation name, by the ending alone.  Endings are
compared in lower case; what is kept of the word keeps its letters as written.
-/

namespace ApiSurface.Naming

open ApiSurface.Text

def withoutEnding (ending word : List Char) : List Char :=
  if endsWith ending word then dropEnd ending.length word else word

def singularChars (word : List Char) : List Char :=
  let lower := lowerAscii word
  if byteLength word > 3 && endsWith ['i', 'e', 's'] lower then
    dropEnd 3 word ++ ['y']
  else if byteLength word > 4 &&
      (endsWith ['s', 's', 'e', 's'] lower || endsWith ['u', 's', 'e', 's'] lower ||
        endsWith ['x', 'e', 's'] lower || endsWith ['c', 'h', 'e', 's'] lower) then
    dropEnd 2 word
  else if endsWith ['s', 's'] lower || endsWith ['u', 's'] lower ||
      endsWith ['i', 's'] lower || byteLength word ≤ 1 then
    word
  else
    withoutEnding ['s'] word

/-- The singular of a plural noun; words that do not look like a plural stay as they are. -/
def singular (word : String) : String :=
  .ofList (singularChars word.toList)

def pluralChars (word : List Char) : List Char :=
  let lower := lowerAscii word
  if endsWith ['y'] lower && !endsWith ['a', 'y'] lower && !endsWith ['e', 'y'] lower &&
      !endsWith ['o', 'y'] lower && !endsWith ['u', 'y'] lower then
    dropEnd 1 word ++ ['i', 'e', 's']
  else if endsWith ['s'] lower || endsWith ['x'] lower || endsWith ['c', 'h'] lower ||
      endsWith ['s', 'h'] lower then
    word ++ ['e', 's']
  else
    word ++ ['s']

def plural (word : String) : String :=
  .ofList (pluralChars word.toList)

end ApiSurface.Naming
