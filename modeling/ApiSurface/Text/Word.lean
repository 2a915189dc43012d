import ApiSurface.Text.AlphanumericTable
import ApiSurface.Text.LetterCase
import ApiSurface.Text.WordTable

/-!
# Word characters

The characters of which names are made, in any script.
-/

namespace ApiSurface.Text

def isWord (c : Char) : Bool :=
  if isAscii c then c.isAlphanum || c == '_' else inRuns wordRuns c

/-- A letter or a number; other than in words, marks and joiners do not count. -/
def isAlphanumeric (c : Char) : Bool :=
  if isAscii c then c.isAlphanum else inRuns alphanumericRuns c

end ApiSurface.Text
