/-!
# White space

The characters with the White_Space property, and text without the white space around it.
Trimming keeps a contiguous piece of the text (`trimChars_isInfix`).
-/

namespace ApiSurface.Text

/-- The White_Space property. -/
def isBlank (c : Char) : Bool :=
  let code := c.toNat
  (9 ≤ code && code ≤ 13) || code == 0x20 || code == 0x85 || code == 0xA0 || code == 0x1680 ||
    (0x2000 ≤ code && code ≤ 0x200A) || code == 0x2028 || code == 0x2029 || code == 0x202F ||
    code == 0x205F || code == 0x3000

def trimLeft (cs : List Char) : List Char :=
  cs.dropWhile isBlank

def trimRight (cs : List Char) : List Char :=
  (cs.reverse.dropWhile isBlank).reverse

def trimChars (cs : List Char) : List Char :=
  trimRight (trimLeft cs)

def trim (text : String) : String :=
  .ofList (trimChars text.toList)

/-! ## What trimming keeps -/

theorem trimLeft_isSuffix (cs : List Char) : trimLeft cs <:+ cs :=
  List.dropWhile_suffix _

theorem trimRight_isPrefix (cs : List Char) : trimRight cs <+: cs := by
  rw [← List.reverse_suffix, trimRight, List.reverse_reverse]
  exact List.dropWhile_suffix _

theorem trimChars_isInfix (cs : List Char) : trimChars cs <:+: cs :=
  (trimRight_isPrefix _).isInfix.trans (trimLeft_isSuffix _).isInfix

theorem length_trimChars_le (cs : List Char) : (trimChars cs).length ≤ cs.length :=
  (trimChars_isInfix cs).length_le

end ApiSurface.Text
