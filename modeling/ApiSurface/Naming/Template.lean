import ApiSurface.Text.Pieces

/-!
# Name templates

A pattern such as `ROLE_\x7bMETHOD\x7d` with tokens in braces.  Tokens are replaced one after
the other, each in what the ones before it left; unknown tokens stay.
-/

namespace ApiSurface.Naming

open ApiSurface.Text

def tokenText (token : String) : String :=
  "\x7b" ++ token ++ "\x7d"

def substitute (pattern : String) (tokens : List (String × String)) : String :=
  tokens.foldl (fun text (token, value) => replace (tokenText token) value text) pattern

end ApiSurface.Naming
