import ApiSurface.Number.Shortest

/-!
# Numbers of documents

A number is an integer if it is written as one and fits into 64 bits, with or without sign, and
a double otherwise.
-/

namespace ApiSurface

inductive Number where
  | integer (value : Int)
  | double (value : Number.Binary64)
  deriving DecidableEq, Repr

namespace Number

def leastInteger : Int := -Nat.pow 2 63

def integerBound : Int := Nat.pow 2 64

def fitsInteger (value : Int) : Bool :=
  leastInteger ≤ value && value < integerBound

def text : Number → String
  | .integer value => Text.decimalInt value
  | .double value => .ofList (value.chars documentNotation)

end Number

end ApiSurface
