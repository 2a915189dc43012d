/-!
# Binary floating point

The finite doubles, each as sign, significand and binary exponent.  Every operation is an exact
one followed by rounding to the nearest double, ties to the even significand; a result out of
range is refused.
-/

namespace ApiSurface.Number

/-- The double `± significand * 2 ^ exponent`, with the exponent as small as 53 bits allow. -/
structure Binary64 where
  negative : Bool
  significand : Nat
  exponent : Int
  deriving DecidableEq, Repr

namespace Binary64

def minExponent : Int := -1074

def maxExponent : Int := 971

def hiddenBit : Nat := Nat.pow 2 52

def zero : Binary64 := ⟨false, 0, minExponent⟩

def isZero (x : Binary64) : Bool :=
  x.significand == 0

/-! ## Exact values -/

structure Ratio where
  numerator : Nat
  denominator : Nat
  deriving DecidableEq, Repr

def Ratio.scale (ratio : Ratio) (exponent : Int) : Ratio :=
  match exponent with
  | .ofNat up => ⟨ratio.numerator * Nat.pow 2 up, ratio.denominator⟩
  | .negSucc down => ⟨ratio.numerator, ratio.denominator * Nat.pow 2 (down + 1)⟩

def magnitude (x : Binary64) : Ratio :=
  Ratio.scale ⟨x.significand, 1⟩ x.exponent

/-! ## Rounding -/

/-- The nearest integer to a quotient, a half going to the even neighbour. -/
def roundDiv (numerator denominator : Nat) : Nat :=
  let quotient := numerator / denominator
  let twice := 2 * (numerator % denominator)
  if twice > denominator || (twice == denominator && quotient % 2 == 1) then quotient + 1
  else quotient

def leadingBit (ratio : Ratio) : Int :=
  let guess : Int := (ratio.numerator.log2 : Int) - ratio.denominator.log2
  let scaled := ratio.scale (-guess)
  if scaled.numerator ≥ scaled.denominator then guess else guess - 1

def nearest? (negative : Bool) (ratio : Ratio) : Option Binary64 :=
  if ratio.numerator == 0 then
    some { zero with negative := negative }
  else
    let exponent := max (leadingBit ratio - 52) minExponent
    let scaled := ratio.scale (-exponent)
    let significand := roundDiv scaled.numerator scaled.denominator
    let (significand, exponent) :=
      if significand == 2 * hiddenBit then (hiddenBit, exponent + 1) else (significand, exponent)
    if exponent > maxExponent then none else some ⟨negative, significand, exponent⟩

/-! ## Arithmetic -/

def ofNat? (value : Nat) : Option Binary64 :=
  nearest? false ⟨value, 1⟩

def mul? (x y : Binary64) : Option Binary64 :=
  let a := x.magnitude
  let b := y.magnitude
  nearest? (x.negative != y.negative)
    ⟨a.numerator * b.numerator, a.denominator * b.denominator⟩

def div? (x y : Binary64) : Option Binary64 :=
  let a := x.magnitude
  let b := y.magnitude
  nearest? (x.negative != y.negative)
    ⟨a.numerator * b.denominator, a.denominator * b.numerator⟩

def ofDecimal? (negative : Bool) (digits : Nat) (exponent : Int) : Option Binary64 :=
  match exponent with
  | .ofNat up => nearest? negative ⟨digits * Nat.pow 10 up, 1⟩
  | .negSucc down => nearest? negative ⟨digits, Nat.pow 10 (down + 1)⟩

end Binary64

end ApiSurface.Number
