import ApiSurface.Number.Binary64
import ApiSurface.Text.Digits

/-!
# Shortest decimals

The decimal with the fewest digits that reads back as a given double, and of those the nearest.
A decimal reads back if it lies in the interval of reals that round to the double; the ends
belong to it when the significand is even.
-/

namespace ApiSurface.Number

open ApiSurface.Text

structure Decimal where
  digits : Nat
  exponent : Int
  deriving DecidableEq, Repr

namespace Shortest

/-- Compares `digits * 10 ^ exponent` with a quotient: the two sides of the cross product. -/
def crossed (decimal : Decimal) (ratio : Binary64.Ratio) : Nat × Nat :=
  match decimal.exponent with
  | .ofNat up => (decimal.digits * Nat.pow 10 up * ratio.denominator, ratio.numerator)
  | .negSucc down =>
      (decimal.digits * ratio.denominator, ratio.numerator * Nat.pow 10 (down + 1))

/-- The ends of the rounding interval of a positive double. -/
def lowerEnd (x : Binary64) : Binary64.Ratio :=
  let atPower := x.significand == Binary64.hiddenBit && x.exponent > Binary64.minExponent
  let gap := if atPower then 1 else 2
  Binary64.Ratio.scale ⟨4 * x.significand - gap, 4⟩ x.exponent

def upperEnd (x : Binary64) : Binary64.Ratio :=
  Binary64.Ratio.scale ⟨4 * x.significand + 2, 4⟩ x.exponent

def readsBack (x : Binary64) (decimal : Decimal) : Bool :=
  let (belowLeft, belowRight) := crossed decimal (lowerEnd x)
  let (aboveLeft, aboveRight) := crossed decimal (upperEnd x)
  if x.significand % 2 == 0 then belowRight ≤ belowLeft && aboveLeft ≤ aboveRight
  else belowRight < belowLeft && aboveLeft < aboveRight

def leadingDigit (ratio : Binary64.Ratio) : Int :=
  let guess : Int :=
    ((numeral 10 ratio.numerator).length : Int) - (numeral 10 ratio.denominator).length
  let (left, right) := crossed ⟨1, guess⟩ ratio
  if left ≤ right then guess else guess - 1

/-- The multiple of `10 ^ exponent` at or below a quotient, and the remainder's double compared
with the grid: `lt` if the value is nearer to it than to the next one. -/
def floorOn (exponent : Int) (ratio : Binary64.Ratio) : Nat × Ordering :=
  let (numerator, denominator) :=
    match exponent with
    | .ofNat up => (ratio.numerator, ratio.denominator * Nat.pow 10 up)
    | .negSucc down => (ratio.numerator * Nat.pow 10 (down + 1), ratio.denominator)
  (numerator / denominator, compare (2 * (numerator % denominator)) denominator)

def onGrid? (x : Binary64) (exponent : Int) : Option Decimal :=
  let (floor, side) := floorOn exponent x.magnitude
  let below : Decimal := ⟨floor, exponent⟩
  let above : Decimal := ⟨floor + 1, exponent⟩
  let prefersBelow :=
    match side with
    | .lt => true
    | .eq => floor % 2 == 0
    | .gt => false
  let (first, second) := if prefersBelow then (below, above) else (above, below)
  if readsBack x first then some first
  else if readsBack x second then some second
  else none

def search (x : Binary64) (leading : Int) : Nat → Int → Decimal
  | 0, places => ⟨(floorOn (leading - places) x.magnitude).1, leading - places⟩
  | fuel + 1, places =>
      match onGrid? x (leading - places) with
      | some decimal => decimal
      | none => search x leading fuel (places + 1)

end Shortest

/-- The shortest decimal of a double's magnitude; seventeen digits always suffice. -/
def Binary64.shortest (x : Binary64) : Decimal :=
  if x.isZero then ⟨0, 0⟩
  else Shortest.search x (Shortest.leadingDigit x.magnitude) 17 0

/-! ## Notation -/

/-- How a format writes a decimal: where positional notation begins and ends. -/
structure Notation where
  lowest : Int
  highest : Int
  deriving DecidableEq, Repr

/-- Numbers in documents are positional from `0.00001` up to sixteen digits before the point. -/
def documentNotation : Notation :=
  ⟨-5, 15⟩

def zeros (count : Nat) : List Char :=
  List.replicate count '0'

/-- Digits around a point that stands after the digit with exponent zero. -/
def positional (digits : List Char) (leading : Int) : List Char :=
  match leading with
  | .ofNat whole =>
      let padded := digits ++ zeros (whole + 1 - digits.length)
      let fraction := padded.drop (whole + 1)
      padded.take (whole + 1) ++ '.' :: (if fraction.isEmpty then ['0'] else fraction)
  | .negSucc gap => '0' :: '.' :: zeros gap ++ digits

def signedExponent (exponent : Int) : List Char :=
  match exponent with
  | .ofNat up => '+' :: numeral 10 up
  | .negSucc down => '-' :: numeral 10 (down + 1)

def scientific (digits : List Char) (leading : Int) : List Char :=
  let fraction := digits.drop 1
  digits.take 1 ++ (if fraction.isEmpty then [] else '.' :: fraction) ++
    'e' :: signedExponent leading

def dropZeros (digits : List Char) : List Char :=
  (digits.reverse.dropWhile (· == '0')).reverse

/-- A double in a notation; there is always a point or an exponent. -/
def Binary64.chars (form : Notation) (x : Binary64) : List Char :=
  let sign := if x.negative then ['-'] else []
  if x.isZero then
    sign ++ ['0', '.', '0']
  else
    let decimal := x.shortest
    let digits := numeral 10 decimal.digits
    let leading := decimal.exponent + digits.length - 1
    let digits := dropZeros digits
    sign ++
      if form.lowest ≤ leading && leading ≤ form.highest then positional digits leading
      else scientific digits leading

end ApiSurface.Number
