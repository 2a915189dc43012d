import ApiSurface.Number.Basic

/-!
# Unquoted scalars

The types that unquoted YAML scalars have by their spelling: null, booleans, integers in four
bases and floating-point numbers; all others are text.
-/

namespace ApiSurface.Document.PlainScalar

open ApiSurface.Text

inductive Resolved where
  | null
  | bool (value : Bool)
  | integer (value : Int)
  | double (value : Number.Binary64)
  | notFinite
  | text
  deriving DecidableEq, Repr

/-! ## Null and booleans -/

def isNull (cs : List Char) : Bool :=
  cs.isEmpty || cs == ['~'] || cs == ['n', 'u', 'l', 'l'] || cs == ['N', 'u', 'l', 'l'] ||
    cs == ['N', 'U', 'L', 'L']

def bool? (cs : List Char) : Option Bool :=
  if ["true", "True", "TRUE"].any (·.toList == cs) then some true
  else if ["false", "False", "FALSE"].any (·.toList == cs) then some false
  else none

/-! ## Integers -/

def isSign (c : Char) : Bool :=
  c == '+' || c == '-'

def startsSigned (cs : List Char) : Bool :=
  (cs.head?.map isSign).getD false

def withoutSign (cs : List Char) : List Char :=
  if startsSigned cs then cs.drop 1 else cs

/-- Digits behind leading zeros are text and no number. -/
def isZeroPadded (cs : List Char) : Bool :=
  match withoutSign cs with
  | '0' :: c :: rest => (c :: rest).all Char.isDigit
  | _ => false

def based? (cs : List Char) : Option Nat :=
  match cs with
  | '0' :: 'x' :: rest => readNumeral? 16 rest
  | '0' :: 'o' :: rest => readNumeral? 8 rest
  | '0' :: 'b' :: rest => readNumeral? 2 rest
  | _ => none

def natural? (cs : List Char) : Option Nat :=
  let unsigned := if cs.head? == some '+' then cs.drop 1 else cs
  match based? unsigned with
  | some value => some value
  | none =>
      if startsSigned unsigned || isZeroPadded cs then none else readNumeral? 10 unsigned

def negative? (cs : List Char) : Option Int :=
  match cs with
  | '-' :: digits =>
      match based? digits with
      | some value => some (-(value : Int))
      | none =>
          if isZeroPadded cs then none
          else (readNumeral? 10 digits).map fun value => -(value : Int)
  | _ => none

/-- Integers of up to 128 bits; larger ones are read as floating-point numbers. -/
def integer? (cs : List Char) : Option Int :=
  match natural? cs with
  | some value => if value < Nat.pow 2 128 then some value else none
  | none =>
      match negative? cs with
      | some value => if -Nat.pow 2 127 ≤ value then some value else none
      | none => none

/-! ## Floating-point numbers -/

/-- Decimal digits with an optional point and exponent, as digits and exponent of ten. -/
structure Scientific where
  digits : Nat
  exponent : Int
  deriving DecidableEq, Repr

def exponent? (cs : List Char) : Option Int :=
  match cs with
  | '+' :: digits => (readNumeral? 10 digits).map Int.ofNat
  | '-' :: digits => (readNumeral? 10 digits).map fun value => -(value : Int)
  | digits => (readNumeral? 10 digits).map Int.ofNat

def scientific? (cs : List Char) : Option Scientific :=
  let whole := cs.takeWhile Char.isDigit
  let rest := cs.drop whole.length
  let (fraction, rest) :=
    match rest with
    | '.' :: after => (after.takeWhile Char.isDigit, after.dropWhile Char.isDigit)
    | _ => ([], rest)
  match readNumeral? 10 (whole ++ fraction) with
  | none => none
  | some digits =>
      match rest with
      | [] => some ⟨digits, -fraction.length⟩
      | e :: after =>
          if e == 'e' || e == 'E' then
            (exponent? after).map fun exponent => ⟨digits, exponent - fraction.length⟩
          else
            none

/-- The double of a decimal numeral; exponents past any double's need no large powers. -/
def double? (negative : Bool) (number : Scientific) : Option Number.Binary64 :=
  let size := (numeral 10 number.digits).length + number.exponent
  if number.digits == 0 || size < -400 then
    some { Number.Binary64.zero with negative := negative }
  else if size > 400 then
    none
  else
    Number.Binary64.ofDecimal? negative number.digits number.exponent

def isInfinite (cs : List Char) : Bool :=
  [".inf", ".Inf", ".INF"].any (·.toList == withoutSign cs)

def isNan (cs : List Char) : Bool :=
  [".nan", ".NaN", ".NAN"].any (·.toList == cs)

def float? (cs : List Char) : Option Resolved :=
  if isInfinite cs || isNan cs then
    some .notFinite
  else
    match scientific? (withoutSign cs) with
    | none => none
    | some number => (double? (cs.head? == some '-') number).map .double

/-! ## Resolution -/

def resolve (cs : List Char) : Resolved :=
  if isNull cs then .null
  else
    match bool? cs with
    | some value => .bool value
    | none =>
        match integer? cs with
        | some value => .integer value
        | none => if isZeroPadded cs then .text else (float? cs).getD .text

end ApiSurface.Document.PlainScalar
