/-!
# Numerals

Natural numbers and integers as numerals in a base of at most sixteen, and back.
-/

namespace ApiSurface.Text

/-! ## Writing -/

def digitChar (digit : Nat) : Char :=
  if digit < 10 then Char.ofNat ('0'.toNat + digit) else Char.ofNat ('a'.toNat + (digit - 10))

def digitsBefore (base : Nat) : Nat → Nat → List Char → List Char
  | 0, _, written => written
  | fuel + 1, value, written =>
      let written := digitChar (value % base) :: written
      if value < base then written else digitsBefore base fuel (value / base) written

def numeral (base value : Nat) : List Char :=
  digitsBefore base (value + 1).log2.succ value []

def decimal (value : Nat) : String :=
  .ofList (numeral 10 value)

def decimalInt : Int → String
  | .ofNat value => decimal value
  | .negSucc value => "-" ++ decimal (value + 1)

/-! ## Reading -/

def digitValue? (base : Nat) (c : Char) : Option Nat :=
  let value? :=
    if c.isDigit then some (c.toNat - '0'.toNat)
    else if 'a' ≤ c && c ≤ 'f' then some (c.toNat - 'a'.toNat + 10)
    else if 'A' ≤ c && c ≤ 'F' then some (c.toNat - 'A'.toNat + 10)
    else none
  value?.filter (· < base)

def valueAfter? (base : Nat) : Nat → List Char → Option Nat
  | value, [] => some value
  | value, c :: rest =>
      match digitValue? base c with
      | some digit => valueAfter? base (value * base + digit) rest
      | none => none

def readNumeral? (base : Nat) : List Char → Option Nat
  | [] => none
  | cs => valueAfter? base 0 cs

/-- The character that so many hexadecimal digits spell, and what follows them. -/
def readCodePoint? (count : Nat) (cs : List Char) : Option (Char × List Char) := do
  let digits := cs.take count
  if digits.length == count then
    let code ← readNumeral? 16 digits
    if (Char.ofNat code).toNat == code then some (Char.ofNat code, cs.drop count) else none
  else
    none

/-- Reads a decimal number with an optional plus sign. -/
def readNatural? : List Char → Option Nat
  | '+' :: rest => readNumeral? 10 rest
  | cs => readNumeral? 10 cs

end ApiSurface.Text
