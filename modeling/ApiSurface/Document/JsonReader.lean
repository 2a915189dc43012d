import ApiSurface.Document.Datum
import ApiSurface.Text.Pieces

/-!
# Reading JSON text

The strict JSON grammar.  The result is data with a fault where the text breaks off; what the
text holds before that place is kept, for a reader may refuse it first.

A number with a point or an exponent, or one that does not fit into 64 bits, is a double.  It is
read from its leading digits, as many as an unsigned 64-bit integer holds, by one multiplication
or division with a power of ten, each rounded; that is close to the numeral and not always the
nearest double.
-/

namespace ApiSurface.Document.JsonText

open ApiSurface.Text

abbrev Parsed (α : Type) := α × Option (List Char)

def isSpace (c : Char) : Bool :=
  c == ' ' || c == '\t' || c == '\n' || c == '\r'

def skipSpace (cs : List Char) : List Char :=
  cs.dropWhile isSpace

def faultAt : List Char → Fault
  | [] => .unfinished
  | _ => .malformed

def wordFault : List Char → List Char → Fault
  | w :: word, c :: cs => if w == c then wordFault word cs else .malformed
  | _, [] => .unfinished
  | [], _ => .malformed

def expectChar (c : Char) : List Char → Except Fault (List Char)
  | [] => .error .unfinished
  | first :: rest => if first == c then .ok rest else .error .malformed

/-! ## Strings -/

def simpleEscape? (c : Char) : Option Char :=
  match c with
  | '\x22' => some '\x22'
  | '\\' => some '\\'
  | '/' => some '/'
  | 'b' => some '\x08'
  | 'f' => some '\x0c'
  | 'n' => some '\n'
  | 'r' => some '\r'
  | 't' => some '\t'
  | _ => none

/-- The code unit of four hexadecimal digits.  The text ends too early if four bytes are not
left of it. -/
def readUnit (cs : List Char) : Except Fault (Nat × List Char) :=
  let quad := cs.take 4
  if byteLength quad < 4 then .error .unfinished
  else
    match if quad.length == 4 then readNumeral? 16 quad else none with
    | some unit => .ok (unit, cs.drop 4)
    | none => .error .malformed

def isHighSurrogate (unit : Nat) : Bool :=
  0xD800 ≤ unit && unit < 0xDC00

def isLowSurrogate (unit : Nat) : Bool :=
  0xDC00 ≤ unit && unit < 0xE000

def pairedChar (high low : Nat) : Char :=
  Char.ofNat (0x10000 + (high - 0xD800) * 0x400 + (low - 0xDC00))

/-- The character of a code unit, or of two that are a pair of surrogates. -/
def readUnits (cs : List Char) : Except Fault (Char × List Char) := do
  let (unit, rest) ← readUnit cs
  if isLowSurrogate unit then
    .error .malformed
  else if isHighSurrogate unit then
    let rest ← expectChar 'u' (← expectChar '\\' rest)
    let (low, rest) ← readUnit rest
    if isLowSurrogate low then return (pairedChar unit low, rest) else .error .malformed
  else
    return (Char.ofNat unit, rest)

def readString (unicode : List Char → Except Fault (Char × List Char)) :
    Nat → List Char → Except Fault (List Char × List Char)
  | 0, _ => .error .unfinished
  | _, [] => .error .unfinished
  | fuel + 1, c :: rest =>
      if c == '\x22' then
        .ok ([], rest)
      else if c.toNat < 32 then
        .error .malformed
      else do
        let (char, rest) ←
          if c == '\\' then
            match rest with
            | [] => .error .unfinished
            | 'u' :: digits => unicode digits
            | e :: rest =>
                match simpleEscape? e with
                | some char => .ok (char, rest)
                | none => .error .malformed
          else
            .ok (c, rest)
        let (text, rest) ← readString unicode fuel rest
        return (char :: text, rest)

/-- A string behind its opening quote.  Passing over it, its code units need no partners. -/
def stringAt (cs : List Char) : Datum × Option (List Char) :=
  let fuel := cs.length + 1
  let passed := readString (fun digits => (readUnit digits).map fun (unit, rest) =>
    (Char.ofNat unit, rest)) fuel cs
  match readString readUnits fuel cs, passed with
  | .ok (text, rest), _ => (.string (.ofList text), some rest)
  | .error _, .ok (_, rest) => (.unreadable .null, some rest)
  | .error reading, .error passing => (.fragment ⟨.string, reading, passing⟩, none)

/-! ## Numbers -/

structure Numeral where
  negative : Bool
  whole : List Char
  fraction : Option (List Char)
  exponent : Option (Bool × List Char)
  deriving DecidableEq, Repr

def digitsAt (cs : List Char) : Except Fault (List Char × List Char) :=
  let digits := cs.takeWhile Char.isDigit
  if digits.isEmpty then .error (faultAt cs) else .ok (digits, cs.drop digits.length)

def readWhole (cs : List Char) : Except Fault (List Char × List Char) :=
  match cs with
  | '0' :: rest =>
      if (rest.head?.map Char.isDigit).getD false then .error .malformed else .ok (['0'], rest)
  | _ => digitsAt cs

def readFraction (cs : List Char) : Except Fault (Option (List Char) × List Char) :=
  match cs with
  | '.' :: rest => do
      let (digits, rest) ← digitsAt rest
      return (some digits, rest)
  | _ => .ok (none, cs)

def readExponent (cs : List Char) : Except Fault (Option (Bool × List Char) × List Char) :=
  match cs with
  | e :: rest =>
      if e == 'e' || e == 'E' then do
        let (negative, rest) :=
          match rest with
          | '+' :: digits => (false, digits)
          | '-' :: digits => (true, digits)
          | digits => (false, digits)
        let (digits, rest) ← digitsAt rest
        return (some (negative, digits), rest)
      else
        .ok (none, cs)
  | [] => .ok (none, cs)

def readNumeral (cs : List Char) : Except Fault (Numeral × List Char) := do
  let (negative, cs) :=
    match cs with
    | '-' :: rest => (true, rest)
    | _ => (false, cs)
  let (whole, cs) ← readWhole cs
  let (fraction, cs) ← readFraction cs
  let (exponent, cs) ← readExponent cs
  return (⟨negative, whole, fraction, exponent⟩, cs)

/-- Digits up to the greatest unsigned 64-bit integer, and the digits that are left. -/
def leadingSignificand : Nat → List Char → Nat × List Char
  | value, [] => (value, [])
  | value, c :: rest =>
      let next := value * 10 + (c.toNat - '0'.toNat)
      if next < Nat.pow 2 64 then leadingSignificand next rest else (value, c :: rest)

/-- `value` times or over ten to a power, in steps that a double can hold. -/
def scaleByTen : Nat → Number.Binary64 → Int → Option Number.Binary64
  | 0, _, _ => none
  | fuel + 1, value, exponent =>
      match exponent with
      | .ofNat up =>
          if up ≤ 308 then (Number.Binary64.ofNat? (Nat.pow 10 up)).bind value.mul?
          else if value.isZero then some value
          else none
      | .negSucc down =>
          if down + 1 ≤ 308 then (Number.Binary64.ofNat? (Nat.pow 10 (down + 1))).bind value.div?
          else if value.isZero then some value
          else
            match (Number.Binary64.ofNat? (Nat.pow 10 308)).bind value.div? with
            | none => none
            | some value => scaleByTen fuel value (exponent + 308)

def exponentBound : Nat := Nat.pow 2 31

def Numeral.double? (numeral : Numeral) : Option Number.Binary64 :=
  let (significand, left) := leadingSignificand 0 numeral.whole
  let (significand, fractionDigits) :=
    match numeral.fraction with
    | none => (significand, 0)
    | some fraction =>
        let (significand, unread) := leadingSignificand significand fraction
        (significand, fraction.length - unread.length)
  let exponent : Int := (left.length : Int) - fractionDigits
  let signed (x : Number.Binary64) := { x with negative := numeral.negative }
  match numeral.exponent with
  | none => do
      let value ← Number.Binary64.ofNat? significand
      signed <$> scaleByTen (exponent.natAbs + 1) value exponent
  | some (negative, digits) =>
      let size := (valueAfter? 10 0 digits).getD 0
      if size ≥ exponentBound then
        if significand != 0 && !negative then none else some (signed Number.Binary64.zero)
      else do
        let value ← Number.Binary64.ofNat? significand
        let exponent := if negative then exponent - size else exponent + size
        if value.isZero then some (signed value)
        else if exponent < -1000 then some (signed Number.Binary64.zero)
        else signed <$> scaleByTen 8 value exponent

def Numeral.value? (numeral : Numeral) : Option Number :=
  if numeral.fraction.isNone && numeral.exponent.isNone then
    let size := (valueAfter? 10 0 numeral.whole).getD 0
    if numeral.negative then
      if size != 0 && Number.leastInteger ≤ -(size : Int) then some (.integer (-(size : Int)))
      else numeral.double?.map .double
    else if (size : Int) < Number.integerBound then some (.integer size)
    else numeral.double?.map .double
  else
    numeral.double?.map .double

/-! ## Values -/

def depthLimit : Nat := 128

def guardDepth (depth : Nat) (datum : Datum) : Datum :=
  if depth < depthLimit then datum else .unreadable datum

def wordAt (kind : FragmentKind) (word : List Char) (value : Datum) (cs : List Char) :
    Parsed Datum :=
  if word.isPrefixOf cs then (value, some (cs.drop word.length))
  else
    let reason := wordFault word cs
    (.fragment ⟨kind, reason, reason⟩, none)

/-- A number that breaks off is malformed to who passes over it. -/
def numberAt (cs : List Char) : Parsed Datum :=
  match readNumeral cs with
  | .error reason => (.fragment ⟨.other, reason, .malformed⟩, none)
  | .ok (numeral, rest) =>
      match numeral.value? with
      | some value => (.number value, some rest)
      | none => (.unreadable .null, some rest)

def scalarAt (cs : List Char) : Parsed Datum :=
  match cs with
  | 'n' :: _ => wordAt .null ['n', 'u', 'l', 'l'] .null cs
  | 't' :: _ => wordAt .other ['t', 'r', 'u', 'e'] (.bool true) cs
  | 'f' :: _ => wordAt .other ['f', 'a', 'l', 's', 'e'] (.bool false) cs
  | '\x22' :: rest => stringAt rest
  | c :: _ => if c == '-' || c.isDigit then numberAt cs else (.fault .malformed, none)
  | [] => (.fault .unfinished, none)

/-- A key, of which the text may be unreadable. -/
abbrev Key := Option String

def Key.member (key : Key) (value : Datum) (rest : Members) : Members :=
  match key with
  | some key => .cons key value rest
  | none => .unreadable value rest

/-- The key that stands here and what follows, or the faults of reading it and passing over it. -/
def keyAt (cs : List Char) : Except (Fault × Fault) (Key × List Char) :=
  match cs with
  | '\x22' :: rest =>
      match stringAt rest with
      | (.string key, some rest) => .ok (some key, rest)
      | (.fragment string, _) => .error (string.reading, string.passing)
      | (_, some rest) => .ok (none, rest)
      | (_, none) => .error (.malformed, .malformed)
  | _ => .error (faultAt cs, faultAt cs)

mutual

def readValue : Nat → Nat → List Char → Parsed Datum
  | 0, _, _ => (.fault .unfinished, none)
  | fuel + 1, depth, cs =>
      match skipSpace cs with
      | '[' :: rest =>
          match skipSpace rest with
          | ']' :: rest => (guardDepth (depth + 1) (.list .json .nil), some rest)
          | rest =>
              let (items, rest) := readItems fuel (depth + 1) rest
              (guardDepth (depth + 1) (.list .json items), rest)
      | '\x7b' :: rest =>
          match skipSpace rest with
          | '\x7d' :: rest => (guardDepth (depth + 1) (.record .json .nil), some rest)
          | rest =>
              let (members, rest) := readMembers fuel (depth + 1) rest
              (guardDepth (depth + 1) (.record .json members), rest)
      | cs => scalarAt cs

def readItems : Nat → Nat → List Char → Parsed Items
  | 0, _, _ => (.fault .unfinished, none)
  | fuel + 1, depth, cs =>
      match readValue fuel depth cs with
      | (item, none) => (.cons item .nil, none)
      | (item, some rest) =>
          match skipSpace rest with
          | ']' :: rest => (.cons item .nil, some rest)
          | ',' :: rest =>
              let (items, rest) := readItems fuel depth rest
              (.cons item items, rest)
          | rest => (.cons item (.fault (faultAt rest)), none)

def readMembers : Nat → Nat → List Char → Parsed Members
  | 0, _, _ => (.fault .unfinished, none)
  | fuel + 1, depth, cs =>
      match keyAt (skipSpace cs) with
      | .error (reading, passing) => (.noKey reading passing, none)
      | .ok (key, rest) =>
          match readMember fuel depth rest with
          | (value, none) => (key.member value .nil, none)
          | (value, some rest) =>
              match skipSpace rest with
              | '\x7d' :: rest => (key.member value .nil, some rest)
              | ',' :: rest =>
                  let (members, rest) := readMembers fuel depth rest
                  (key.member value members, rest)
              | rest => (key.member value (.fault (faultAt rest)), none)

def readMember : Nat → Nat → List Char → Parsed Datum
  | 0, _, _ => (.fault .unfinished, none)
  | fuel + 1, depth, cs =>
      match skipSpace cs with
      | ':' :: rest => readValue fuel depth rest
      | rest => (.fault (faultAt rest), none)

end

/-- The data of a text and the fault that stands behind it, if any. -/
def parse (text : String) : Datum × Option Fault :=
  let cs := text.toList
  let (datum, rest) := readValue (3 * cs.length + 3) 0 cs
  (datum, match rest with
    | none => none
    | some rest => if (skipSpace rest).isEmpty then none else some .malformed)

def decode {α : Type} (read : Datum → Decoded α) (text : String) : Decoded α := do
  let (datum, trailing) := parse text
  let value ← read datum
  match trailing with
  | some reason => .error (.fault reason)
  | none => .ok value

end ApiSurface.Document.JsonText
