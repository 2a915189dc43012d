import ApiSurface.Document.Json
import ApiSurface.Document.PlainScalar
import ApiSurface.Text.Quoted

/-!
# Document data

What a text format hands to the readers of domain types: members in the order of the text, keys
repeated if the text repeats them, and a fault at the place where the text stops being well
formed.  A reader walks the data in that order, so it meets the first defect of either kind
first, a wrong value or the fault.
-/

namespace ApiSurface.Document

inductive DocumentFormat where
  | json
  | yaml
  | toml
  deriving DecidableEq, Repr

inductive Fault where
  | malformed
  | unfinished
  deriving DecidableEq, Repr

inductive FragmentKind where
  | string
  | null
  | other
  deriving DecidableEq, Repr

/-- A scalar that breaks off.  Who passes over it looks less closely than who reads it, and may
meet another fault. -/
structure Fragment where
  kind : FragmentKind
  reading : Fault
  passing : Fault
  deriving DecidableEq, Repr

mutual

inductive Datum where
  | null
  | bool (value : Bool)
  | number (value : Number)
  | string (value : String)
  /-- An unquoted scalar that its reader types. -/
  | plain (text : String)
  | list (format : DocumentFormat) (items : Items)
  | record (format : DocumentFormat) (members : Members)
  /-- Text without a readable value, such as a number out of range, that can be passed over. -/
  | unreadable (content : Datum)
  | fragment (scalar : Fragment)
  | fault (reason : Fault)

inductive Items where
  | nil
  | cons (item : Datum) (rest : Items)
  | fault (reason : Fault)

inductive Members where
  | nil
  | cons (key : String) (value : Datum) (rest : Members)
  /-- A member whose key cannot be read but passed over. -/
  | unreadable (value : Datum) (rest : Members)
  | noKey (reading passing : Fault)
  | fault (reason : Fault)

end

/-! ## Errors -/

inductive DecodeError where
  | fault (reason : Fault)
  | missingField (name : String)
  | duplicateField (name : String)
  | unknownField (name : String) (known : List String)
  | unknownVariant (name : String) (known : List String)
  | invalidType (found expected : String)
  | invalidValue (found expected : String)
  | invalidLength (count : Nat) (record : String) (size : Nat)
  deriving DecidableEq, Repr

def tick (name : String) : String :=
  "`" ++ name ++ "`"

def oneOf : List String → String
  | [] => "there are none"
  | [only] => "expected " ++ tick only
  | [first, second] => "expected " ++ tick first ++ " or " ++ tick second
  | names => "expected one of " ++ Text.join ", " (names.map tick)

def DecodeError.message : DecodeError → String
  | .fault .malformed => "malformed text"
  | .fault .unfinished => "unfinished text"
  | .missingField name => "missing field " ++ tick name
  | .duplicateField name => "duplicate field " ++ tick name
  | .unknownField name known => "unknown field " ++ tick name ++ ", " ++ oneOf known
  | .unknownVariant name known => "unknown variant " ++ tick name ++ ", " ++ oneOf known
  | .invalidType found expected => "invalid type: " ++ found ++ ", expected " ++ expected
  | .invalidValue found expected => "invalid value: " ++ found ++ ", expected " ++ expected
  | .invalidLength count record size =>
      "invalid length " ++ Text.decimal count ++ ", expected " ++ record ++ " with " ++
        Text.decimal size ++ (if size == 1 then " element" else " elements")

abbrev Decoded (α : Type) := Except DecodeError α

/-- What a reader makes of the data of a text that is all or nothing. -/
def decodeParsed {α : Type} (read : Datum → Decoded α) : Option Datum → Decoded α
  | none => .error (.fault .malformed)
  | some datum => read datum

def Datum.describe : Datum → Decoded String
  | .null => .ok "null"
  | .bool true => .ok "boolean `true`"
  | .bool false => .ok "boolean `false`"
  | .number (.integer value) => .ok ("integer " ++ tick (Text.decimalInt value))
  | .number value => .ok ("floating point " ++ tick value.text)
  | .string value => .ok ("string " ++ Text.quote value)
  | .plain text => .ok ("string " ++ Text.quote text)
  | .list _ _ => .ok "sequence"
  | .record _ _ => .ok "map"
  | .unreadable _ => .error (.fault .malformed)
  | .fragment scalar => .error (.fault scalar.reading)
  | .fault reason => .error (.fault reason)

def Datum.refuse {α : Type} (datum : Datum) (expected : String) : Decoded α := do
  let found ← datum.describe
  .error (.invalidType found expected)

/-! ## Passing over data -/

mutual

def Datum.skip : Datum → Decoded Unit
  | .list _ items => items.skip
  | .record _ members => members.skip
  | .unreadable content => content.skip
  | .fragment scalar => .error (.fault scalar.passing)
  | .fault reason => .error (.fault reason)
  | _ => .ok ()

def Items.skip : Items → Decoded Unit
  | .nil => .ok ()
  | .cons item rest => do
      item.skip
      rest.skip
  | .fault reason => .error (.fault reason)

def Members.skip : Members → Decoded Unit
  | .nil => .ok ()
  | .cons _ value rest | .unreadable value rest => do
      value.skip
      rest.skip
  | .noKey _ passing => .error (.fault passing)
  | .fault reason => .error (.fault reason)

end

/-! ## Values of any type -/

def plainJson (text : String) : Decoded Json :=
  match PlainScalar.resolve text.toList with
  | .null => .ok .null
  | .bool value => .ok (.bool value)
  | .integer value =>
      if Number.fitsInteger value then .ok (.number (.integer value))
      else .error (.invalidType ("integer " ++ tick (Text.decimalInt value)) "a JSON value")
  | .double value => .ok (.number (.double value))
  | .notFinite => .ok .null
  | .text => .ok (.string text)

mutual

def Datum.json : Datum → Decoded Json
  | .null => .ok .null
  | .bool value => .ok (.bool value)
  | .number value => .ok (.number value)
  | .string value => .ok (.string value)
  | .plain text => plainJson text
  | .list _ items => return .array (← items.json)
  | .record _ members => return .object (← members.json [])
  | .unreadable _ => .error (.fault .malformed)
  | .fragment scalar => .error (.fault scalar.reading)
  | .fault reason => .error (.fault reason)

def Items.json : Items → Decoded (List Json)
  | .nil => .ok []
  | .cons item rest => do
      let first ← item.json
      let others ← rest.json
      return first :: others
  | .fault reason => .error (.fault reason)

def Members.json (sorted : List (String × Json)) : Members → Decoded (List (String × Json))
  | .nil => .ok sorted
  | .cons key value rest => do
      let value ← value.json
      rest.json (Json.insertMember key value sorted)
  | .unreadable _ _ => .error (.fault .malformed)
  | .noKey reading _ => .error (.fault reading)
  | .fault reason => .error (.fault reason)

end

mutual

def Datum.ofJson : Json → Datum
  | .null => .null
  | .bool value => .bool value
  | .number value => .number value
  | .string value => .string value
  | .array items => .list .json (Items.ofJson items)
  | .object members => .record .json (Members.ofJson members)

def Items.ofJson : List Json → Items
  | [] => .nil
  | item :: items => .cons (Datum.ofJson item) (Items.ofJson items)

def Members.ofJson : List (String × Json) → Members
  | [] => .nil
  | (key, value) :: members => .cons key (Datum.ofJson value) (Members.ofJson members)

end

end ApiSurface.Document
