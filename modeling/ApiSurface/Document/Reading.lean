import ApiSurface.Document.Datum

/-!
# Reading documents

Readers for the parts of domain types: text, flags, numbers, variants, lists and records.  A
record is read member by member in the order of the text, so that the first defect decides the
error; a field that is still missing at the end comes last.
-/

namespace ApiSurface.Document

/-! ## Scalars -/

def Datum.text : Datum → Decoded String
  | .string value => .ok value
  | .plain text => .ok text
  | datum => datum.refuse "a string"

def Datum.flag (datum : Datum) : Decoded Bool :=
  match datum with
  | .bool value => .ok value
  | .plain text =>
      match PlainScalar.bool? text.toList with
      | some value => .ok value
      | none => datum.refuse "a boolean"
  | _ => datum.refuse "a boolean"

structure NaturalType where
  name : String
  bound : Nat
  deriving DecidableEq, Repr

def word32 : NaturalType := ⟨"u32", Nat.pow 2 32⟩

def word64 : NaturalType := ⟨"usize", Nat.pow 2 64⟩

def boundedNatural (type : NaturalType) (value : Int) : Decoded Nat :=
  if 0 ≤ value && value < type.bound then .ok value.toNat
  else .error (.invalidValue ("integer " ++ tick (Text.decimalInt value)) type.name)

def Datum.natural (type : NaturalType) (datum : Datum) : Decoded Nat :=
  match datum with
  | .number (.integer value) => boundedNatural type value
  | .plain text =>
      match PlainScalar.natural? text.toList with
      | some value => boundedNatural type value
      | none => datum.refuse type.name
  | _ => datum.refuse type.name

def Datum.optional {α : Type} (read : Datum → Decoded α) (datum : Datum) : Decoded (Option α) :=
  match datum with
  | .null => .ok none
  | .fragment ⟨.null, reading, _⟩ => .error (.fault reading)
  | .plain text =>
      if PlainScalar.isNull text.toList then .ok none else return some (← read datum)
  | _ => return some (← read datum)

/-! ## Variants -/

def namedVariant {α : Type} (variants : List (String × α)) (name : String) : Decoded α :=
  match variants.lookup name with
  | some value => .ok value
  | none => .error (.unknownVariant name (variants.map Prod.fst))

/-- Whether data stands for no content, which is null or, where a format has none, an empty
container. -/
def Datum.isVacant : Datum → Bool
  | .null => true
  | .list .toml .nil => true
  | .record .toml .nil => true
  | _ => false

def Members.close : Members → Decoded Unit
  | .nil => .ok ()
  | .fault reason => .error (.fault reason)
  | _ => .error (.fault .malformed)

/-- One of several named values, written as its name or as a member without content.  What
begins neither way is malformed, even if it breaks off. -/
def Datum.variant {α : Type} (variants : List (String × α)) : Datum → Decoded α
  | .string name => namedVariant variants name
  | .plain name => namedVariant variants name
  | .record _ (.cons name content rest) => do
      let value ← namedVariant variants name
      if content.isVacant then
        rest.close
        return value
      else
        content.refuse "unit"
  | .record _ (.noKey reading _) => .error (.fault reading)
  | .fragment ⟨.string, reading, _⟩ => .error (.fault reading)
  | .fault reason => .error (.fault reason)
  | _ => .error (.fault .malformed)

/-! ## Containers -/

def Items.readAll {α : Type} (read : Datum → Decoded α) : Items → Decoded (List α)
  | .nil => .ok []
  | .cons item rest => do
      let first ← read item
      let others ← rest.readAll read
      return first :: others
  | .fault reason => .error (.fault reason)

def Datum.listOf {α : Type} (read : Datum → Decoded α) (datum : Datum) : Decoded (List α) :=
  match datum with
  | .list _ items => items.readAll read
  | .plain text => if text.isEmpty then .ok [] else datum.refuse "a sequence"
  | _ => datum.refuse "a sequence"

def Datum.members (datum : Datum) : Decoded (List (String × Json)) :=
  match datum with
  | .record _ members => members.json []
  | .plain text => if text.isEmpty then .ok [] else datum.refuse "a map"
  | _ => datum.refuse "a map"

/-! ## Records -/

/-- The name and the fields of a record type; a closed one refuses other members. -/
structure RecordType where
  name : String
  fields : List String
  closed : Bool
  deriving DecidableEq, Repr

abbrev FieldReader (α : Type) := α → String → Datum → Decoded α

def Members.readFields {α : Type} (type : RecordType) (read : FieldReader α) :
    α → List String → Members → Decoded α
  | fields, _, .nil => .ok fields
  | _, _, .unreadable _ _ => .error (.fault .malformed)
  | _, _, .noKey reading _ => .error (.fault reading)
  | _, _, .fault reason => .error (.fault reason)
  | fields, seen, .cons key value rest =>
      if type.fields.contains key then
        if seen.contains key then
          .error (.duplicateField key)
        else do
          let fields ← read fields key value
          rest.readFields type read fields (key :: seen)
      else if type.closed then
        .error (.unknownField key type.fields)
      else do
        value.skip
        rest.readFields type read fields seen

/-- Reads items as the fields of the given names.  Further items break the record, unless they
are surplus that nobody looks at. -/
def Items.readFields {α : Type} (read : FieldReader α) (surplus : Bool) :
    α → List String → Items → Decoded α
  | fields, _, .nil => .ok fields
  | fields, [], rest =>
      match rest, surplus with
      | .fault reason, _ => .error (.fault reason)
      | _, true => .ok fields
      | _, false => .error (.fault .malformed)
  | _, _, .fault reason => .error (.fault reason)
  | fields, name :: names, .cons item rest => do
      let fields ← read fields name item
      rest.readFields read surplus fields names

/-- How a record was written, which decides the error for a field that is missing. -/
inductive RecordForm where
  | named
  | positional
  deriving DecidableEq, Repr

def RecordForm.missing (form : RecordForm) (type : RecordType) (field : String) : DecodeError :=
  match form with
  | .named => .missingField field
  | .positional => .invalidLength (type.fields.idxOf field) type.name type.fields.length

def Datum.readRecord {α : Type} (type : RecordType) (read : FieldReader α) (empty : α)
    (datum : Datum) : Decoded (RecordForm × α) :=
  match datum with
  | .record _ members => return (.named, ← members.readFields type read empty [])
  | .list .json items => return (.positional, ← items.readFields read false empty type.fields)
  | .list .toml items => return (.positional, ← items.readFields read true empty type.fields)
  | .plain text => if text.isEmpty then .ok (.named, empty) else datum.refuse type.name
  | _ => datum.refuse type.name

def required {α : Type} (type : RecordType) (form : RecordForm) (field : String) :
    Option α → Decoded α
  | some value => .ok value
  | none => .error (form.missing type field)

end ApiSurface.Document
