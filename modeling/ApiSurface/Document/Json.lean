import ApiSurface.Number.Basic
import ApiSurface.Text.Pieces

/-!
# JSON values

A JSON value with its object members in an order.  Objects that are read keep their keys sorted
and distinct, see `insertMember`; objects that are written list their members as they are.
-/

namespace ApiSurface

inductive Json where
  | null
  | bool (value : Bool)
  | number (value : Number)
  | string (value : String)
  | array (items : List Json)
  | object (members : List (String × Json))
  deriving Repr, BEq, Inhabited

namespace Json

def nat (value : Nat) : Json :=
  .number (.integer value)

def optional {α : Type} (write : α → Json) : Option α → Json
  | none => .null
  | some value => write value

def strings (values : List String) : Json :=
  .array (values.map .string)

def present (name : String) : Option Json → List (String × Json)
  | none => []
  | some value => [(name, value)]

/-! ## Members -/

/-- Puts a member at its sorted place; a member of the same key is replaced. -/
def insertMember (key : String) (value : Json) :
    List (String × Json) → List (String × Json)
  | [] => [(key, value)]
  | (other, old) :: rest =>
      if key == other then (key, value) :: rest
      else if key < other then (key, value) :: (other, old) :: rest
      else (other, old) :: insertMember key value rest

def member? (key : String) : Json → Option Json
  | .object members => members.lookup key
  | _ => none

/-! ## Text -/

def escapedChar (c : Char) : List Char :=
  match c with
  | '\x22' => ['\\', '\x22']
  | '\\' => ['\\', '\\']
  | '\x08' => ['\\', 'b']
  | '\t' => ['\\', 't']
  | '\n' => ['\\', 'n']
  | '\x0c' => ['\\', 'f']
  | '\r' => ['\\', 'r']
  | c =>
      if c.toNat < 32 then
        ['\\', 'u', '0', '0', Text.digitChar (c.toNat / 16), Text.digitChar (c.toNat % 16)]
      else
        [c]

def stringText (value : String) : String :=
  .ofList ('\x22' :: value.toList.flatMap escapedChar ++ ['\x22'])

/-- How containers are laid out: on one line, or one item a line behind an indentation. -/
structure Layout where
  before : Nat → String
  gap : String

def compact : Layout :=
  ⟨fun _ => "", ""⟩

def pretty : Layout :=
  ⟨fun depth => "\n" ++ Text.repeatText depth "  ", " "⟩

def wrapItems (layout : Layout) (depth : Nat) (opening closing : String)
    (items : List String) : String :=
  if items.isEmpty then
    opening ++ closing
  else
    let inner := layout.before (depth + 1)
    opening ++ inner ++ Text.join ("," ++ inner) items ++ layout.before depth ++ closing

mutual

def render (layout : Layout) (depth : Nat) : Json → String
  | .null => "null"
  | .bool true => "true"
  | .bool false => "false"
  | .number value => value.text
  | .string value => stringText value
  | .array items => wrapItems layout depth "[" "]" (renderItems layout (depth + 1) items)
  | .object members =>
      wrapItems layout depth "\x7b" "\x7d" (renderMembers layout (depth + 1) members)

def renderItems (layout : Layout) (depth : Nat) : List Json → List String
  | [] => []
  | item :: items => render layout depth item :: renderItems layout depth items

def renderMembers (layout : Layout) (depth : Nat) : List (String × Json) → List String
  | [] => []
  | (key, value) :: members =>
      (stringText key ++ ":" ++ layout.gap ++ render layout depth value) ::
        renderMembers layout depth members

end

def text (value : Json) : String :=
  value.render compact 0

def prettyText (value : Json) : String :=
  value.render pretty 0

end Json

end ApiSurface
