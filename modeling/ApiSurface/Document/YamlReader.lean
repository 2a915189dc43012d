import ApiSurface.Document.Datum
import ApiSurface.Document.Yaml.Token

/-!
# Reading YAML text

Block and flow collections of scalars, in at most one document.  Anchors, tags, directives and
block scalars are refused.  A reader gives the data of a node and the tokens that follow.
-/

namespace ApiSurface.Document.YamlText

/-! ## Nodes -/

def depthLimit : Nat := 128

def guardDepth (depth : Nat) (datum : Datum) : Datum :=
  if depth ≤ depthLimit then datum else .unreadable datum

def emptyNode : Datum :=
  .plain ""

def member (key value : Datum) (rest : Members) : Members :=
  match key with
  | .string text => .cons text value rest
  | .plain text => .cons text value rest
  | _ => .unreadable value rest

/-- The tokens of an item in a block before which nothing is written, and of a key or a value;
an item of a compact sequence has both around it. -/
def itemEnds : List Token := [.entry, .blockEnd]

def memberEnds : List Token := [.key, .value, .blockEnd]

def isNext (ends : List Token) (tokens : List Token) : Bool :=
  tokens.head?.any ends.contains

inductive Place where
  | flow
  | block
  | member
  deriving DecidableEq, Repr

mutual

def readNode : Nat → Nat → Place → List Token → Option (Datum × List Token)
  | 0, _, _, _ => none
  | fuel + 1, depth, place, tokens =>
      let list := fun items => guardDepth (depth + 1) (.list .yaml items)
      let record := fun members => guardDepth (depth + 1) (.record .yaml members)
      match tokens, place with
      | .scalar true text :: rest, _ => some (.string text, rest)
      | .scalar false text :: rest, _ => some (.plain text, rest)
      | .flowSequence :: rest, _ => do
          let (items, rest) ← flowItems fuel (depth + 1) true rest
          return (list items, rest)
      | .flowMapping :: rest, _ => do
          let (members, rest) ← flowMembers fuel (depth + 1) true rest
          return (record members, rest)
      | _, .flow => none
      | .blockSequence :: rest, _ => do
          let (items, rest) ← blockItems fuel (depth + 1) rest
          return (list items, rest)
      | .blockMapping :: rest, _ => do
          let (members, rest) ← blockMembers fuel (depth + 1) rest
          return (record members, rest)
      | .entry :: _, .member => do
          let (items, rest) ← compactItems fuel (depth + 1) tokens
          return (list items, rest)
      | _, _ => none

def readPart : Nat → Nat → Place → List Token → List Token → Option (Datum × List Token)
  | 0, _, _, _, _ => none
  | fuel + 1, depth, place, ends, tokens =>
      if isNext ends tokens then some (emptyNode, tokens)
      else readNode fuel depth place tokens

/-- Reads a colon and the value behind it, both of which may be left out. -/
def readValue : Nat → Nat → Place → List Token → List Token → Option (Datum × List Token)
  | 0, _, _, _, _ => none
  | fuel + 1, depth, place, ends, tokens =>
      match tokens with
      | .value :: rest => readPart fuel depth place ends rest
      | _ => some (emptyNode, tokens)

def blockItems : Nat → Nat → List Token → Option (Items × List Token)
  | 0, _, _ => none
  | fuel + 1, depth, tokens =>
      match tokens with
      | .entry :: rest => do
          let (item, rest) ← readPart fuel depth .block itemEnds rest
          let (items, rest) ← blockItems fuel depth rest
          return (.cons item items, rest)
      | .blockEnd :: rest => some (.nil, rest)
      | _ => none

def compactItems : Nat → Nat → List Token → Option (Items × List Token)
  | 0, _, _ => none
  | fuel + 1, depth, tokens =>
      match tokens with
      | .entry :: rest => do
          let (item, rest) ← readPart fuel depth .block (itemEnds ++ memberEnds) rest
          let (items, rest) ← compactItems fuel depth rest
          return (.cons item items, rest)
      | _ => some (.nil, tokens)

def blockMembers : Nat → Nat → List Token → Option (Members × List Token)
  | 0, _, _ => none
  | fuel + 1, depth, tokens =>
      match tokens with
      | .key :: rest => do
          let (key, rest) ← readPart fuel depth .member memberEnds rest
          let (value, rest) ← readValue fuel depth .member memberEnds rest
          let (members, rest) ← blockMembers fuel depth rest
          return (member key value members, rest)
      | .blockEnd :: rest => some (.nil, rest)
      | _ => none

/-- The items up to the closing bracket; a key makes an item a mapping of one member. -/
def flowItems : Nat → Nat → Bool → List Token → Option (Items × List Token)
  | 0, _, _, _ => none
  | fuel + 1, depth, isFirst, tokens => do
      match tokens, isFirst with
      | .flowSequenceEnd :: rest, _ => return (.nil, rest)
      | .comma :: rest, false => flowItemsAt fuel depth rest
      | _, false => none
      | _, true => flowItemsAt fuel depth tokens

def flowItemsAt : Nat → Nat → List Token → Option (Items × List Token)
  | 0, _, _ => none
  | fuel + 1, depth, tokens => do
      match tokens with
      | .flowSequenceEnd :: rest => return (.nil, rest)
      | .key :: rest => do
          let (key, rest) ← pairKey fuel (depth + 1) rest
          let (value, rest) ←
            readValue fuel (depth + 1) .flow [.comma, .flowSequenceEnd] rest
          let item := guardDepth (depth + 1) (.record .yaml (member key value .nil))
          let (items, rest) ← flowItems fuel depth false rest
          return (.cons item items, rest)
      | _ => do
          let (item, rest) ← readNode fuel depth .flow tokens
          let (items, rest) ← flowItems fuel depth false rest
          return (.cons item items, rest)

/-- The key of a single member.  If it is left out, the token in its place is lost. -/
def pairKey : Nat → Nat → List Token → Option (Datum × List Token)
  | 0, _, _ => none
  | fuel + 1, depth, tokens =>
      if isNext [.value, .comma, .flowSequenceEnd] tokens then some (emptyNode, tokens.drop 1)
      else readNode fuel depth .flow tokens

def flowMembers : Nat → Nat → Bool → List Token → Option (Members × List Token)
  | 0, _, _, _ => none
  | fuel + 1, depth, isFirst, tokens => do
      match tokens, isFirst with
      | .flowMappingEnd :: rest, _ => return (.nil, rest)
      | .comma :: rest, false => flowMembersAt fuel depth rest
      | _, false => none
      | _, true => flowMembersAt fuel depth tokens

def flowMembersAt : Nat → Nat → List Token → Option (Members × List Token)
  | 0, _, _ => none
  | fuel + 1, depth, tokens => do
      match tokens with
      | .flowMappingEnd :: rest => return (.nil, rest)
      | .key :: rest => do
          let (key, rest) ←
            readPart fuel depth .flow [.value, .comma, .flowMappingEnd] rest
          let (value, rest) ← readValue fuel depth .flow [.comma, .flowMappingEnd] rest
          let (members, rest) ← flowMembers fuel depth false rest
          return (member key value members, rest)
      | _ => do
          let (key, rest) ← readNode fuel depth .flow tokens
          let (members, rest) ← flowMembers fuel depth false rest
          return (member key emptyNode members, rest)

end

/-! ## Documents -/

def readDocument (tokens : List Token) : Option (Datum × List Token) :=
  let fuel := 4 * tokens.length + 4
  match tokens with
  | [] => some (emptyNode, [])
  | .documentStart :: rest =>
      if rest.isEmpty || isNext [.documentStart, .documentEnd] rest then some (emptyNode, rest)
      else readNode fuel 0 .block rest
  | _ => readNode fuel 0 .block tokens

/-- The data of a whole text.  Nothing but marks for its end may follow a document. -/
def parse? (text : String) : Option Datum := do
  let (datum, rest) ← readDocument (← tokens? text.toList)
  if rest.all (· == .documentEnd) then some datum else none

end ApiSurface.Document.YamlText
