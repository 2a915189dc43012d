import ApiSurface.Logging.Event
import ApiSurface.Logging.ValuePattern
import ApiSurface.Text.Blank
import ApiSurface.Text.Digits
import ApiSurface.Text.Pieces
import ApiSurface.Text.Word

/-!
# Log filters

A directive lets events of some origin through, up to a level.  A filter consists of directives,
and its maximum is the most that any of them lets through.
-/

namespace ApiSurface

/-! ## Thresholds -/

inductive Threshold where
  | off
  | upTo (level : LogLevel)
  deriving DecidableEq, Repr

namespace Threshold

def all : List Threshold :=
  .off :: [.error, .warn, .info, .debug, .trace].map .upTo

def rank (threshold : Threshold) : Nat :=
  all.idxOf threshold

def name : Threshold → String
  | .off => "off"
  | .upTo level => level.name

def max (first second : Threshold) : Threshold :=
  if first.rank < second.rank then second else first

/-- Reads a number or, in letters of any case, a name. -/
def parse? (text : String) : Option Threshold :=
  match (Text.readNatural? text.toList).bind fun number => all[number]? with
  | some threshold => some threshold
  | none => all.find? fun threshold => Text.equalsIgnoringCase threshold.name text

end Threshold

/-! ## Directives -/

structure Directive where
  threshold : Threshold
  testsValue : Bool
  deriving DecidableEq, Repr

namespace Directive

def everything : Threshold :=
  .upTo .trace

def threshold? (level : List Char) : Option Threshold :=
  if level.isEmpty then some everything else Threshold.parse? (.ofList level)

def startsTarget (c : Char) : Bool :=
  Text.isAlphanumeric c || c == '-' || c == ':' || c == '_'

/-- Reads a directive: a level alone, a target alone, or a target, the name of a span in
brackets, behind it a field in braces, or several of them, with or without a level.  Parts are
found in the text without the blanks around it and are then taken from the same places of the
whole text. -/
def parse? (text : String) : Option Directive :=
  let whole := text.toList
  let trimmed := Text.trimChars whole
  let placeOf := fun (rest : List Char) => whole.drop (trimmed.length - rest.length)
  let close := fun (testsValue : Bool) (rest : List Char) =>
    match rest with
    | [] => some ⟨everything, testsValue⟩
    | '=' :: level => (threshold? (placeOf level)).map fun threshold => ⟨threshold, testsValue⟩
    | _ => none
  let target := trimmed.takeWhile fun c => c != '=' && c != '['
  match trimmed.head?.any (fun c => c == '[' || startsTarget c), trimmed.drop target.length with
  | false, _ => none
  | true, [] => some ⟨(Threshold.parse? text).getD everything, false⟩
  | true, '[' :: rest =>
      match rest.dropWhile fun c => c != ']' && c != '\x7b' with
      | ']' :: rest => close false rest
      | '\x7b' :: rest =>
          let field := rest.takeWhile (· != '\x7d')
          match field, rest.drop field.length with
          | _ :: _, '\x7d' :: ']' :: after =>
              match Text.splitAt (· == '=') ((placeOf rest).take field.length) with
              | _ :: value :: _ => if ValuePattern.isValid value then close true after else none
              | _ => close false after
          | _, _ => none
      | _ => none
  | true, rest => close false rest

end Directive

/-! ## Filters -/

structure LogFilter where
  directives : List Directive
  rejected : List String
  deriving DecidableEq, Repr

namespace LogFilter

def ofLevel (level : LogLevel) : LogFilter :=
  ⟨[⟨.upTo level, false⟩], []⟩

/-- The most that a filter may let through.  What depends on the value of a field cannot be
known before and may be everything. -/
def maximum (filter : LogFilter) : Threshold :=
  if filter.directives.any Directive.testsValue then Directive.everything
  else (filter.directives.map Directive.threshold).foldl Threshold.max .off

def ofText? (text : String) : Option LogFilter := do
  let pieces := (Text.split ',' text).filter fun piece => !piece.isEmpty
  return ⟨← pieces.mapM Directive.parse?, []⟩

def add (filter : LogFilter) (text : String) : LogFilter :=
  match Directive.parse? text with
  | some directive => { filter with directives := filter.directives ++ [directive] }
  | none => { filter with rejected := filter.rejected ++ [text] }

def addAll (filter : LogFilter) (text : String) : LogFilter :=
  let pieces := (Text.split ',' text).map Text.trim
  (pieces.filter fun piece => !piece.isEmpty).foldl add filter

def warnings (filter : LogFilter) : String :=
  Text.concat (filter.rejected.map fun directive =>
    "Warning: Invalid log filter directive: " ++ directive ++ "\n")

end LogFilter

end ApiSurface
