/-!
# Runs of code points

A character property is a list of runs `first, first + step, …, last`, in increasing order; a
case mapping to one character is such a run with the distance to the image.
-/

namespace ApiSurface.Text

structure CodeRun where
  first : Nat
  last : Nat
  step : Nat
  deriving DecidableEq, Repr

def CodeRun.contains (run : CodeRun) (code : Nat) : Bool :=
  run.first ≤ code && code ≤ run.last && (code - run.first) % run.step == 0

def inRuns (runs : List CodeRun) (c : Char) : Bool :=
  runs.any (·.contains c.toNat)

structure CodeShift where
  first : Nat
  last : Nat
  step : Nat
  shift : Int
  deriving DecidableEq, Repr

def CodeShift.shifted? (run : CodeShift) (code : Nat) : Option Nat :=
  if (CodeRun.mk run.first run.last run.step).contains code then
    some (code + run.shift).toNat
  else
    none

/-- The image of a character under the first run that holds it. -/
def shiftedBy (runs : List CodeShift) (c : Char) : Char :=
  match runs.findSome? (·.shifted? c.toNat) with
  | some code => Char.ofNat code
  | none => c

end ApiSurface.Text
