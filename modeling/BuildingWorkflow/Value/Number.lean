import BuildingWorkflow.Fault
import BuildingWorkflow.Number.Reading

/-!
Numbers in values: floats and whole numbers as they are, texts when they read as a number. Truth
values are not numbers.
-/
namespace BuildingWorkflow

/-- What a whole number was rounded to, unless that is beyond the largest float. -/
def boundedFloat : Binary64 → Except Fault Binary64
  | .infinite _ => .error .integerTooLarge
  | x => .ok x

/-- A whole number as a float; whole numbers that round beyond the largest float have none. -/
def intToFloat (n : Int) : Except Fault Binary64 := boundedFloat (Binary64.ofInt n)

/-- The largest whole number that is not larger than a float. -/
def wholeFloor (x : Binary64) : Except Fault Int :=
  match x.floor with
  | .ok n => .ok n
  | .error .infinite => .error .wholeOfInfinity
  | .error .nan => .error .wholeOfNan

namespace Value

/-- The number that a value holds, if it is numeric. -/
def number? : Value → Except Fault (Option Binary64)
  | int n => (intToFloat n).map some
  | float x => .ok (some x)
  | text s => .ok (readNumber? s)
  | _ => .ok none

/-- Whole numbers and floats. -/
def isNumber : Value → Bool
  | int _ | float _ => true
  | _ => false

/-- A float as a value: as a whole number if it is one. -/
def ofFloat (x : Binary64) : Value :=
  match x.whole? with
  | some n => int n
  | none => float x

end Value

end BuildingWorkflow
