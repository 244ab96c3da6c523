/-!
Why an option was refused, and where it stands.
-/
namespace BuildingWorkflow

/-- What is wrong with one option. -/
inductive OptionCause
  | missing
  | unknown
  | notText
  | emptyText
  | notNumber
  | unreadableNumber
  | notWhole
  | fraction
  | notFinite
  | tooManyDigits
  | unreadableWhole
  | notFlag
  | unreadableFlag
  | notAmong (choices : List String)
  | notMapping
  | notList
  | notRecord (name : String)
  | notAbove (bound : Nat)
  | below (bound : Nat)
  | above (bound : Nat)
deriving DecidableEq

/-- Names in single quotes, the last one after `or`. -/
def alternatives : List String → String
  | [] => ""
  | [a] => s!"'{a}'"
  | [a, b] => s!"'{a}' or '{b}'"
  | a :: rest => s!"'{a}', " ++ alternatives rest

def OptionCause.message : OptionCause → String
  | missing => "Field required"
  | unknown => "Extra inputs are not permitted"
  | notText => "Input should be a valid string"
  | emptyText => "String should have at least 1 character"
  | notNumber => "Input should be a valid number"
  | unreadableNumber => "Input should be a valid number, unable to parse string as a number"
  | notWhole => "Input should be a valid integer"
  | fraction => "Input should be a valid integer, got a number with a fractional part"
  | notFinite => "Input should be a finite number"
  | tooManyDigits => "Unable to parse input string as an integer, exceeded maximum size"
  | unreadableWhole => "Input should be a valid integer, unable to parse string as an integer"
  | notFlag => "Input should be a valid boolean"
  | unreadableFlag => "Input should be a valid boolean, unable to interpret input"
  | notAmong choices => "Input should be " ++ alternatives choices
  | notMapping => "Input should be a valid dictionary"
  | notList => "Input should be a valid list"
  | notRecord name => s!"Input should be a valid dictionary or instance of {name}"
  | notAbove bound => s!"Input should be greater than {bound}"
  | below bound => s!"Input should be greater than or equal to {bound}"
  | above bound => s!"Input should be less than or equal to {bound}"

/-- A refused option with the way to it from the outside. -/
structure OptionFault where
  place : List String
  cause : OptionCause
deriving DecidableEq

/-- The way to an option; a refused document as a whole goes by a name of its own. -/
def OptionFault.placeName (whole : String) (fault : OptionFault) : String :=
  if fault.place.isEmpty then whole
  else
    let name := String.intercalate "." fault.place
    if name = "" then whole else name

end BuildingWorkflow
