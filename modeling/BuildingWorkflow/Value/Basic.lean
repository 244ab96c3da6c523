import BuildingWorkflow.Number.Binary64

/-!
Values of properties, options and results.

Building models and option bags carry values of any shape, so they share one dynamic type. Whole
numbers are unbounded and differ from floats; a mapping keeps the order of its entries.
-/
namespace BuildingWorkflow

inductive Value
  | null
  | bool (b : Bool)
  | int (n : Int)
  | float (x : Binary64)
  | text (s : String)
  | list (items : List Value)
  | map (entries : List (String × Value))

namespace Value

instance : Inhabited Value := ⟨null⟩

def isNull : Value → Bool
  | null => true
  | _ => false

/-- False for null, false, zero, and empty texts, lists and mappings; true for all else. -/
def truthy : Value → Bool
  | null => false
  | bool b => b
  | int n => n != 0
  | float x => !x.isZero
  | text s => s != ""
  | list items => !items.isEmpty
  | map entries => !entries.isEmpty

/-- Whether a value says anything at all: null and the empty text do not. -/
def present : Value → Bool
  | null => false
  | text s => s != ""
  | _ => true

/-- A value that is a new NaN gets a label. -/
def labelled (label : String) : Value → Value
  | float x => float (x.labelled label)
  | v => v

/-- The whole number that a whole number or a truth value counts as. -/
def asInt? : Value → Option Int
  | bool b => some (if b then 1 else 0)
  | int n => some n
  | _ => none

end Value

end BuildingWorkflow
