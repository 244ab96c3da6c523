import BuildingWorkflow.OrderedMap
import BuildingWorkflow.Value.Basic

/-!
Equality of values by what they stand for.

A whole number, a float and a truth value are equal when they are the same number, NaN differs from
everything, and the order of a mapping's entries does not count. A search among values is less
strict: there copies of one NaN are equal.
-/
namespace BuildingWorkflow

namespace Value

/-- Equality of a whole number or truth value with any value. -/
def sameWhole (n : Int) : Value → Bool
  | float x => x.sameInt n
  | v => v.asInt? == some n

mutual

/-- Equality for a given equality of floats. -/
def sameBy (eq : Binary64 → Binary64 → Bool) : Value → Value → Bool
  | null, v => v.isNull
  | bool b, v => sameWhole (if b then 1 else 0) v
  | int n, v => sameWhole n v
  | float x, v =>
      match v with
      | float y => eq x y
      | _ => v.asInt?.elim false x.sameInt
  | text s, v =>
      match v with
      | text t => s == t
      | _ => false
  | list xs, v =>
      match v with
      | list ys => sameItemsBy eq xs ys
      | _ => false
  | map es, v =>
      match v with
      | map fs => es.length == fs.length && sameEntriesBy eq es fs
      | _ => false

def sameItemsBy (eq : Binary64 → Binary64 → Bool) : List Value → List Value → Bool
  | [], ys => ys.isEmpty
  | x :: xs, ys =>
      match ys with
      | y :: ys => sameBy eq x y && sameItemsBy eq xs ys
      | [] => false

/-- Whether every entry of the first list stands in the second with an equal value. -/
def sameEntriesBy (eq : Binary64 → Binary64 → Bool) :
    List (String × Value) → List (String × Value) → Bool
  | [], _ => true
  | (name, x) :: es, fs =>
      match fs.lookup name with
      | some y => sameBy eq x y && sameEntriesBy eq es fs
      | none => false

end

def same : Value → Value → Bool := sameBy Binary64.same

/-- Equality that also holds between copies of one NaN. -/
def sameOrCopy : Value → Value → Bool := sameBy Binary64.sameOrCopy

/-- Keeps the first of values that are equal or copies. -/
def distinct (values : List Value) : List Value :=
  values.foldl (fun seen v => if seen.any (sameOrCopy v) then seen else seen ++ [v]) []

end Value

/-- Equality of maps whose values are compared by a given equality; order does not count. -/
def OrderedMap.sameBy {α : Type u} (eq : α → α → Bool) (m m' : OrderedMap α) : Bool :=
  m.size == m'.size &&
    m.entries.all fun (name, x) => (m'.find? name).elim false (eq x)

end BuildingWorkflow
