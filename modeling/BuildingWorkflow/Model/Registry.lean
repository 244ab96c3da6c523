import BuildingWorkflow.Fault
import BuildingWorkflow.Model.Basic

/-!
The models that are loaded, by name.

Registering a model makes it the latest one. Removing the latest one makes the last remaining entry
the latest; registering a name again keeps the entry's place.
-/
namespace BuildingWorkflow

structure Registry where
  models : OrderedMap Model
  latest : Option String

namespace Registry

def empty : Registry := ⟨.empty, none⟩

/-- Adds or replaces a model. -/
def register (r : Registry) (m : Model) : Registry := ⟨r.models.insert m.id m, some m.id⟩

def ofList (models : List Model) : Registry := models.foldl register empty

/-- The model of a name, or the latest one when no name is given. -/
def get (r : Registry) (name : Option String) : Except Fault Model :=
  let key := (name.filter (· != "")).or r.latest
  match key.bind r.models.find? with
  | some m => .ok m
  | none => .error (.modelNotFound name)

/-- Drops a model; whether there was one of that name. -/
def remove (r : Registry) (name : String) : Bool × Registry :=
  let rest := r.models.erase name
  (r.models.contains name, ⟨rest, if r.latest = some name then rest.lastKey? else r.latest⟩)

def contains (r : Registry) (name : String) : Bool := r.models.contains name

def size (r : Registry) : Nat := r.models.size

def summaries (r : Registry) : Value := .list (r.models.values.map Model.summary)

/-- What is loaded: the number of models, the latest one and their headers. -/
def overview (r : Registry) : Value :=
  .map [("total", .int r.size), ("latest", r.latest.elim .null .text), ("models", r.summaries)]

end Registry

end BuildingWorkflow
