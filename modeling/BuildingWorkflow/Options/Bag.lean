import BuildingWorkflow.Options.Scalar
import BuildingWorkflow.Text.Parts

/-!
Bags of named options.

An option goes by one or more spellings; the first spelling that the bag has is read, and a key of
the bag that is not read is refused. All faults of a bag are collected: those of the options in
their own order, then the refused keys in the order of the bag.
-/
namespace BuildingWorkflow

abbrev Bag := List (String × Value)

/-- A reading that collects faults instead of stopping at the first. -/
inductive Reading (α : Type)
  | ok (a : α)
  | refused (faults : List OptionFault)

namespace Reading

variable {α β : Type}

def map (f : α → β) : Reading α → Reading β
  | ok a => ok (f a)
  | refused faults => refused faults

/-- Both readings, with the faults of both. -/
def apply (f : Reading (α → β)) (x : Reading α) : Reading β :=
  match f, x with
  | ok f, ok a => ok (f a)
  | ok _, refused faults => refused faults
  | refused faults, ok _ => refused faults
  | refused faults, refused more => refused (faults ++ more)

instance : Applicative Reading where
  pure := ok
  seq f x := apply f (x ())
  map := map

/-- Places the faults of a reading under a key. -/
def under (key : String) : Reading α → Reading α
  | ok a => ok a
  | refused faults => refused (faults.map fun fault => { fault with place := key :: fault.place })

def ofScalar (read : Scalar.Reader α) (v : Value) : Reading α :=
  match read v with
  | .ok a => ok a
  | .error cause => refused [⟨[], cause⟩]

/-- The reading of every item of a list, each under its position. -/
def items (read : Value → Reading α) (i : Nat) : List Value → Reading (List α)
  | [] => ok []
  | v :: rest => (List.cons <$> (read v).under (toString i)) <*> items read (i + 1) rest

def toExcept : Reading α → Except (List OptionFault) α
  | ok a => .ok a
  | refused faults => .error faults

end Reading

/-- A name of words joined by underscores, written with capitals instead. -/
def camelCase (name : String) : String :=
  let words := cutAt '_' name.toList
  String.ofList (words.headD [] ++ (words.drop 1).flatMap fun
    | [] => []
    | c :: rest => c.toUpper :: rest)

/-- The two spellings of an option. -/
def spellings (name : String) : List String := [camelCase name, name]

/-- The first of some spellings that a bag has, with its value. -/
def spelled? (bag : Bag) (keys : List String) : Option (String × Value) :=
  keys.findSome? fun key => (bag.lookup key).map (key, ·)

/-- An option read by its spellings; an absent one takes a default. -/
def optionAt {α : Type} (bag : Bag) (keys : List String) (default : α) (read : Value → Reading α) :
    Reading α :=
  match spelled? bag keys with
  | some (key, v) => (read v).under key
  | none => .ok default

/-- An option that has to be there. -/
def requiredAt {α : Type} (bag : Bag) (keys : List String) (read : Value → Reading α) : Reading α :=
  match spelled? bag keys with
  | some (key, v) => (read v).under key
  | none => .refused [⟨[keys.headD ""], .missing⟩]

/-- An option under the two spellings of its name. -/
def namedOption {α : Type} (bag : Bag) (name : String) (default : α) (read : Scalar.Reader α) :
    Reading α :=
  optionAt bag (spellings name) default (.ofScalar read)

/-- The keys of a bag that no option reads. -/
def unreadKeys (bag : Bag) (options : List (List String)) : List String :=
  let read := options.filterMap fun keys => (spelled? bag keys).map Prod.fst
  (bag.map Prod.fst).filter fun key => !read.contains key

/-- A reading of a bag that refuses the keys that no option reads. -/
def closed {α : Type} (bag : Bag) (options : List (List String)) (reading : Reading α) :
    Reading α :=
  match unreadKeys bag options with
  | [] => reading
  | keys => Reading.apply (reading.map fun a _ => a)
      (.refused (keys.map fun key => ⟨[key], .unknown⟩) : Reading Unit)

end BuildingWorkflow
