/-!
Tables as comma-separated records.

A record is a line that ends with a line feed. A field is put in quotes when it holds a comma, a
quote or a line feed, and when it is an empty field that stands alone; a quote inside quotes is
written twice.
-/
namespace BuildingWorkflow

namespace Csv

def quoteMark : Char := '"'

/-- Whether a field with this character is put in quotes. -/
def special (c : Char) : Bool := c == ',' || c == quoteMark || c == '\n'

def doubled : List Char → List Char
  | [] => []
  | c :: rest => if c = quoteMark then c :: c :: doubled rest else c :: doubled rest

def quotedField (field : List Char) : List Char := quoteMark :: doubled field ++ [quoteMark]

def fieldText (field : List Char) : List Char :=
  if field.any special then quotedField field else field

/-- The fields with commas between them. -/
def joined : List (List Char) → List Char
  | [] => []
  | [field] => fieldText field
  | field :: rest => fieldText field ++ ',' :: joined rest

def record (fields : List (List Char)) : List Char :=
  (match fields with
    | [[]] => quotedField []
    | fields => joined fields) ++ ['\n']

/-- The records of a table one after the other. -/
def table (records : List (List String)) : String :=
  String.ofList (records.flatMap fun fields => record (fields.map String.toList))

end Csv

end BuildingWorkflow
