import BuildingWorkflow.Number.Shortest
import BuildingWorkflow.Text.Quoted
import BuildingWorkflow.Value.Basic

/-!
Values as texts.

A text stands for itself at the top and is quoted inside a list or a mapping, and wherever a message
shows it as a literal.
-/
namespace BuildingWorkflow

/-- Texts with a comma and a blank between them. -/
def commaSeparated (parts : List String) : String := String.intercalate ", " parts

def boolText (b : Bool) : String := if b then "True" else "False"

/-- Puts a text between an opening and a closing brace. -/
def inBraces (s : String) : String := "\x7b" ++ s ++ "\x7d"

namespace Value

mutual

/-- A value as a literal. -/
def literal : Value → String
  | null => "None"
  | bool b => boolText b
  | int n => intText n
  | float x => x.text
  | text s => quoted s
  | list items => "[" ++ commaSeparated (literals items) ++ "]"
  | map entries => inBraces (commaSeparated (entryLiterals entries))

def literals : List Value → List String
  | [] => []
  | v :: vs => literal v :: literals vs

def entryLiterals : List (String × Value) → List String
  | [] => []
  | (name, v) :: rest => (quoted name ++ ": " ++ literal v) :: entryLiterals rest

end

/-- A value as text: a text as it is, all else as a literal. -/
def display : Value → String
  | text s => s
  | v => literal v

end Value

end BuildingWorkflow
