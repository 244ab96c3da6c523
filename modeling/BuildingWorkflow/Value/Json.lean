import BuildingWorkflow.Number.Shortest
import BuildingWorkflow.Text.Quoted
import BuildingWorkflow.Value.Basic

/-!
Values as JSON texts.

Lists and mappings are written with one item a line, indented by two blanks for each level; empty
ones stay on their line. All characters stand for themselves but quotes, backslashes and control
characters. The three floats without a decimal are written as words.
-/
namespace BuildingWorkflow

namespace Json

/-- A control character by its letter, or by its code point. -/
def controlText (c : Char) : List Char :=
  if c = '\n' then ['n']
  else if c = '\r' then ['r']
  else if c = '\t' then ['t']
  else if c = '\x08' then ['b']
  else if c = '\x0c' then ['f']
  else 'u' :: hexDigits 4 c.toNat

def charText (c : Char) : List Char :=
  if c = '"' || c = '\\' then ['\\', c]
  else if c.toNat < 0x20 then '\\' :: controlText c
  else [c]

def stringText (s : String) : List Char := '"' :: s.toList.flatMap charText ++ ['"']

def floatText : Binary64 → List Char
  | .nan _ => "NaN".toList
  | .infinite s => if s then "-Infinity".toList else "Infinity".toList
  | x => x.text.toList

def newLine (depth : Nat) : List Char := '\n' :: List.replicate (2 * depth) ' '

/-- Items, each on a line of its own, between two brackets. -/
def block (opening closing : Char) (depth : Nat) : List (List Char) → List Char
  | [] => [opening, closing]
  | first :: rest =>
      opening :: newLine (depth + 1) ++ first ++
        rest.flatMap (fun item => ',' :: newLine (depth + 1) ++ item) ++ newLine depth ++ [closing]

mutual

def valueText (depth : Nat) : Value → List Char
  | .null => "null".toList
  | .bool b => if b then "true".toList else "false".toList
  | .int n => (intText n).toList
  | .float x => floatText x
  | .text s => stringText s
  | .list items => block '[' ']' depth (itemTexts (depth + 1) items)
  | .map entries => block '\x7b' '\x7d' depth (entryTexts (depth + 1) entries)

def itemTexts (depth : Nat) : List Value → List (List Char)
  | [] => []
  | v :: rest => valueText depth v :: itemTexts depth rest

def entryTexts (depth : Nat) : List (String × Value) → List (List Char)
  | [] => []
  | (name, v) :: rest =>
      (stringText name ++ ':' :: ' ' :: valueText depth v) :: entryTexts depth rest

end

end Json

def Value.json (v : Value) : String := String.ofList (Json.valueText 0 v)

end BuildingWorkflow
