import BuildingWorkflow.Text.Case
import BuildingWorkflow.Text.PrintableTable

/-!
Texts in quotes, as messages and nested values show them.

Single quotes stand around the text unless it holds a single quote and no double quote. Inside, the
quote in use and the backslash are escaped, and characters without a printed form are written by
their code point.
-/
namespace BuildingWorkflow

/-- The code point in hexadecimal digits, at least `width` of them. -/
def hexDigits (width n : Nat) : List Char :=
  let digits := Nat.toDigits 16 n
  List.replicate (width - digits.length) '0' ++ digits

def quoteMark (chars : List Char) : Char :=
  if chars.contains '\'' && !chars.contains '"' then '"' else '\''

/-- One character inside quotes. -/
def quotedChar (mark c : Char) : List Char :=
  let n := c.toNat
  if c = mark || c = '\\' then ['\\', c]
  else if c = '\n' then ['\\', 'n']
  else if c = '\r' then ['\\', 'r']
  else if c = '\t' then ['\\', 't']
  else if n < 0x20 || n = 0x7f then '\\' :: 'x' :: hexDigits 2 n
  else if n < 0x7f || !inRanges PrintableTable.hidden c then [c]
  else if n < 0x100 then '\\' :: 'x' :: hexDigits 2 n
  else if n < 0x10000 then '\\' :: 'u' :: hexDigits 4 n
  else '\\' :: 'U' :: hexDigits 8 n

def quoted (s : String) : String :=
  let mark := quoteMark s.toList
  String.ofList (mark :: s.toList.flatMap (quotedChar mark) ++ [mark])

end BuildingWorkflow
