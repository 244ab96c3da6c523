import BuildingWorkflow.Number.Binary64
import BuildingWorkflow.Text.Blank
import BuildingWorkflow.Text.Digit

/-!
Doubles and integers read from texts.

Both readers share one grammar of decimals: a sign, digits with an optional point, and an optional
exponent, or one of the words for infinity and NaN in any case. They differ in what is put aside
first: `readNumber?` takes the digits of every script and lets an underscore stand between two
digits, `readPlainNumber?` takes Latin digits alone.
-/
namespace BuildingWorkflow

/-- A sign at the beginning; whether it is a minus, and the rest. -/
def takeSign : List Char → Bool × List Char
  | '-' :: rest => (true, rest)
  | '+' :: rest => (false, rest)
  | chars => (false, chars)

/-- An exponent that takes up the whole list: nothing, or `e`, a sign and digits. -/
def readExponent? : List Char → Option Int
  | [] => some 0
  | e :: rest =>
      if e = 'e' || e = 'E' then
        let (negative, digits) := takeSign rest
        if digits.isEmpty || !digits.all Char.isDigit then none
        else some (if negative then -(digitsValue digits : Int) else digitsValue digits)
      else none

/-- Digits with an optional point and exponent. -/
def readDigits? (negative : Bool) (chars : List Char) : Option Binary64 :=
  let whole := chars.takeWhile Char.isDigit
  let (fraction, rest) := match chars.dropWhile Char.isDigit with
    | '.' :: rest => (rest.takeWhile Char.isDigit, rest.dropWhile Char.isDigit)
    | rest => ([], rest)
  if whole.isEmpty && fraction.isEmpty then none
  else (readExponent? rest).map fun exponent =>
    Binary64.ofDecimal negative (digitsValue (whole ++ fraction)) (exponent - fraction.length)

/-- The grammar of decimals, for a list of characters without anything around it. -/
def readDecimal? (chars : List Char) : Option Binary64 :=
  let (negative, rest) := takeSign chars
  let word := String.ofList (rest.map Char.toLower)
  if word = "inf" || word = "infinity" then some (.infinite negative)
  else if word = "nan" then some (.nan "")
  else readDigits? negative rest

/-- Whether every underscore stands between two digits; `before` tells of the character before. -/
def underscoresBetweenDigits (before : Bool) : List Char → Bool
  | [] => true
  | '_' :: c :: rest => before && c.isDigit && underscoresBetweenDigits true rest
  | ['_'] => false
  | c :: rest => underscoresBetweenDigits c.isDigit rest

/-- A number with blanks around it, digits of any script, and underscores between digits. -/
def readNumber? (s : String) : Option Binary64 :=
  let chars := (trimChars isBlank s.toList).map latinDigit
  if underscoresBetweenDigits false chars then readDecimal? (chars.filter (· != '_')) else none

/-- Underscores taken out of a text that neither begins nor ends with one nor has two in a row;
nothing for other texts, and nothing for texts without an underscore. -/
def withoutUnderscores? (chars : List Char) : Option (List Char) :=
  let rec adjacent : List Char → Bool
    | '_' :: '_' :: _ => true
    | _ :: rest => adjacent rest
    | [] => false
  if chars.head? = some '_' || chars.getLast? = some '_' || adjacent chars ||
      !chars.contains '_' then none
  else some (chars.filter (· != '_'))

/-- A number in Latin digits with white space around it, or one with underscores. -/
def readPlainNumber? (s : String) : Option Binary64 :=
  match readDecimal? (trimChars isWhiteSpace s.toList) with
  | some x => some x
  | none => (withoutUnderscores? s.toList).bind readDecimal?

end BuildingWorkflow
