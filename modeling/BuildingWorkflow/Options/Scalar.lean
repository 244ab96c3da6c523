import BuildingWorkflow.Number.Reading
import BuildingWorkflow.Options.Fault
import BuildingWorkflow.Text.Case
import BuildingWorkflow.Value.Basic

/-!
Single options read from values.

Reading is lenient: numbers and truth values may be written as texts, whole numbers as floats, and
the choices of some options in any case. What is accepted is the same for every option of one type.
-/
namespace BuildingWorkflow

/-- A type with finitely many named choices. -/
class Choice (α : Type) where
  all : List α
  name : α → String

def Choice.ofName? {α : Type} [Choice α] (name : String) : Option α :=
  (Choice.all : List α).find? (Choice.name · == name)

def Choice.value {α : Type} [Choice α] (a : α) : Value := .text (Choice.name a)

namespace Scalar

abbrev Reader (α : Type) := Value → Except OptionCause α

def text : Reader String
  | .text s => .ok s
  | _ => .error .notText

def nonemptyText : Reader String
  | .text "" => .error .emptyText
  | v => text v

/-- One of some named choices, spelled exactly. -/
def choice (α : Type) [Choice α] : Reader α := fun v =>
  let chosen : Option α := match v with
    | .text s => Choice.ofName? s
    | _ => none
  match chosen with
  | some a => .ok a
  | none => .error (.notAmong ((Choice.all : List α).map Choice.name))

/-- A text without blanks around it and in lower case; other values as they are. -/
def normalized : Value → Value
  | .text s => .text (lower (trim s))
  | v => v

/-- One of some named choices, in any case and with blanks around it. -/
def looseChoice (α : Type) [Choice α] : Reader α := fun v => choice α (normalized v)

def number : Reader Binary64
  | .float x => .ok x
  | .int n =>
      match Binary64.ofInt n with
      | .infinite _ => .error .notNumber
      | x => .ok x
  | .bool b => .ok (if b then 1 else 0)
  | .text s => (readPlainNumber? s).elim (.error .unreadableNumber) .ok
  | _ => .error .notNumber

/-- The most digits that a numeral of a whole number may have. -/
def maxDigits : Nat := 4300

/-- How a text reads as the plain numeral of a whole number. -/
inductive Numeral
  | whole (n : Int)
  /-- It begins with a numeral that has too many digits, whatever follows. -/
  | tooLong
  | unreadable

/-- A plain numeral: an optional minus, then Latin digits without a zero in front of others. -/
def readNumeral (chars : List Char) : Numeral :=
  let (negative, rest) := match chars with
    | '-' :: rest => (true, rest)
    | _ => (false, chars)
  let digits := rest.takeWhile Char.isDigit
  let leadingZero := digits.head? = some '0' && 1 < rest.length
  if digits.isEmpty || leadingZero then .unreadable
  else if maxDigits < digits.length then .tooLong
  else if digits.length < rest.length then .unreadable
  else .whole (if negative then -(digitsValue digits : Int) else digitsValue digits)

/-- Drops zeros, and underscores among them, in front of the first other digit, a minus or the
point; one zero stays in front of a point or at the end. -/
def dropLeadingZeros? : List Char → Option (List Char)
  | '0' :: rest => go '0' rest
  | c :: rest => if '1' ≤ c && c ≤ '9' then some (c :: rest) else none
  | [] => none
where
  go (before : Char) : List Char → Option (List Char)
    | [] => some [before]
    | c :: rest =>
        if c = '0' || c = '_' then go c rest
        else if '1' ≤ c && c ≤ '9' || c = '-' then some (c :: rest)
        else if c = '.' then some (before :: c :: rest)
        else none

/-- Drops a point that only zeros follow, at least one of them. -/
def dropZeroFraction? (chars : List Char) : Option (List Char) :=
  match chars.dropWhile (· != '.') with
  | [] => some chars
  | _ :: fraction =>
      if fraction.isEmpty || !fraction.all (· == '0') then none
      else some (chars.takeWhile (· != '.'))

/-- A sign that is not followed by a minus; whether it is a minus, and the rest. -/
def takeOneSign? : List Char → Option (Bool × List Char)
  | '-' :: '-' :: _ => none
  | '+' :: '-' :: _ => none
  | chars => some (takeSign chars)

/-- A numeral brought to its plain form: without white space around it, a plus, leading zeros, a
fraction of zeros and single underscores. A minus may stand in front of the leading zeros or
behind them. -/
def plainForm? (s : String) : Option (List Char) := do
  let (negative, rest) ← takeOneSign? (trimChars isWhiteSpace s.toList)
  let digits ← dropZeroFraction? (← dropLeadingZeros? rest)
  let digits := (withoutUnderscores? digits).getD digits
  return if negative then '-' :: digits else digits

/-- A whole number in Latin digits: a plain numeral, or a text that can be brought to its form. Only
a numeral that is plain from the start is refused for its length. -/
def readWhole (s : String) : Except OptionCause Int :=
  match readNumeral s.toList with
  | .whole n => .ok n
  | .tooLong => .error .tooManyDigits
  | .unreadable =>
      match (plainForm? s).map readNumeral with
      | some (.whole n) => .ok n
      | _ => .error .unreadableWhole

/-- The first whole number that 64 bits with a sign do not hold. -/
def wordBound : Nat := 0x8000000000000000

/-- The whole number of a float; only those within 64 bits are taken. -/
def wholeOfFloat (x : Binary64) : Except OptionCause Int :=
  match x with
  | .nan _ | .infinite _ => .error .notFinite
  | x =>
      match x.whole? with
      | none => .error .fraction
      | some n => if n.natAbs < wordBound then .ok n else .error .tooManyDigits

def whole : Reader Int
  | .int n => .ok n
  | .bool b => .ok (if b then 1 else 0)
  | .float x => wholeOfFloat x
  | .text s => readWhole s
  | _ => .error .notWhole

/-- A truth value, zero or one, or a word for one of them in any case. -/
def flag : Reader Bool
  | .bool b => .ok b
  | .int n =>
      if n = 0 then .ok false
      else if n = 1 then .ok true
      else if -(wordBound : Int) ≤ n && n < wordBound then .error .unreadableFlag
      else .error .notFlag
  | .float x =>
      match wholeOfFloat x with
      | .ok n => if n = 0 then .ok false else if n = 1 then .ok true else .error .unreadableFlag
      | .error _ => .error .notFlag
  | .text s =>
      let word := String.ofList (s.toList.map Char.toLower)
      if ["0", "off", "f", "false", "n", "no"].contains word then .ok false
      else if ["1", "on", "t", "true", "y", "yes"].contains word then .ok true
      else .error .unreadableFlag
  | _ => .error .notFlag

def any : Reader Value := .ok

/-- Null, or what another reader takes. -/
def optional {α : Type} (read : Reader α) : Reader (Option α)
  | .null => .ok none
  | v => (read v).map some

/-- Numbers above a bound; NaN is not. -/
def numberAbove (bound : Nat) : Reader Binary64 := fun v => do
  let x ← number v
  if (Binary64.ofInt bound).less x then pure x else throw (.notAbove bound)

/-- Numbers that reach a bound; NaN does not. -/
def numberFrom (bound : Nat) : Reader Binary64 := fun v => do
  let x ← number v
  if (Binary64.ofInt bound).atMost x then pure x else throw (.below bound)

/-- Whole numbers between two bounds. -/
def wholeBetween (least most : Nat) : Reader Int := fun v => do
  let n ← whole v
  if n < least then throw (.below least)
  else if (most : Int) < n then throw (.above most)
  else pure n

end Scalar

end BuildingWorkflow
