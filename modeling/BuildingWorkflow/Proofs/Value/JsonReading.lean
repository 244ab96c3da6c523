import BuildingWorkflow.Number.Reading
import BuildingWorkflow.Value.Json

/-!
Reading JSON texts.

The grammar is that of JSON with the words for infinity and NaN added. A text is cut into tokens one
character at a time: marks, texts in quotes, and words, which go on until a mark, a quote or a blank
ends them. A second machine goes through the tokens with a stack of the lists and mappings that are
open. Members of a mapping are kept in the order in which they stand.
-/
namespace BuildingWorkflow

namespace Json

/-! ## Words -/

/-- Whether what follows the whole part of a number has a digit after its point. -/
def pointFilled : List Char → Bool
  | '.' :: rest => rest.head?.any Char.isDigit
  | _ => true

/-- A number: a whole part without needless zeros, then perhaps a fraction and an exponent. -/
def unsigned? (negative : Bool) (chars : List Char) : Option Value :=
  let whole := chars.takeWhile Char.isDigit
  let rest := chars.dropWhile Char.isDigit
  if whole.isEmpty || (whole.head? == some '0' && whole != ['0']) then none
  else if rest.isEmpty then
    some (.int (if negative then -(digitsValue whole : Int) else digitsValue whole))
  else if pointFilled rest then (readDigits? negative chars).map .float
  else none

def number? : List Char → Option Value
  | '-' :: rest => unsigned? true rest
  | chars => unsigned? false chars

/-- The words that are no numbers. -/
def named : List (List Char × Value) :=
  [("null".toList, .null), ("true".toList, .bool true), ("false".toList, .bool false),
    ("NaN".toList, .float (.nan "")), ("Infinity".toList, .float (.infinite false)),
    ("-Infinity".toList, .float (.infinite true))]

def scalar? (word : List Char) : Option Value :=
  match named.lookup word with
  | some v => some v
  | none => number? word

/-! ## Texts -/

def hexValue? (c : Char) : Option Nat :=
  if '0' ≤ c && c ≤ '9' then some (c.toNat - 0x30)
  else if 'a' ≤ c && c ≤ 'f' then some (c.toNat - 0x57)
  else if 'A' ≤ c && c ≤ 'F' then some (c.toNat - 0x37)
  else none

/-- The character that stands for itself or for a control character after a backslash. -/
def escaped? (c : Char) : Option Char :=
  if c = '"' || c = '\\' || c = '/' then some c
  else if c = 'b' then some '\x08'
  else if c = 'f' then some '\x0c'
  else if c = 'n' then some '\n'
  else if c = 'r' then some '\r'
  else if c = 't' then some '\t'
  else none

def leading (point : Nat) : Bool := 0xd800 ≤ point && point < 0xdc00

def trailing (point : Nat) : Bool := 0xdc00 ≤ point && point < 0xe000

/-- Two halves of a code point that follow each other are the code point. -/
def joinHalves : List Nat → List Nat
  | first :: second :: rest =>
      if leading first && trailing second then
        (0x10000 + (first - 0xd800) * 0x400 + (second - 0xdc00)) :: joinHalves rest
      else first :: joinHalves (second :: rest)
  | points => points

def ofPoint? (point : Nat) : Option Char :=
  if point.isValidChar then some (Char.ofNat point) else none

def ofPoints? (points : List Nat) : Option String :=
  ((joinHalves points).mapM ofPoint?).map String.ofList

/-! ## Tokens -/

inductive Token
  | openList
  | closeList
  | openMap
  | closeMap
  | comma
  | colon
  | text (s : String)
  | scalar (v : Value)

def mark? (c : Char) : Option Token :=
  if c = '[' then some .openList
  else if c = ']' then some .closeList
  else if c = '\x7b' then some .openMap
  else if c = '\x7d' then some .closeMap
  else if c = ',' then some .comma
  else if c = ':' then some .colon
  else none

def white (c : Char) : Bool := c == ' ' || c == '\n' || c == '\r' || c == '\t'

/-- Whether a character ends a word. -/
def separates (c : Char) : Bool := white c || c == '"' || (mark? c).isSome

/-- Where the cutting into tokens stands: between tokens, in a word, in a text, after a backslash in
a text, or in the digits of a code point. What has been read is kept last first, of a text its code
points. -/
inductive Mode
  | between
  | word (read : List Char)
  | text (read : List Nat)
  | escape (read : List Nat)
  | point (read : List Nat) (count value : Nat)

namespace Mode

/-- What a character does between tokens. -/
def start (c : Char) : List Token × Mode :=
  if white c then ([], between)
  else if c = '"' then ([], text [])
  else match mark? c with
    | some token => ([token], between)
    | none => ([], word [c])

/-- The tokens that a character completes, and where it leads; nothing if it must not stand there. -/
def next : Mode → Char → Option (List Token × Mode)
  | between, c => some (start c)
  | word read, c =>
      if separates c then (scalar? read.reverse).map fun v =>
        (.scalar v :: (start c).1, (start c).2)
      else some ([], word (c :: read))
  | text read, c =>
      if c = '"' then (ofPoints? read.reverse).map fun s => ([.text s], between)
      else if c = '\\' then some ([], escape read)
      else if c.toNat < 0x20 then none
      else some ([], text (c.toNat :: read))
  | escape read, c =>
      if c = 'u' then some ([], point read 0 0)
      else (escaped? c).map fun meant => ([], text (meant.toNat :: read))
  | point read count value, c =>
      (hexValue? c).map fun digit =>
        ([], if count = 3 then text ((value * 16 + digit) :: read)
          else point read (count + 1) (value * 16 + digit))

/-- The token that the end of the text completes. -/
def final : Mode → Option (List Token)
  | between => some []
  | word read => (scalar? read.reverse).map fun v => [.scalar v]
  | _ => none

end Mode

def lexFrom (mode : Mode) : List Char → Option (List Token)
  | [] => mode.final
  | c :: rest =>
      (mode.next c).bind fun (tokens, mode) => (lexFrom mode rest).map (tokens ++ ·)

/-! ## Values -/

/-- An open list or mapping with what it holds so far; in an entry the value of a name is read. -/
inductive Level
  | items (read : List Value)
  | entries (read : List (String × Value))
  | entry (read : List (String × Value)) (name : String)

/-- What may come next. -/
inductive Place
  | value
  | firstItem
  | firstName
  | name
  | colon (name : String)
  | after (v : Value)

def valueStep (levels : List Level) : Token → Option (Place × List Level)
  | .openList => some (.firstItem, .items [] :: levels)
  | .openMap => some (.firstName, .entries [] :: levels)
  | .text s => some (.after (.text s), levels)
  | .scalar v => some (.after v, levels)
  | _ => none

def step : Place × List Level → Token → Option (Place × List Level)
  | (.value, levels), token => valueStep levels token
  | (.firstItem, .items [] :: levels), .closeList => some (.after (.list []), levels)
  | (.firstItem, levels), token => valueStep levels token
  | (.firstName, .entries [] :: levels), .closeMap => some (.after (.map []), levels)
  | (.firstName, levels), .text s => some (.colon s, levels)
  | (.name, levels), .text s => some (.colon s, levels)
  | (.colon s, .entries read :: levels), .colon => some (.value, .entry read s :: levels)
  | (.after v, .items read :: levels), .comma => some (.value, .items (read ++ [v]) :: levels)
  | (.after v, .items read :: levels), .closeList =>
      some (.after (.list (read ++ [v])), levels)
  | (.after v, .entry read s :: levels), .comma =>
      some (.name, .entries (read ++ [(s, v)]) :: levels)
  | (.after v, .entry read s :: levels), .closeMap =>
      some (.after (.map (read ++ [(s, v)])), levels)
  | _, _ => none

def parse? (tokens : List Token) : Option Value :=
  match tokens.foldlM step (.value, []) with
  | some (.after v, []) => some v
  | _ => none

/-- The value of a JSON text, if it is well formed. -/
def read? (text : String) : Option Value := (lexFrom .between text.toList).bind parse?

end Json

end BuildingWorkflow
