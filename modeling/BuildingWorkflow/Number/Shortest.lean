import BuildingWorkflow.Number.Binary64
import BuildingWorkflow.Text.Digit

/-!
Doubles written with the fewest decimal digits that read back as the same double.

For each number of digits the two decimals next to the double are tried; the first number of digits
with a decimal that reads back wins, and of two such decimals the nearer one, on a tie the one with
the even last digit. Seventeen digits always suffice.
-/
namespace BuildingWorkflow

/-- The number `digits * 10 ^ exponent`. -/
structure Decimal where
  digits : Nat
  exponent : Int
deriving DecidableEq

/-- The power of ten of the leading digit of a positive count of units. -/
def leadingPower (units : Nat) : Int :=
  if unitsPerOne ≤ units then (numeralLength (units / unitsPerOne) : Int) - 1
  else -(numeralLength ((unitsPerOne - 1) / units) : Int)

/-- A count of units in steps of `10 ^ exponent`, as a quotient. -/
def inSteps (units : Nat) (exponent : Int) : Nat × Nat :=
  if 0 ≤ exponent then (units, unitsPerOne * Nat.pow 10 exponent.toNat)
  else (units * Nat.pow 10 (-exponent).toNat, unitsPerOne)

/-- Whether a decimal reads back as the double with this count of units. -/
def readsBack (units : Nat) (d : Decimal) : Bool :=
  match Binary64.ofDecimal false d.digits d.exponent with
  | .finite _ u _ => u == units
  | _ => false

/-- The decimal with steps of `10 ^ exponent` that reads back and is nearest, if one reads back. -/
def nearestReadingBack? (units : Nat) (exponent : Int) : Option Decimal :=
  let (num, den) := inSteps units exponent
  let below : Decimal := ⟨num / den, exponent⟩
  let above : Decimal := ⟨num / den + 1, exponent⟩
  let nearest : Decimal := ⟨roundQuotient num den, exponent⟩
  if readsBack units nearest then some nearest
  else if readsBack units below then some below
  else if readsBack units above then some above
  else none

/-- The shortest decimal of a positive count of units. -/
def shortest (units : Nat) : Decimal :=
  let lead := leadingPower units
  ((List.range 17).findSome? fun (extra : Nat) => nearestReadingBack? units (lead - extra)).getD
    ⟨roundQuotient (inSteps units (lead - 16)).1 (inSteps units (lead - 16)).2, lead - 16⟩

/-- Drops zeros at the end of a row of digits. -/
def dropFinalZeros (digits : List Char) : List Char :=
  (digits.reverse.dropWhile (· == '0')).reverse

/-- The exponent after its mark: a sign and at least two digits. -/
def exponentText (n : Int) : List Char :=
  (if n < 0 then '-' else '+') ::
    (if n.natAbs < 10 then '0' :: numeral n.natAbs else numeral n.natAbs)

/-- A row of digits with the point after the first `point` of them. Numbers from `0.0001` up to
below `10 ^ 16` are written positionally, all others with an exponent. -/
def pointText (digits : List Char) (point : Int) : List Char :=
  if -4 < point && point ≤ 16 then
    if point ≤ 0 then '0' :: '.' :: List.replicate (-point).toNat '0' ++ digits
    else if digits.length ≤ point.toNat then
      digits ++ List.replicate (point.toNat - digits.length) '0' ++ ['.', '0']
    else digits.take point.toNat ++ '.' :: digits.drop point.toNat
  else
    match digits with
    | [d] => d :: 'e' :: exponentText (point - 1)
    | d :: rest => d :: '.' :: rest ++ 'e' :: exponentText (point - 1)
    | [] => []

/-- The text of a finite double without its sign. -/
def unitsText (units : Nat) : List Char :=
  if units = 0 then ['0', '.', '0']
  else
    let d := shortest units
    let digits := numeral d.digits
    pointText (dropFinalZeros digits) (digits.length + d.exponent)

namespace Binary64

/-- The text of a double: its shortest decimal, or the name of a value that has none. -/
def text : Binary64 → String
  | .nan _ => "nan"
  | .infinite s => if s then "-inf" else "inf"
  | .finite s u _ => String.ofList (if s then '-' :: unitsText u else unitsText u)

end Binary64

end BuildingWorkflow
