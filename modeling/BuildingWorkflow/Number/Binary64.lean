import BuildingWorkflow.Number.Rounding

/-!
Binary floating-point numbers of double precision.

Every finite double is a whole multiple of `2 ^ -1074`, the *unit*. A finite number is therefore
held as a sign and a count of units that has at most 53 significant bits; no exponent is kept.
Each operation forms its exact result as a quotient of whole numbers of units and rounds it once
with `ofQuotient`, to the nearest representable count, ties to the even mantissa.
-/
namespace BuildingWorkflow

/-- The number of units in one. -/
def unitsPerOne : Nat := Nat.pow 2 1074

/-- The distance from a count of units to the next larger representable one: a count has 53
significant bits, or it is below `2 ^ 53` and every count is representable. -/
def spacing (units : Nat) : Nat := Nat.pow 2 (units.log2 - 52)

/-- A count of units that a double can hold. -/
def Representable (units : Nat) : Prop := units.log2 < 2098 ∧ units % spacing units = 0

instance (units : Nat) : Decidable (Representable units) :=
  inferInstanceAs (Decidable (_ ∧ _))

inductive Binary64
  /-- No number. Copies of one NaN share its label, by which they are recognized; a new one has the
  empty label. -/
  | nan (label : String)
  | infinite (negative : Bool)
  | finite (negative : Bool) (units : Nat) (representable : Representable units)
deriving DecidableEq

namespace Binary64

def zero : Binary64 := .finite false 0 (by decide)

instance : Inhabited Binary64 := ⟨zero⟩

/-- The double nearest to `num / den` units; beyond the largest double it is infinite. -/
def ofQuotient (negative : Bool) (num den : Nat) : Binary64 :=
  let grid := spacing (num / den)
  let units := roundQuotient num (den * grid) * grid
  if h : Representable units then .finite negative units h else .infinite negative

/-- The double nearest to a whole number. -/
def ofInt (n : Int) : Binary64 := ofQuotient (n < 0) (n.natAbs * unitsPerOne) 1

instance (n : Nat) : OfNat Binary64 n := ⟨ofInt n⟩

/-- The double nearest to `digits * 10 ^ exponent`.

A number of `k` digits lies below `10 ^ k` and, unless it is zero, at or above `10 ^ (k - 1)`,
so exponents far outside the range of doubles are settled without forming the power. -/
def ofDecimal (negative : Bool) (digits : Nat) (exponent : Int) : Binary64 :=
  if digits = 0 then .finite negative 0 (by decide)
  else
    let size : Int := (digits.log2 : Int) * 30103 / 100000 + exponent
    if 400 < size then .infinite negative
    else if size < -400 then .finite negative 0 (by decide)
    else if 0 ≤ exponent then
      ofQuotient negative (digits * Nat.pow 10 exponent.toNat * unitsPerOne) 1
    else ofQuotient negative (digits * unitsPerOne) (Nat.pow 10 (-exponent).toNat)

def isZero : Binary64 → Bool
  | .finite _ units _ => units == 0
  | _ => false

/-- The signed number of units of a finite double. -/
def signedUnits (negative : Bool) (units : Nat) : Int :=
  if negative then -(units : Int) else units

/-- A signed number of whole units rounded to a double; `zeroSign` is the sign of a zero. -/
def ofUnits (units : Int) (zeroSign : Bool) : Binary64 :=
  ofQuotient (if units = 0 then zeroSign else units < 0) units.natAbs 1

def neg : Binary64 → Binary64
  | .nan _ => .nan ""
  | .infinite s => .infinite !s
  | .finite s u h => .finite (!s) u h

instance : Neg Binary64 := ⟨neg⟩

/-- A zero sum is positive unless both summands are negative. -/
def add : Binary64 → Binary64 → Binary64
  | .nan _, _ => .nan ""
  | _, .nan _ => .nan ""
  | .infinite s, .infinite t => if s = t then .infinite s else .nan ""
  | .infinite s, _ => .infinite s
  | _, .infinite t => .infinite t
  | .finite s u _, .finite t v _ => ofUnits (signedUnits s u + signedUnits t v) (s && t)

instance : Add Binary64 := ⟨add⟩

def sub (x y : Binary64) : Binary64 := x.add y.neg

instance : Sub Binary64 := ⟨sub⟩

def mul : Binary64 → Binary64 → Binary64
  | .nan _, _ => .nan ""
  | _, .nan _ => .nan ""
  | .infinite s, .infinite t => .infinite (s != t)
  | .infinite s, .finite t v _ => if v = 0 then .nan "" else .infinite (s != t)
  | .finite s u _, .infinite t => if u = 0 then .nan "" else .infinite (s != t)
  | .finite s u _, .finite t v _ => ofQuotient (s != t) (u * v) unitsPerOne

instance : Mul Binary64 := ⟨mul⟩

def div : Binary64 → Binary64 → Binary64
  | .nan _, _ => .nan ""
  | _, .nan _ => .nan ""
  | .infinite _, .infinite _ => .nan ""
  | .infinite s, .finite t _ _ => .infinite (s != t)
  | .finite s _ _, .infinite t => .finite (s != t) 0 (by decide)
  | .finite s u _, .finite t v _ =>
      if v = 0 then if u = 0 then .nan "" else .infinite (s != t)
      else ofQuotient (s != t) (u * unitsPerOne) v

instance : Div Binary64 := ⟨div⟩

/-- A new NaN gets a label; all else has no use for one. -/
def labelled (label : String) : Binary64 → Binary64
  | .nan "" => .nan label
  | x => x

/-- Strictly smaller; nothing is smaller or larger than NaN. -/
def less : Binary64 → Binary64 → Bool
  | .nan _, _ => false
  | _, .nan _ => false
  | .infinite s, .infinite t => s && !t
  | .infinite s, .finite _ _ _ => s
  | .finite _ _ _, .infinite t => !t
  | .finite s u _, .finite t v _ => signedUnits s u < signedUnits t v

/-- Numerical equality: NaN equals nothing, and the two zeros are equal. -/
def same : Binary64 → Binary64 → Bool
  | .nan _, _ => false
  | _, .nan _ => false
  | .infinite s, .infinite t => s == t
  | .infinite _, .finite _ _ _ => false
  | .finite _ _ _, .infinite _ => false
  | .finite s u _, .finite t v _ => signedUnits s u == signedUnits t v

/-- Equality that also holds between copies of one NaN. -/
def sameOrCopy : Binary64 → Binary64 → Bool
  | .nan label, .nan label' => label == label'
  | x, y => x.same y

def atMost (x y : Binary64) : Bool := x.less y || x.same y

/-- The first argument unless the second is smaller. -/
def least (x y : Binary64) : Binary64 := if y.less x then y else x

/-- Why a double has no whole part. -/
inductive NoWhole
  | infinite
  | nan
deriving DecidableEq, Repr

/-- The largest whole number that is not larger. -/
def floor : Binary64 → Except NoWhole Int
  | .nan _ => .error .nan
  | .infinite _ => .error .infinite
  | .finite s u _ => .ok (Int.fdiv (signedUnits s u) unitsPerOne)

/-- The whole number that a double is, if it is one. -/
def whole? : Binary64 → Option Int
  | .finite s u _ =>
      if u % unitsPerOne = 0 then some (signedUnits s (u / unitsPerOne)) else none
  | _ => none

/-- Compares a whole number with a double exactly, without rounding it first. -/
def sameInt (n : Int) : Binary64 → Bool
  | .finite s u _ => n * unitsPerOne == signedUnits s u
  | _ => false

/-- Rounds to a number of decimal places, ties on the exact value going to the even neighbour. -/
def roundPlaces (places : Nat) : Binary64 → Binary64
  | .finite s u _ =>
      let shift := Nat.pow 10 places
      ofQuotient s (roundQuotient (u * shift) unitsPerOne * unitsPerOne) shift
  | x => x

end Binary64

end BuildingWorkflow
