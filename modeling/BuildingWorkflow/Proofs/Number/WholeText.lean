import BuildingWorkflow.Proofs.Number.Numeral
import BuildingWorkflow.Proofs.Number.Spelling
import BuildingWorkflow.Proofs.Number.Whole
import BuildingWorkflow.Proofs.Text.Parts

/-!
Numerals read as doubles.

The numeral of a whole number, of any length and with or without a sign, is read as the double that
the whole number is rounded to. Only a zero may keep a minus, which no comparison sees.
-/
namespace BuildingWorkflow

/-- A text is a decimal numeral of a whole number: digits, with or without a sign in front. -/
inductive Numerates : String → Int → Prop
  | unsigned (digits : List Char) (filled : digits ≠ []) (latin : ∀ c ∈ digits, c.isDigit = true) :
      Numerates (String.ofList digits) (digitsValue digits)
  | positive (digits : List Char) (filled : digits ≠ []) (latin : ∀ c ∈ digits, c.isDigit = true) :
      Numerates (String.ofList ('+' :: digits)) (digitsValue digits)
  | negative (digits : List Char) (filled : digits ≠ []) (latin : ∀ c ∈ digits, c.isDigit = true) :
      Numerates (String.ofList ('-' :: digits)) (-digitsValue digits)

theorem numerates_intText (n : Int) : Numerates (intText n) n := by
  have filled := numeral_ne_nil n.natAbs
  have latin := isDigit_numeral n.natAbs
  rw [intText]
  split
  · next below =>
    have written := Numerates.negative _ filled latin
    rwa [digitsValue_numeral, show -(n.natAbs : Int) = n by omega] at written
  · next above =>
    have written := Numerates.unsigned _ filled latin
    rwa [digitsValue_numeral, show (n.natAbs : Int) = n by omega] at written

/-! ## Reading -/

/-- A row without blanks, underscores and foreign digits is read as it stands. -/
theorem readNumber?_of_plain {chars : List Char}
    (plain : ∀ c ∈ chars, c.toNat < 0x80 ∧ isBlank c = false ∧ c ≠ '_') :
    readNumber? (String.ofList chars) = readDecimal? chars := by
  have trimmed : trimChars isBlank chars = chars :=
    trimChars_of_none fun c member => (plain c member).2.1
  have latin : chars.map latinDigit = chars :=
    (List.map_congr_left fun c member => latinDigit_of_ascii (plain c member).1).trans
      (List.map_id chars)
  have separate := underscoresBetweenDigits_of_none false fun c member => (plain c member).2.2
  have kept : chars.filter (· != '_') = chars :=
    List.filter_eq_self.mpr fun c member => bne_iff_ne.mpr (plain c member).2.2
  rw [readNumber?_eq, String.toList_ofList, trimmed, readRow?, latin, separate, kept, if_pos rfl]

section Digits

variable {digits : List Char} (filled : digits ≠ []) (latin : ∀ c ∈ digits, c.isDigit = true)

include latin

theorem plain_of_digits {c : Char} (member : c ∈ digits) :
    c.toNat < 0x80 ∧ isBlank c = false ∧ c ≠ '_' := by
  have bounds := Char.isDigit_iff_toNat.mp (latin c member)
  have nine : '9'.toNat = 57 := rfl
  have small : c.toNat < 0x80 := by omega
  have each := forall_ascii
    (p := fun c => c.isDigit = true → isBlank c = false ∧ c ≠ '_') (by decide +kernel) small
  exact ⟨small, each (latin c member)⟩

include filled

/-- Digits behind a sign are read as a whole number. -/
theorem readDecimal?_of_digits {chars : List Char} {negative : Bool}
    (signed : takeSign chars = (negative, digits)) :
    readDecimal? chars = some (.ofDecimal negative (digitsValue digits) 0) := by
  have word (letters : List Char) (foreign : letters.all Char.isDigit = false) :
      String.ofList digits ≠ String.ofList letters := by
    intro same
    rw [← String.ofList_inj.mp same, List.all_eq_true.mpr latin] at foreign
    cases foreign
  have whole := List.takeWhile_eq_self_iff.mpr latin
  have rest := List.dropWhile_eq_nil_iff.mpr latin
  have inf := word "inf".toList (by decide)
  have infinity := word "infinity".toList (by decide)
  have nan := word "nan".toList (by decide)
  rw [String.ofList_toList] at inf infinity nan
  simp [readDecimal?, signed, map_toLower_of_digits latin, inf, infinity, nan, readDigits?, whole,
    rest, filled, readExponent?]

end Digits

namespace Binary64

/-- Decimals of any size without a fraction are quotients of units. -/
theorem ofDecimal_whole (negative : Bool) (digits : Nat) :
    ofDecimal negative digits 0 = ofQuotient negative (digits * unitsPerOne) 1 := by
  obtain rfl | pos := Nat.eq_zero_or_pos digits
  · rw [ofDecimal_zero, Nat.zero_mul, ofQuotient_zero]
  rw [ofDecimal, if_neg (Nat.ne_of_gt pos)]
  dsimp only
  split_ifs with large small
  · have ends : ∃ k, k = 1024 ∧ endOfWhole ≤ 2 ^ k := ⟨_, rfl, by decide +kernel⟩
    obtain ⟨k, bits, ends⟩ := ends
    have many : endOfWhole ≤ digits :=
      calc endOfWhole ≤ 2 ^ k := ends
        _ ≤ 2 ^ digits.log2 := Nat.pow_le_pow_right (by decide) (by omega)
        _ ≤ digits := Nat.log2_self_le (Nat.ne_of_gt pos)
    rw [ofQuotient_eq_infinite negative Nat.one_pos]
    rw [Nat.mul_one, endOfUnits_eq_mul]
    exact Nat.mul_le_mul_right _ many
  · omega
  · rw [show Nat.pow 10 (0 : Int).toNat = 1 from rfl, Nat.mul_one]
  · omega

/-- Doubles that no comparison tells apart. -/
def Indistinct (x y : Binary64) : Prop :=
  ∀ z : Binary64, z.same x = z.same y ∧ z.less x = z.less y ∧ x.less z = y.less z

theorem Indistinct.refl (x : Binary64) : x.Indistinct x := fun _ => ⟨rfl, rfl, rfl⟩

theorem indistinct_zeros {negative negative' : Bool} {h h' : Representable 0} :
    (finite negative 0 h).Indistinct (finite negative' 0 h') := by
  have zero (negative : Bool) : signedUnits negative 0 = 0 := by cases negative <;> rfl
  intro z
  cases z <;> simp [same, less, zero]

theorem ofDecimal_indistinct_ofInt (digits : Nat) :
    (ofDecimal false digits 0).Indistinct (ofInt digits) ∧
      (ofDecimal true digits 0).Indistinct (ofInt (-digits)) := by
  rw [ofDecimal_whole, ofDecimal_whole, ofInt, ofInt, Int.natAbs_neg, Int.natAbs_natCast]
  constructor
  · rw [decide_eq_false (by omega)]
    exact .refl _
  · obtain rfl | pos := Nat.eq_zero_or_pos digits
    · rw [Nat.zero_mul, ofQuotient_zero, ofQuotient_zero]
      exact indistinct_zeros
    · rw [decide_eq_true (by omega)]
      exact .refl _

end Binary64

namespace Numerates

variable {s : String} {n : Int} (written : Numerates s n)

include written

theorem plain : ∀ c ∈ s.toList, c.toNat < 0x80 ∧ isBlank c = false ∧ c ≠ '_' := by
  cases written with
  | unsigned digits filled latin =>
      rw [String.toList_ofList]
      exact fun c => plain_of_digits latin
  | positive digits filled latin =>
      rw [String.toList_ofList]
      exact List.forall_mem_cons.mpr ⟨by decide, fun c => plain_of_digits latin⟩
  | negative digits filled latin =>
      rw [String.toList_ofList]
      exact List.forall_mem_cons.mpr ⟨by decide, fun c => plain_of_digits latin⟩

theorem trim_eq : trim s = s := by
  rw [trim, trimChars_of_none fun c member => (written.plain c member).2.1, String.ofList_toList]

/-- Every numeral is read, as the double nearest to its number. -/
theorem readNumber? : ∃ y, readNumber? s = some y ∧ y.Indistinct (.ofInt n) := by
  have plain := written.plain
  cases written with
  | unsigned digits filled latin =>
      rw [String.toList_ofList] at plain
      refine ⟨_, ?_, (Binary64.ofDecimal_indistinct_ofInt _).1⟩
      rw [readNumber?_of_plain plain]
      apply readDecimal?_of_digits filled latin
      cases digits with
      | nil => exact absurd rfl filled
      | cons c rest => exact takeSign_of_isDigit (latin c List.mem_cons_self) rest
  | positive digits filled latin =>
      rw [String.toList_ofList] at plain
      refine ⟨_, ?_, (Binary64.ofDecimal_indistinct_ofInt _).1⟩
      rw [readNumber?_of_plain plain]
      exact readDecimal?_of_digits filled latin rfl
  | negative digits filled latin =>
      rw [String.toList_ofList] at plain
      refine ⟨_, ?_, (Binary64.ofDecimal_indistinct_ofInt _).2⟩
      rw [readNumber?_of_plain plain]
      exact readDecimal?_of_digits filled latin rfl

end Numerates

end BuildingWorkflow
