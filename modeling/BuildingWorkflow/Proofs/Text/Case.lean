import BuildingWorkflow.Text.Case
import BuildingWorkflow.Text.Digit
import Mathlib.Order.Basic

/-!
Lower case of letters, digits and marks.

Lower case leaves the digits of all scripts as they are, and no letter becomes a digit by it. Of all
letters beyond ASCII the sign of the kelvin alone becomes an ASCII letter; the dotted capital I does
so too, but keeps its dot as a mark of its own.
-/
namespace BuildingWorkflow

/-! ## ASCII -/

theorem toLower_of_le {c : Char} (beyond : 0x80 ≤ c.toNat) : c.toLower = c := by
  refine dif_neg fun ⟨_, last⟩ => ?_
  have : c.toNat ≤ 'Z'.toNat := last
  have : 'Z'.toNat = 90 := rfl
  omega

/-- What holds of ASCII characters may be looked up. -/
theorem forall_ascii {p : Char → Prop} (each : ∀ n : Fin 0x80, p (Char.ofNat n)) {c : Char}
    (ascii : c.toNat < 0x80) : p c := by
  have holds := each ⟨c.toNat, ascii⟩
  rwa [Char.ofNat_toNat] at holds

theorem toLower_lt {c : Char} (ascii : c.toNat < 0x80) : c.toLower.toNat < 0x80 :=
  forall_ascii (p := fun c => c.toLower.toNat < 0x80) (by decide) ascii

/-! ## Digits -/

theorem digitValue?_eq_none_iff {c : Char} :
    digitValue? c = none ↔ ∀ start ∈ digitZeros, c.toNat < start ∨ start + 10 ≤ c.toNat := by
  simp only [digitValue?, Option.map_eq_none_iff, List.find?_eq_none, Bool.and_eq_true,
    decide_eq_true_eq, not_and, Nat.not_lt]
  refine forall₂_congr fun start _ => ?_
  omega

theorem isSome_digitValue?_of_ascii {c : Char} (ascii : c.toNat < 0x80) :
    (digitValue? c).isSome = c.isDigit := by
  have others : ∀ start ∈ digitZeros, start = 0x30 ∨ 0x80 ≤ start := by decide
  have latin : 0x30 ∈ digitZeros := by decide
  have bounds : '0'.toNat = 0x30 ∧ '9'.toNat = 0x39 := ⟨rfl, rfl⟩
  rw [Bool.eq_iff_iff, Option.isSome_iff_ne_none, ne_eq, digitValue?_eq_none_iff,
    Char.isDigit_iff_toNat]
  constructor
  · intro inside
    by_contra outside
    refine inside fun start member => ?_
    have := others start member
    omega
  · intro inside apart
    have := apart 0x30 latin
    omega

/-- No digit lies between two code points. -/
def digitFree (first last : Nat) : Bool :=
  digitZeros.all fun start => Nat.blt last start || Nat.ble (start + 10) first

theorem digitValue?_of_digitFree {first last : Nat} {c : Char} (free : digitFree first last)
    (low : first ≤ c.toNat) (high : c.toNat ≤ last) : digitValue? c = none := by
  rw [digitValue?_eq_none_iff]
  intro start member
  have apart := List.all_eq_true.mp free start member
  simp only [Bool.or_eq_true, Nat.blt_eq, Nat.ble_eq] at apart
  omega

/-! ## The table -/

/-- A row of the table neither begins with digits nor leads to digits or, unless it is the row of
ASCII letters or of the kelvin, to ASCII. -/
def spares : Nat × Nat × Nat × Int → Bool
  | (first, last, _, shift) =>
      let low := (first + shift).toNat
      let high := (last + shift).toNat
      digitFree first last && digitFree low high &&
        (Nat.blt last 0x80 || low == 0x6b && high == 0x6b || Nat.ble 0x80 low) &&
        (Nat.blt high 0xd800 || Nat.ble 0xe000 low && Nat.blt high 0x110000)

theorem spares_lower : CaseTable.lower.all spares = true := by decide +kernel

theorem exists_row {table : List (Nat × Nat × Nat × Int)} {n : Nat} {shift : Int}
    (found : tableShift? table n = some shift) :
    ∃ first last step, (first, last, step, shift) ∈ table ∧ first ≤ n ∧ n ≤ last := by
  obtain ⟨⟨first, last, step, _⟩, row, rfl⟩ := Option.map_eq_some_iff.mp found
  have inside := List.find?_some row
  simp only [Bool.and_eq_true, decide_eq_true_eq] at inside
  exact ⟨first, last, step, List.mem_of_find?_eq_some row, inside.1.1, inside.1.2⟩

theorem toNat_ofNat_of_valid {n : Nat} (valid : n < 0xd800 ∨ 0xe000 ≤ n ∧ n < 0x110000) :
    (Char.ofNat n).toNat = n := by
  have scalar : n.isValidChar := by
    unfold Nat.isValidChar
    omega
  rw [Char.ofNat, dif_pos scalar]
  rfl

theorem tableShift?_of_digit {c : Char} (digit : digitValue? c ≠ none) :
    tableShift? CaseTable.lower c.toNat = none := by
  cases found : tableShift? CaseTable.lower c.toNat with
  | none => rfl
  | some shift =>
      obtain ⟨first, last, step, member, low, high⟩ := exists_row found
      have spared := List.all_eq_true.mp spares_lower _ member
      simp only [spares, Bool.and_eq_true] at spared
      exact absurd (digitValue?_of_digitFree spared.1.1.1 low high) digit

/-- Lower case leads from beyond ASCII to letters beyond ASCII, or to the letter k. -/
theorem shiftChar_beyond {c : Char} {shift : Int} (beyond : 0x80 ≤ c.toNat)
    (found : tableShift? CaseTable.lower c.toNat = some shift) :
    digitValue? (shiftChar c shift) = none ∧
      (0x80 ≤ (shiftChar c shift).toNat ∨ shiftChar c shift = 'k') := by
  obtain ⟨first, last, step, member, low, high⟩ := exists_row found
  have spared := List.all_eq_true.mp spares_lower _ member
  simp only [spares, Bool.and_eq_true, Bool.or_eq_true, Nat.blt_eq, Nat.ble_eq, beq_iff_eq]
    at spared
  obtain ⟨⟨⟨-, free⟩, target⟩, valid⟩ := spared
  have value : (shiftChar c shift).toNat = (c.toNat + shift).toNat :=
    toNat_ofNat_of_valid (by omega)
  refine ⟨digitValue?_of_digitFree free (by omega) (by omega), ?_⟩
  obtain (ascii | kelvin) | further := target
  · omega
  · right
    rw [← Char.ofNat_toNat (shiftChar c shift), value, show (c.toNat + shift).toNat = 0x6b by omega]
  · exact .inl (by omega)

/-! ## Letters in a text -/

/-- What a letter becomes in lower case, with the letters before it and after it. -/
def lowerAt (before : List Char) (c : Char) (rest : List Char) : List Char :=
  if c.toNat = 0x3a3 then
    [if meetsCased before && !meetsCased rest then Char.ofNat 0x3c2 else Char.ofNat 0x3c3]
  else lowerChar c

theorem lowerChars_cons (before : List Char) (c : Char) (rest : List Char) :
    lowerChars before (c :: rest) = lowerAt before c rest ++ lowerChars (c :: before) rest := rfl

section Letters

variable {c : Char} (before rest : List Char)

theorem lowerAt_of_ascii (ascii : c.toNat < 0x80) : lowerAt before c rest = [c.toLower] := by
  rw [lowerAt, if_neg (by omega), lowerChar, if_pos ascii]

theorem lowerAt_of_digit (digit : digitValue? c ≠ none) :
    lowerAt before c rest = [c.toLower] := by
  by_cases ascii : c.toNat < 0x80
  · exact lowerAt_of_ascii before rest ascii
  · have sigma : c.toNat ≠ 0x3a3 := by
      intro same
      refine digit (digitValue?_eq_none_iff.mpr ?_)
      rw [same]
      decide
    have dotted : c.toNat ≠ 0x130 := by
      intro same
      refine digit (digitValue?_eq_none_iff.mpr ?_)
      rw [same]
      decide
    rw [lowerAt, if_neg sigma, lowerChar, if_neg ascii, if_neg dotted, tableShift?_of_digit digit,
      toLower_of_le (Nat.le_of_not_lt ascii)]
    rfl

/-- What is beyond ASCII and no digit leaves such a character behind in lower case, or the
letter k. -/
theorem exists_mem_lowerAt (beyond : 0x80 ≤ c.toNat) (other : digitValue? c = none) :
    ∃ d ∈ lowerAt before c rest, digitValue? d = none ∧ (0x80 ≤ d.toNat ∨ d = 'k') := by
  unfold lowerAt
  split
  · refine ⟨_, List.mem_singleton_self _, ?_⟩
    split <;> decide
  · unfold lowerChar
    rw [if_neg (Nat.not_lt_of_ge beyond)]
    split
    · exact ⟨Char.ofNat 0x307, by simp, by decide⟩
    · refine ⟨_, List.mem_singleton_self _, ?_⟩
      cases found : tableShift? CaseTable.lower c.toNat with
      | none => exact ⟨other, .inl beyond⟩
      | some shift => exact shiftChar_beyond beyond found

end Letters

end BuildingWorkflow
