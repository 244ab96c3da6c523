import BuildingWorkflow.Number.Reading
import BuildingWorkflow.Proofs.Number.Shortest

/-!
The texts of finite doubles.

All of them have one form: a whole part without needless zeros, a fraction, and an exponent, one of
the last two at least. What is read from a text of this form is computed from its parts, and for the
text of a double it is this double.
-/
namespace BuildingWorkflow

/-- The parts of a decimal text. -/
structure DecimalForm where
  whole : List Char
  fraction : List Char
  exponent : Option Int
  whole_digits : ∀ c ∈ whole, c.isDigit = true
  whole_ne_nil : whole ≠ []
  whole_zero : whole.head? = some '0' → whole = ['0']
  fraction_digits : ∀ c ∈ fraction, c.isDigit = true
  /-- It cannot be taken for a whole number. -/
  marked : fraction ≠ [] ∨ exponent ≠ none

namespace DecimalForm

def pointed : List Char → List Char
  | [] => []
  | fraction => '.' :: fraction

def scaled : Option Int → List Char
  | none => []
  | some exponent => 'e' :: exponentText exponent

def text (form : DecimalForm) : List Char :=
  form.whole ++ (pointed form.fraction ++ scaled form.exponent)

def value (negative : Bool) (form : DecimalForm) : Binary64 :=
  .ofDecimal negative (digitsValue (form.whole ++ form.fraction))
    (form.exponent.getD 0 - form.fraction.length)

/-! ## Reading -/

/-- The digits of a written exponent; there are two of them at least. -/
def exponentDigits (n : Nat) : List Char := if n < 10 then '0' :: numeral n else numeral n

theorem isDigit_exponentDigits (n : Nat) : ∀ c ∈ exponentDigits n, c.isDigit = true := by
  unfold exponentDigits
  split
  · rw [List.forall_mem_cons]
    exact ⟨rfl, isDigit_numeral n⟩
  · exact isDigit_numeral n

theorem digitsValue_exponentDigits (n : Nat) : digitsValue (exponentDigits n) = n := by
  unfold exponentDigits
  split <;> exact digitsValue_numeral n

theorem exponentDigits_ne_nil (n : Nat) : exponentDigits n ≠ [] := by
  unfold exponentDigits
  split
  · exact List.cons_ne_nil _ _
  · exact numeral_ne_nil n

theorem exponentText_eq (n : Int) :
    exponentText n = (if n < 0 then '-' else '+') :: exponentDigits n.natAbs := rfl

theorem takeSign_exponentText (n : Int) :
    takeSign (exponentText n) = (decide (n < 0), exponentDigits n.natAbs) := by
  rw [exponentText_eq]
  by_cases negative : n < 0
  · rw [if_pos negative, decide_eq_true negative]
    rfl
  · rw [if_neg negative, decide_eq_false negative]
    rfl

theorem readExponent?_scaled (exponent : Option Int) :
    readExponent? (scaled exponent) = some (exponent.getD 0) := by
  cases exponent with
  | none => rfl
  | some n =>
      have digits := List.all_eq_true.mpr (isDigit_exponentDigits n.natAbs)
      have filled := List.isEmpty_eq_false_iff.mpr (exponentDigits_ne_nil n.natAbs)
      simp only [scaled, readExponent?, takeSign_exponentText, digits, filled,
        digitsValue_exponentDigits]
      have magnitude : (if n < 0 then -(n.natAbs : Int) else n.natAbs) = n := by omega
      simpa using magnitude

theorem dropWhile_text (form : DecimalForm) :
    form.text.dropWhile Char.isDigit = pointed form.fraction ++ scaled form.exponent := by
  rw [text, List.dropWhile_append_of_pos form.whole_digits]
  cases form.fraction with
  | nil => cases form.exponent <;> rfl
  | cons c rest => rfl

theorem takeWhile_text (form : DecimalForm) :
    form.text.takeWhile Char.isDigit = form.whole := by
  rw [text, List.takeWhile_append_of_pos form.whole_digits]
  cases form.fraction with
  | nil => cases form.exponent <;> exact List.append_nil _
  | cons c rest => exact List.append_nil _

/-- The whole part ends with a point that a digit follows, or with an exponent. -/
theorem after_whole (form : DecimalForm) :
    (∃ c rest, form.text.dropWhile Char.isDigit = '.' :: c :: rest ∧ c.isDigit = true) ∨
      ∃ rest, form.text.dropWhile Char.isDigit = 'e' :: rest := by
  have digits := form.fraction_digits
  rw [dropWhile_text]
  cases fraction : form.fraction with
  | cons c rest => exact .inl ⟨c, _, rfl, digits c (fraction ▸ List.mem_cons_self)⟩
  | nil =>
      cases scale : form.exponent with
      | none => exact absurd form.marked (by simp [fraction, scale])
      | some n => exact .inr ⟨_, rfl⟩

/-- What is read from a text of the form is its value. -/
theorem readDigits?_text (form : DecimalForm) (negative : Bool) :
    readDigits? negative form.text = some (form.value negative) := by
  have filled := List.isEmpty_eq_false_iff.mpr form.whole_ne_nil
  have digits := form.fraction_digits
  have exponent := readExponent?_scaled form.exponent
  unfold readDigits? value
  rw [takeWhile_text, dropWhile_text]
  cases fraction : form.fraction with
  | nil =>
      cases scale : form.exponent with
      | none => simp [pointed, scaled, filled, readExponent?]
      | some n =>
          rw [scale, scaled] at exponent
          simp [pointed, scaled, filled, exponent]
  | cons c rest =>
      rw [fraction] at digits
      have none_after : (scaled form.exponent).takeWhile Char.isDigit = [] := by
        cases form.exponent <;> rfl
      have all_after : (scaled form.exponent).dropWhile Char.isDigit = scaled form.exponent := by
        cases form.exponent <;> rfl
      simp only [pointed, List.cons_append]
      rw [← List.cons_append, List.takeWhile_append_of_pos digits,
        List.dropWhile_append_of_pos digits, none_after, all_after, exponent]
      simp [filled]

/-! ## Its characters -/

theorem head?_text (form : DecimalForm) : ∃ d, form.text.head? = some d ∧ d.isDigit = true := by
  have digits := form.whole_digits
  rw [text, List.head?_append_of_ne_nil _ form.whole_ne_nil]
  cases whole : form.whole with
  | nil => exact absurd whole form.whole_ne_nil
  | cons d rest => exact ⟨d, rfl, digits d (whole ▸ List.mem_cons_self)⟩

theorem mem_exponentText {c : Char} {n : Int} (member : c ∈ exponentText n) :
    c.isDigit = true ∨ c = '-' ∨ c = '+' := by
  rw [exponentText_eq, List.mem_cons] at member
  obtain sign | digit := member
  · right
    split at sign
    · exact .inl sign
    · exact .inr sign
  · exact .inl (isDigit_exponentDigits _ c digit)

theorem mem_text {form : DecimalForm} {c : Char} (member : c ∈ form.text) :
    c.isDigit = true ∨ c ∈ ['.', 'e', '-', '+'] := by
  simp only [text, List.mem_append] at member
  obtain whole | fraction | exponent := member
  · exact .inl (form.whole_digits c whole)
  · have digits := form.fraction_digits
    cases parts : form.fraction with
    | nil => simp [parts, pointed] at fraction
    | cons d rest =>
        rw [parts, pointed, List.mem_cons] at fraction
        · obtain rfl | digit := fraction
          · exact .inr (by simp)
          · exact .inl (digits c (parts ▸ digit))
        · simp
  · cases scale : form.exponent with
    | none => simp [scale, scaled] at exponent
    | some n =>
        rw [scale, scaled, List.mem_cons] at exponent
        obtain rfl | inside := exponent
        · exact .inr (by simp)
        · obtain digit | rfl | rfl := mem_exponentText inside
          · exact .inl digit
          · exact .inr (by simp)
          · exact .inr (by simp)

end DecimalForm

/-! ## The texts of doubles -/

theorem isDigit_zeros (count : Nat) : ∀ c ∈ List.replicate count '0', c.isDigit = true := by
  intro c member
  rw [List.eq_of_mem_replicate member]
  rfl

theorem pointed_eq {fraction : List Char} (ne : fraction ≠ []) :
    DecimalForm.pointed fraction = '.' :: fraction := by
  cases fraction with
  | nil => exact absurd rfl ne
  | cons c rest => rfl

/-- A text has the form, and its value is that of a decimal. -/
def Writes (text : List Char) (digits : Nat) (exponent : Int) : Prop :=
  ∃ form : DecimalForm, form.text = text ∧
    ∀ negative, form.value negative = .ofDecimal negative digits exponent

theorem writes_scaled {d : Char} {rest : List Char} (all : ∀ c ∈ d :: rest, c.isDigit = true)
    (head : d ≠ '0') (exponent : Int) :
    Writes (d :: (DecimalForm.pointed rest ++ 'e' :: exponentText exponent))
      (digitsValue (d :: rest)) (exponent + 1 - (d :: rest).length) := by
  rw [List.forall_mem_cons] at all
  refine ⟨⟨[d], rest, some exponent, by simp [all.1], by simp, by simp [head], all.2,
    .inr (Option.some_ne_none _)⟩, rfl, fun negative => ?_⟩
  rw [DecimalForm.value, List.singleton_append]
  refine congrArg _ ?_
  dsimp only [Option.getD_some, List.length_cons]
  omega

section Layouts

variable {digits : List Char} (all : ∀ c ∈ digits, c.isDigit = true) (ne : digits ≠ [])
  (head : digits.head? ≠ some '0')

include all ne

theorem writes_below_one (zeros : Nat) :
    Writes ('0' :: '.' :: (List.replicate zeros '0' ++ digits)) (digitsValue digits)
      (-zeros - digits.length) := by
  have filled : List.replicate zeros '0' ++ digits ≠ [] := by simp [ne]
  refine ⟨⟨['0'], List.replicate zeros '0' ++ digits, none, by simp, by simp, by simp,
    List.forall_mem_append.mpr ⟨isDigit_zeros _, all⟩, .inl filled⟩, ?_, fun negative => ?_⟩
  · simp [DecimalForm.text, DecimalForm.scaled, pointed_eq filled]
  · have value : digitsValue (['0'] ++ (List.replicate zeros '0' ++ digits)) =
        digitsValue digits := by
      rw [← List.append_assoc, digitsValue_append, List.singleton_append, ← List.replicate_succ,
        digitsValue_zeros, Nat.zero_mul, Nat.zero_add]
    have exponent : (0 : Int) - (List.replicate zeros '0' ++ digits).length =
        -zeros - digits.length := by
      rw [List.length_append, List.length_replicate]
      omega
    rw [DecimalForm.value, value]
    exact congrArg _ exponent

include head

theorem writes_whole (zeros : Nat) (few : digits.length + zeros ≤ 16) :
    Writes (digits ++ List.replicate zeros '0' ++ ['.', '0']) (digitsValue digits) zeros := by
  refine ⟨⟨digits ++ List.replicate zeros '0', ['0'], none,
    List.forall_mem_append.mpr ⟨all, isDigit_zeros _⟩, by simp [ne], fun zero => ?_, by simp,
    by simp⟩, ?_, fun negative => ?_⟩
  · rw [List.head?_append_of_ne_nil _ ne] at zero
    exact absurd zero head
  · simp [DecimalForm.text, DecimalForm.scaled, DecimalForm.pointed]
  · have value : digitsValue (digits ++ List.replicate zeros '0' ++ ['0']) =
        digitsValue digits * 10 ^ (zeros + 1) := by
      rw [List.append_assoc, ← List.replicate_succ', digitsValue_append, digitsValue_zeros,
        List.length_replicate, Nat.add_zero]
    have bounded : digitsValue digits * 10 ^ (zeros + 1) < 2 ^ 64 := by
      calc digitsValue digits * 10 ^ (zeros + 1)
          < 10 ^ digits.length * 10 ^ (zeros + 1) :=
            Nat.mul_lt_mul_of_pos_right (digitsValue_lt all) (by positivity)
        _ = 10 ^ (digits.length + (zeros + 1)) := (pow_add ..).symm
        _ ≤ 10 ^ 17 := Nat.pow_le_pow_right (by decide) (by omega)
        _ < 2 ^ 64 := by decide
    have shifted := Binary64.ofDecimal_mul_pow negative (digitsValue digits) (zeros + 1) (-1)
      bounded (by decide) (by omega)
    rw [DecimalForm.value, value]
    refine shifted.trans (congrArg _ ?_)
    omega

theorem writes_split (count : Nat) (pos : 0 < count) (few : count < digits.length) :
    Writes (digits.take count ++ '.' :: digits.drop count) (digitsValue digits)
      (count - digits.length) := by
  have filled : digits.drop count ≠ [] := by simpa using few
  refine ⟨⟨digits.take count, digits.drop count, none,
    fun c member => all c (List.mem_of_mem_take member), ?_, fun zero => ?_,
    fun c member => all c (List.mem_of_mem_drop member), .inl filled⟩, ?_, fun negative => ?_⟩
  · simp [ne]
    omega
  · rw [List.head?_take, if_neg (by omega)] at zero
    exact absurd zero head
  · simp [DecimalForm.text, DecimalForm.scaled, pointed_eq filled]
  · rw [DecimalForm.value, List.take_append_drop, List.length_drop]
    refine congrArg _ ?_
    dsimp only [Option.getD_none]
    omega

/-- Whichever layout is chosen, a row of digits with a point is written in the form. -/
theorem writes_pointText (point : Int) :
    Writes (pointText digits point) (digitsValue digits) (point - digits.length) := by
  unfold pointText
  split_ifs with near fractional whole
  · have places : -((-point).toNat : Int) - digits.length = point - digits.length := by omega
    have written := writes_below_one all ne (-point).toNat
    rwa [places] at written
  · simp only [Bool.and_eq_true, decide_eq_true_eq] at near
    have places : ((point.toNat - digits.length : Nat) : Int) = point - digits.length := by omega
    have written := writes_whole all ne head (point.toNat - digits.length) (by omega)
    rwa [places] at written
  · have places : (point.toNat : Int) - digits.length = point - digits.length := by omega
    have written := writes_split all ne head point.toNat (by omega) (by omega)
    rwa [places] at written
  · cases digits with
    | nil => exact absurd rfl ne
    | cons d rest =>
        have written := writes_scaled all (fun zero => head (congrArg some zero)) (point - 1)
        rw [Int.sub_add_cancel] at written
        cases rest <;> exact written

end Layouts

theorem dropFinalZeros_append (digits : List Char) :
    ∃ zeros, digits = dropFinalZeros digits ++ List.replicate zeros '0' := by
  have zeros : ∀ c ∈ digits.rtakeWhile (· == '0'), c = '0' := fun c member =>
    eq_of_beq (List.mem_rtakeWhile_imp (p := (· == '0')) member)
  refine ⟨(digits.rtakeWhile (· == '0')).length, ?_⟩
  rw [← List.eq_replicate_of_mem zeros]
  exact List.rdropWhile_append_rtakeWhile.symm

/-- The text of a double is written in the form, and its value is the double. -/
theorem exists_form_of_unitsText {units : Nat} (rep : Representable units) :
    ∃ form : DecimalForm, form.text = unitsText units ∧
      ∀ negative, form.value negative = .finite negative units rep := by
  unfold unitsText
  split_ifs with zero
  · subst zero
    refine ⟨⟨['0'], ['0'], none, by simp, by simp, by simp, by simp, by simp⟩, rfl, ?_⟩
    exact fun negative => Binary64.ofDecimal_zero negative _
  · have pos := Nat.pos_of_ne_zero zero
    obtain ⟨back, few, low, high⟩ := shortest_spec rep pos
    have many := digits_pos_of_readsBack pos back
    dsimp only
    generalize shortest units = d at *
    obtain ⟨zeros, split⟩ := dropFinalZeros_append (numeral d.digits)
    generalize dropFinalZeros (numeral d.digits) = digits at *
    have value : d.digits = digitsValue digits * 10 ^ zeros := by
      rw [← digitsValue_numeral d.digits, split, digitsValue_append, digitsValue_zeros,
        List.length_replicate, Nat.add_zero]
    have length : (numeral d.digits).length = digits.length + zeros := by
      rw [split, List.length_append, List.length_replicate]
    have short := (length_numeral_le_iff (n := d.digits) (k := 18) (by decide)).mpr (by omega)
    have ne : digits ≠ [] := by
      rintro rfl
      rw [digitsValue_nil, Nat.zero_mul] at value
      omega
    have all : ∀ c ∈ digits, c.isDigit = true := fun c member =>
      isDigit_numeral d.digits c (split ▸ List.mem_append_left _ member)
    have head : digits.head? ≠ some '0' := by
      have first := head?_numeral many
      rwa [split, List.head?_append_of_ne_nil _ ne] at first
    obtain ⟨form, text, same⟩ :=
      writes_pointText all ne head ((numeral d.digits).length + d.exponent)
    refine ⟨form, text, fun negative => ?_⟩
    have places : ((numeral d.digits).length : Int) + d.exponent - digits.length =
        d.exponent + zeros := by omega
    have shifted := Binary64.ofDecimal_mul_pow negative (digitsValue digits) zeros d.exponent
      (by omega) (by omega) (by omega)
    rw [same, places, ← shifted, ← value]
    exact Binary64.ofDecimal_of_readsBack rep back negative

end BuildingWorkflow
