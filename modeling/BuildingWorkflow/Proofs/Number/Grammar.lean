import BuildingWorkflow.Proofs.Number.Spelling

/-!
The grammar of numbers.

What is read as a number is said here without the reader: digits with single underscores between
them, a point, an exponent and a sign, or one of the words for infinity and NaN in any case. A text
is read exactly when it belongs to this grammar, without the blanks around it and with Latin digits
for those of other scripts.
-/
namespace BuildingWorkflow

/-- Digits, with single underscores between them. -/
inductive DigitRow : List Char → Prop
  | single {c : Char} : c.isDigit = true → DigitRow [c]
  | cons {c : Char} {row : List Char} : c.isDigit = true → DigitRow row → DigitRow (c :: row)
  | underscore {c : Char} {row : List Char} : c.isDigit = true → DigitRow row →
      DigitRow (c :: '_' :: row)

/-- A row with or without a sign in front. -/
inductive Signed (Row : List Char → Prop) : List Char → Prop
  | bare {row : List Char} : Row row → Signed Row row
  | plus {row : List Char} : Row row → Signed Row ('+' :: row)
  | minus {row : List Char} : Row row → Signed Row ('-' :: row)

inductive ExponentRow : List Char → Prop
  | absent : ExponentRow []
  | present {mark : Char} {row : List Char} : mark = 'e' ∨ mark = 'E' → Signed DigitRow row →
      ExponentRow (mark :: row)

/-- Digits with digits in front of a point, behind it or on both sides, or without a point. -/
inductive DecimalRow : List Char → Prop
  | whole {digits exponent : List Char} : DigitRow digits → ExponentRow exponent →
      DecimalRow (digits ++ exponent)
  | pointed {whole fraction exponent : List Char} : whole = [] ∨ DigitRow whole →
      fraction = [] ∨ DigitRow fraction → whole ≠ [] ∨ fraction ≠ [] → ExponentRow exponent →
      DecimalRow (whole ++ '.' :: (fraction ++ exponent))

def WordRow (row : List Char) : Prop :=
  String.ofList (row.map Char.toLower) ∈ ["inf", "infinity", "nan"]

def NumberRow : List Char → Prop := Signed fun row => WordRow row ∨ DecimalRow row

/-- A text is a number when its row is one, whatever the script of its digits. -/
def IsNumber (s : String) : Prop := NumberRow ((trimChars isBlank s.toList).map latinDigit)

/-! ## Underscores -/

/-- A row without its underscores. -/
def withoutUnderscores (row : List Char) : List Char := row.filter (· != '_')

/-- Characters of a row of digits. -/
def isDigitMark (c : Char) : Bool := c.isDigit || c == '_'

@[simp] theorem withoutUnderscores_nil : withoutUnderscores [] = [] := rfl

theorem withoutUnderscores_cons_of_ne {c : Char} (row : List Char) (other : c ≠ '_') :
    withoutUnderscores (c :: row) = c :: withoutUnderscores row :=
  List.filter_cons_of_pos (bne_iff_ne.mpr other)

/-- Digits go as far with underscores as without them. -/
theorem span_withoutUnderscores (row : List Char) :
    (withoutUnderscores row).takeWhile Char.isDigit =
        withoutUnderscores (row.takeWhile isDigitMark) ∧
      (withoutUnderscores row).dropWhile Char.isDigit =
        withoutUnderscores (row.dropWhile isDigitMark) := by
  induction row with
  | nil => exact ⟨rfl, rfl⟩
  | cons c row ih =>
      by_cases underscore : c = '_'
      · subst underscore
        exact ih
      · rw [withoutUnderscores_cons_of_ne row underscore]
        cases digit : c.isDigit with
        | true => simp [isDigitMark, digit, ih, withoutUnderscores_cons_of_ne, underscore]
        | false => simp [isDigitMark, digit, underscore, withoutUnderscores_cons_of_ne]

/-- Underscores stand between digits. -/
def Separate (row : List Char) : Prop := underscoresBetweenDigits false row = true

theorem Separate.head_ne {c : Char} {row : List Char} (separate : Separate (c :: row)) :
    c ≠ '_' := by
  rintro rfl
  cases row <;> simp [Separate, underscoresBetweenDigits] at separate

theorem separate_cons {c : Char} (row : List Char) (digit : c.isDigit = false) (other : c ≠ '_') :
    Separate (c :: row) ↔ Separate row := by
  rw [Separate, underscoresBetweenDigits_cons_of_ne _ _ other, digit]
  rfl

/-- What begins a row begins it without underscores, too. -/
theorem Separate.withoutUnderscores_eq_cons_iff {c : Char} {row behind : List Char}
    (separate : Separate row) : withoutUnderscores row = c :: behind ↔
      ∃ rest, row = c :: rest ∧ withoutUnderscores rest = behind := by
  cases row with
  | nil => simp
  | cons d row =>
      rw [withoutUnderscores_cons_of_ne row separate.head_ne]
      simp [and_assoc]

namespace DigitRow

theorem ne_nil {row : List Char} (digits : DigitRow row) : row ≠ [] := by
  cases digits <;> exact List.cons_ne_nil _ _

/-- After the digits of a row an underscore may follow. -/
theorem underscores_append {row : List Char} (digits : DigitRow row) (before : Bool)
    (rest : List Char) :
    underscoresBetweenDigits before (row ++ rest) = underscoresBetweenDigits true rest := by
  induction digits generalizing before with
  | single digit => exact underscoresBetweenDigits_cons_of_isDigit before rest digit
  | cons digit _ ih =>
      rw [List.cons_append, underscoresBetweenDigits_cons_of_isDigit _ _ digit, ih]
  | @underscore c row digit digits ih =>
      rw [List.cons_append, underscoresBetweenDigits_cons_of_isDigit _ _ digit]
      have first : ∃ d row', row = d :: row' ∧ d.isDigit = true := by
        cases digits <;> exact ⟨_, _, rfl, ‹_›⟩
      obtain ⟨d, row', rfl, digit'⟩ := first
      have further := ih false
      rw [List.cons_append, underscoresBetweenDigits_cons_of_isDigit _ _ digit'] at further
      simp only [List.cons_append, underscoresBetweenDigits, digit', Bool.true_and, further]

theorem all_isDigitMark {row : List Char} (digits : DigitRow row) :
    ∀ c ∈ row, isDigitMark c = true := by
  induction digits with
  | single digit => simp [isDigitMark, digit]
  | cons digit _ ih => simpa [isDigitMark, digit] using ih
  | underscore digit _ ih => simpa [isDigitMark, digit] using ih

/-- The digits of a row are there without the underscores. -/
theorem withoutUnderscores_ne_nil {row : List Char} (digits : DigitRow row) :
    withoutUnderscores row ≠ [] := by
  cases digits <;> simp [withoutUnderscores_cons_of_ne, ne_underscore_of_isDigit ‹_›]

end DigitRow

/-- Marks that are a row of digits, or none, or go on with a row after the digit before them. -/
def GoesOn (before : Bool) (marks : List Char) : Prop :=
  marks = [] ∨ DigitRow marks ∨
    before = true ∧ ∃ further, marks = '_' :: further ∧ DigitRow further

theorem GoesOn.cons {c : Char} {marks : List Char} (goesOn : GoesOn true marks)
    (digit : c.isDigit = true) : DigitRow (c :: marks) := by
  obtain rfl | digits | ⟨-, further, rfl, digits⟩ := goesOn
  · exact .single digit
  · exact .cons digit digits
  · exact .underscore digit digits

theorem goesOn_of_underscores {before : Bool} {row : List Char}
    (separate : underscoresBetweenDigits before row = true) :
    GoesOn before (row.takeWhile isDigitMark) ∧ Separate (row.dropWhile isDigitMark) := by
  fun_induction underscoresBetweenDigits before row with
  | case1 before => exact ⟨.inl rfl, rfl⟩
  | case2 before c row ih =>
      simp only [Bool.and_eq_true] at separate
      obtain ⟨⟨rfl, digit⟩, separate⟩ := separate
      obtain ⟨goesOn, rest⟩ := ih separate
      have mark : isDigitMark c = true := by rw [isDigitMark, digit, Bool.true_or]
      have underscore : isDigitMark '_' = true := rfl
      rw [List.takeWhile_cons_of_pos underscore, List.takeWhile_cons_of_pos mark,
        List.dropWhile_cons_of_pos underscore, List.dropWhile_cons_of_pos mark]
      exact ⟨.inr (.inr ⟨rfl, _, rfl, goesOn.cons digit⟩), rest⟩
  | case3 before => cases separate
  | case4 before c row inner last ih =>
      have other := ne_underscore inner last
      obtain ⟨goesOn, rest⟩ := ih separate
      cases digit : c.isDigit with
      | true =>
          rw [digit] at goesOn
          have mark : isDigitMark c = true := by rw [isDigitMark, digit, Bool.true_or]
          rw [List.takeWhile_cons_of_pos mark, List.dropWhile_cons_of_pos mark]
          exact ⟨.inr (.inl (goesOn.cons digit)), rest⟩
      | false =>
          have mark : ¬ isDigitMark c = true := by simp [isDigitMark, digit, other]
          rw [List.takeWhile_cons_of_neg mark, List.dropWhile_cons_of_neg mark]
          rw [digit] at separate
          exact ⟨.inl rfl, (separate_cons row digit other).mpr separate⟩

/-- A row that begins with no underscore begins with a row of digits or with none. -/
theorem Separate.digits {row : List Char} (separate : Separate row) :
    (row.takeWhile isDigitMark = [] ∨ DigitRow (row.takeWhile isDigitMark)) ∧
      Separate (row.dropWhile isDigitMark) := by
  obtain ⟨empty | digits | ⟨before, -⟩, rest⟩ := goesOn_of_underscores separate
  · exact ⟨.inl empty, rest⟩
  · exact ⟨.inr digits, rest⟩
  · cases before

theorem digitRow_iff {row : List Char} (separate : Separate row) :
    DigitRow row ↔ withoutUnderscores row ≠ [] ∧
      ∀ c ∈ withoutUnderscores row, c.isDigit = true := by
  constructor
  · intro digits
    refine ⟨digits.withoutUnderscores_ne_nil, fun c member => ?_⟩
    obtain ⟨inside, other⟩ := List.mem_filter.mp member
    have mark := digits.all_isDigitMark c inside
    simp only [isDigitMark, Bool.or_eq_true, beq_iff_eq] at mark
    exact mark.resolve_right (bne_iff_ne.mp other)
  · rintro ⟨filled, digits⟩
    have marks : row.takeWhile isDigitMark = row := by
      refine List.takeWhile_eq_self_iff.mpr fun c member => ?_
      by_cases underscore : c = '_'
      · rw [underscore]
        rfl
      · have digit := digits c (List.mem_filter.mpr ⟨member, bne_iff_ne.mpr underscore⟩)
        rw [isDigitMark, digit, Bool.true_or]
    obtain ⟨empty | row, -⟩ := separate.digits
    · rw [marks] at empty
      rw [empty] at filled
      exact absurd rfl filled
    · rwa [marks] at row

/-! ## Signs -/

theorem signed_iff {Row : List Char → Prop}
    (unsigned : ∀ row, Row row → takeSign row = (false, row)) (row : List Char) :
    Signed Row row ↔ Row (takeSign row).2 := by
  constructor
  · rintro (h | h | h)
    · rwa [unsigned row h]
    · exact h
    · exact h
  · intro h
    obtain ⟨rest, rfl, signed⟩ | ⟨rest, rfl, signed⟩ | unsigned := takeSign_cases row
    · rw [signed] at h
      exact .minus h
    · rw [signed] at h
      exact .plus h
    · rw [unsigned] at h
      exact .bare h

/-- A sign stands in front of a row with or without underscores. -/
theorem takeSign_withoutUnderscores {row : List Char} (separate : Separate row) :
    takeSign (withoutUnderscores row) =
        ((takeSign row).1, withoutUnderscores (takeSign row).2) ∧ Separate (takeSign row).2 := by
  cases row with
  | nil => exact ⟨rfl, rfl⟩
  | cons c row =>
      rw [withoutUnderscores_cons_of_ne row separate.head_ne]
      by_cases minus : c = '-'
      · subst minus
        exact ⟨rfl, (separate_cons row rfl (by decide)).mp separate⟩
      by_cases plus : c = '+'
      · subst plus
        exact ⟨rfl, (separate_cons row rfl (by decide)).mp separate⟩
      rw [takeSign_cons_of_ne _ minus plus, takeSign_cons_of_ne _ minus plus,
        withoutUnderscores_cons_of_ne row separate.head_ne]
      exact ⟨rfl, separate⟩

theorem DigitRow.takeSign {row : List Char} (digits : DigitRow row) :
    takeSign row = (false, row) := by
  cases digits <;> exact takeSign_of_isDigit ‹_› _

/-! ## Decimals -/

theorem isSome_readExponent?_cons (c : Char) (rest : List Char) :
    (readExponent? (c :: rest)).isSome = true ↔ (c = 'e' ∨ c = 'E') ∧
      (takeSign rest).2 ≠ [] ∧ ∀ d ∈ (takeSign rest).2, d.isDigit = true := by
  simp only [readExponent?, Bool.or_eq_true, decide_eq_true_eq]
  generalize (takeSign rest).2 = digits
  by_cases mark : c = 'e' ∨ c = 'E'
  · cases digits with
    | nil => simp [mark]
    | cons d digits =>
        by_cases all : (d :: digits).all Char.isDigit = true
        · simpa [mark, all] using List.all_eq_true.mp all
        · have foreign := mt List.all_eq_true.mpr all
          simp only [if_pos mark, all]
          simpa [mark] using foreign
  · simp [mark]

theorem exponentRow_iff {row : List Char} (separate : Separate row) :
    ExponentRow row ↔ (readExponent? (withoutUnderscores row)).isSome = true := by
  cases row with
  | nil => exact ⟨fun _ => rfl, fun _ => .absent⟩
  | cons c row =>
      rw [withoutUnderscores_cons_of_ne row separate.head_ne, isSome_readExponent?_cons]
      have further (mark : c = 'e' ∨ c = 'E') : Signed DigitRow row ↔
          (takeSign (withoutUnderscores row)).2 ≠ [] ∧
            ∀ d ∈ (takeSign (withoutUnderscores row)).2, d.isDigit = true := by
        have digit : c.isDigit = false := by obtain rfl | rfl := mark <;> rfl
        obtain ⟨same, separate⟩ :=
          takeSign_withoutUnderscores ((separate_cons row digit separate.head_ne).mp separate)
        rw [signed_iff fun _ => DigitRow.takeSign, same, digitRow_iff separate]
      constructor
      · rintro (_ | ⟨mark, signed⟩)
        exact ⟨mark, (further mark).mp signed⟩
      · rintro ⟨mark, digits⟩
        exact .present mark ((further mark).mpr digits)

theorem isSome_readDigits? (negative : Bool) (chars : List Char) :
    (readDigits? negative chars).isSome = true ↔
      (∃ behind, chars.dropWhile Char.isDigit = '.' :: behind ∧
        (chars.takeWhile Char.isDigit ≠ [] ∨ behind.takeWhile Char.isDigit ≠ []) ∧
        (readExponent? (behind.dropWhile Char.isDigit)).isSome = true) ∨
      chars.takeWhile Char.isDigit ≠ [] ∧
        (readExponent? (chars.dropWhile Char.isDigit)).isSome = true := by
  have isSome (whole fraction rest : List Char) (value : Int → Binary64) :
      (if whole.isEmpty && fraction.isEmpty then none
        else (readExponent? rest).map value).isSome = true ↔
      (whole ≠ [] ∨ fraction ≠ []) ∧ (readExponent? rest).isSome = true := by
    cases whole <;> cases fraction <;> simp
  unfold readDigits?
  split
  next fraction rest parts =>
  dsimp only
  rw [isSome]
  split at parts
  · next behind pointed =>
    obtain ⟨rfl, rfl⟩ := Prod.mk.inj parts
    have foreign : readExponent? ('.' :: behind) = none := rfl
    simp [pointed, foreign]
  · next pointless =>
    obtain ⟨rfl, rfl⟩ := Prod.mk.inj parts
    constructor
    · rintro ⟨filled | none, read⟩
      · exact .inr ⟨filled, read⟩
      · exact absurd rfl none
    · rintro (⟨behind, pointed, -⟩ | ⟨filled, read⟩)
      · exact (pointless behind pointed).elim
      · exact ⟨.inl filled, read⟩

/-- Where the marks of digits end. -/
theorem span_append {digits rest : List Char} (row : digits = [] ∨ DigitRow digits)
    (ends : ∀ c behind, rest = c :: behind → isDigitMark c = false) :
    (digits ++ rest).takeWhile isDigitMark = digits ∧
      (digits ++ rest).dropWhile isDigitMark = rest := by
  have marks : ∀ c ∈ digits, isDigitMark c = true := by
    obtain rfl | row := row
    · nofun
    · exact row.all_isDigitMark
  have none : rest.takeWhile isDigitMark = [] ∧ rest.dropWhile isDigitMark = rest := by
    cases rest with
    | nil => exact ⟨rfl, rfl⟩
    | cons c behind =>
        have foreign := ends c behind rfl
        simp [foreign]
  rw [List.takeWhile_append_of_pos marks, List.dropWhile_append_of_pos marks, none.1, none.2,
    List.append_nil]
  exact ⟨rfl, rfl⟩

theorem point_not_mark (rest : List Char) :
    ∀ c behind, '.' :: rest = c :: behind → isDigitMark c = false := by
  rintro c behind ⟨⟩
  rfl

theorem ExponentRow.not_mark {rest : List Char} (exponent : ExponentRow rest) :
    ∀ c behind, rest = c :: behind → isDigitMark c = false := by
  rintro c behind rfl
  obtain _ | ⟨rfl | rfl, -⟩ := exponent <;> rfl

/-- The parts of a decimal are the longest ones. -/
theorem decimalRow_iff_spans (row : List Char) : DecimalRow row ↔
    (row.takeWhile isDigitMark = [] ∨ DigitRow (row.takeWhile isDigitMark)) ∧
    ((∃ behind, row.dropWhile isDigitMark = '.' :: behind ∧
      (behind.takeWhile isDigitMark = [] ∨ DigitRow (behind.takeWhile isDigitMark)) ∧
      (row.takeWhile isDigitMark ≠ [] ∨ behind.takeWhile isDigitMark ≠ []) ∧
      ExponentRow (behind.dropWhile isDigitMark)) ∨
    row.takeWhile isDigitMark ≠ [] ∧ ExponentRow (row.dropWhile isDigitMark)) := by
  constructor
  · intro decimal
    cases decimal with
    | whole digits exponent =>
        obtain ⟨taken, left⟩ := span_append (.inr digits) exponent.not_mark
        rw [taken, left]
        exact ⟨.inr digits, .inr ⟨digits.ne_nil, exponent⟩⟩
    | @pointed whole fraction rest first second filled exponent =>
        obtain ⟨taken, left⟩ := span_append first (point_not_mark (fraction ++ rest))
        obtain ⟨taken', left'⟩ := span_append second exponent.not_mark
        rw [taken, left]
        refine ⟨first, .inl ⟨_, rfl, ?_⟩⟩
        rw [taken', left']
        exact ⟨second, filled, exponent⟩
  · rintro ⟨first, ⟨behind, pointed, second, filled, exponent⟩ | ⟨filled, exponent⟩⟩
    · rw [← row.takeWhile_append_dropWhile (p := isDigitMark), pointed,
        ← behind.takeWhile_append_dropWhile (p := isDigitMark)]
      exact .pointed first second filled exponent
    · rw [← row.takeWhile_append_dropWhile (p := isDigitMark)]
      exact .whole (first.resolve_left filled) exponent

theorem decimalRow_iff {row : List Char} (separate : Separate row) (negative : Bool) :
    DecimalRow row ↔ (readDigits? negative (withoutUnderscores row)).isSome = true := by
  have filled {digits : List Char} (row : digits = [] ∨ DigitRow digits) :
      withoutUnderscores digits ≠ [] ↔ digits ≠ [] := by
    obtain rfl | row := row
    · exact Iff.rfl
    · exact iff_of_true row.withoutUnderscores_ne_nil row.ne_nil
  obtain ⟨taken, left⟩ := span_withoutUnderscores row
  obtain ⟨first, separate⟩ := separate.digits
  rw [decimalRow_iff_spans, isSome_readDigits?, taken, left, and_iff_right first, filled first,
    exponentRow_iff separate]
  refine or_congr_left ?_
  have parts {behind : List Char} (pointed : row.dropWhile isDigitMark = '.' :: behind) :
      (behind.takeWhile isDigitMark = [] ∨ DigitRow (behind.takeWhile isDigitMark)) ∧
        (row.takeWhile isDigitMark ≠ [] ∨ behind.takeWhile isDigitMark ≠ []) ∧
        ExponentRow (behind.dropWhile isDigitMark) ↔
      (row.takeWhile isDigitMark ≠ [] ∨
        (withoutUnderscores behind).takeWhile Char.isDigit ≠ []) ∧
        (readExponent? ((withoutUnderscores behind).dropWhile Char.isDigit)).isSome = true := by
    rw [pointed] at separate
    obtain ⟨taken, left⟩ := span_withoutUnderscores behind
    obtain ⟨second, separate⟩ := ((separate_cons behind rfl (by decide)).mp separate).digits
    rw [taken, left, and_iff_right second, filled second, exponentRow_iff separate]
  constructor
  · rintro ⟨behind, pointed, decimal⟩
    refine ⟨withoutUnderscores behind, ?_, (parts pointed).mp decimal⟩
    rw [pointed]
    rfl
  · rintro ⟨behind', begins, decimal⟩
    obtain ⟨behind, pointed, rfl⟩ := separate.withoutUnderscores_eq_cons_iff.mp begins
    exact ⟨behind, pointed, (parts pointed).mpr decimal⟩

/-! ## Rows without underscores -/

/-- Behind every underscore stands a digit. -/
theorem exists_digit_of_underscore {before : Bool} {row : List Char}
    (separate : underscoresBetweenDigits before row = true) (member : '_' ∈ row) :
    ∃ c ∈ row, c ≠ '_' ∧ c.isDigit = true := by
  fun_induction underscoresBetweenDigits before row with
  | case1 before => cases member
  | case2 before c row ih =>
      simp only [Bool.and_eq_true] at separate
      exact ⟨c, by simp, ne_underscore_of_isDigit separate.1.2, separate.1.2⟩
  | case3 before => cases separate
  | case4 before c row inner last ih =>
      have later : '_' ∈ row :=
        (List.mem_cons.mp member).resolve_left (ne_underscore inner last).symm
      obtain ⟨d, inside, digit⟩ := ih separate later
      exact ⟨d, List.mem_cons_of_mem c inside, digit⟩

theorem WordRow.letters {row : List Char} (word : WordRow row) :
    ∀ c ∈ row, c ≠ '_' ∧ c ≠ '-' ∧ c ≠ '+' ∧ c.isDigit = false := by
  have letters : ∀ word ∈ ["inf", "infinity", "nan"],
      word.toList.all (fun c => c != '_' && c != '-' && c != '+' && !c.isDigit) = true := by decide
  intro c member
  have lowered := List.all_eq_true.mp (letters _ word) c.toLower (by simpa using ⟨c, member, rfl⟩)
  simp only [Bool.and_eq_true, bne_iff_ne, Bool.not_eq_true', isDigit_toLower] at lowered
  obtain ⟨⟨⟨underscore, minus⟩, plus⟩, digit⟩ := lowered
  refine ⟨?_, ?_, ?_, digit⟩
  · rintro rfl
    exact underscore rfl
  · rintro rfl
    exact minus rfl
  · rintro rfl
    exact plus rfl

theorem wordRow_iff {row : List Char} (separate : Separate row) :
    WordRow row ↔ WordRow (withoutUnderscores row) := by
  have kept (none : '_' ∉ row) : withoutUnderscores row = row :=
    List.filter_eq_self.mpr fun c member => bne_iff_ne.mpr fun same => none (same ▸ member)
  constructor
  · intro word
    rwa [kept fun member => (word.letters _ member).1 rfl]
  · intro word
    rwa [kept] at word
    intro member
    obtain ⟨c, inside, other, digit⟩ := exists_digit_of_underscore separate member
    have letter := word.letters c (List.mem_filter.mpr ⟨inside, bne_iff_ne.mpr other⟩)
    rw [letter.2.2.2] at digit
    cases digit

/-! ## Whole rows -/

theorem DigitRow.separate_append {row rest : List Char} (digits : row = [] ∨ DigitRow row)
    (separate : Separate rest) (ends : ∀ c behind, rest = c :: behind → isDigitMark c = false) :
    Separate (row ++ rest) := by
  obtain rfl | digits := digits
  · exact separate
  · rw [Separate, digits.underscores_append]
    cases rest with
    | nil => rfl
    | cons c behind =>
        have other := separate.head_ne
        rw [underscoresBetweenDigits_cons_of_ne _ _ other]
        rwa [Separate, underscoresBetweenDigits_cons_of_ne _ _ other] at separate

theorem DigitRow.separate {row : List Char} (digits : DigitRow row) : Separate row := by
  have alone : Separate (row ++ []) := DigitRow.separate_append (.inr digits) rfl nofun
  rwa [List.append_nil] at alone

theorem Signed.separate {Row : List Char → Prop} (each : ∀ row, Row row → Separate row)
    {row : List Char} (signed : Signed Row row) : Separate row := by
  obtain h | h | h := signed
  · exact each _ h
  · exact (separate_cons _ rfl (by decide)).mpr (each _ h)
  · exact (separate_cons _ rfl (by decide)).mpr (each _ h)

theorem ExponentRow.separate {row : List Char} (exponent : ExponentRow row) : Separate row := by
  obtain _ | ⟨mark, signed⟩ := exponent
  · rfl
  · have digits := signed.separate fun _ => DigitRow.separate
    obtain rfl | rfl := mark <;> exact (separate_cons _ rfl (by decide)).mpr digits

theorem DecimalRow.separate {row : List Char} (decimal : DecimalRow row) : Separate row := by
  cases decimal with
  | whole digits exponent =>
      exact DigitRow.separate_append (.inr digits) exponent.separate exponent.not_mark
  | pointed first second _ exponent =>
      have behind := DigitRow.separate_append second exponent.separate exponent.not_mark
      exact DigitRow.separate_append first ((separate_cons _ rfl (by decide)).mpr behind)
        (point_not_mark _)

theorem DecimalRow.takeSign {row : List Char} (decimal : DecimalRow row) :
    takeSign row = (false, row) := by
  have front {digits : List Char} (row : DigitRow digits) (rest : List Char) :
      BuildingWorkflow.takeSign (digits ++ rest) = (false, digits ++ rest) := by
    cases row <;> exact takeSign_of_isDigit ‹_› _
  cases decimal with
  | whole digits _ => exact front digits _
  | pointed first _ _ _ =>
      obtain rfl | digits := first
      · rfl
      · exact front digits _

theorem WordRow.takeSign {row : List Char} (word : WordRow row) : takeSign row = (false, row) := by
  cases row with
  | nil => rfl
  | cons c row =>
      obtain ⟨-, minus, plus, -⟩ := word.letters c List.mem_cons_self
      exact takeSign_cons_of_ne row minus plus

theorem isSome_readDecimal? (chars : List Char) : (readDecimal? chars).isSome = true ↔
    WordRow (takeSign chars).2 ∨
      (readDigits? (takeSign chars).1 (takeSign chars).2).isSome = true := by
  unfold readDecimal? WordRow
  dsimp only
  generalize String.ofList ((takeSign chars).2.map Char.toLower) = word
  split_ifs with infinite nan
  · simp only [Bool.or_eq_true, decide_eq_true_eq] at infinite
    obtain rfl | rfl := infinite <;> simp
  · simp [nan]
  · simp_all

theorem numberRow_iff (row : List Char) : NumberRow row ↔
    Separate row ∧ (readDecimal? (withoutUnderscores row)).isSome = true := by
  have unsigned (row : List Char) (number : WordRow row ∨ DecimalRow row) :
      takeSign row = (false, row) := number.elim WordRow.takeSign DecimalRow.takeSign
  have separates (row : List Char) (number : WordRow row ∨ DecimalRow row) : Separate row :=
    number.elim (fun word => underscoresBetweenDigits_of_none false fun c member =>
      (word.letters c member).1) DecimalRow.separate
  have read (separate : Separate row) :
      NumberRow row ↔ (readDecimal? (withoutUnderscores row)).isSome = true := by
    obtain ⟨same, separate⟩ := takeSign_withoutUnderscores separate
    rw [NumberRow, signed_iff unsigned, isSome_readDecimal?, same, wordRow_iff separate,
      decimalRow_iff separate (takeSign row).1]
  constructor
  · intro number
    have separate := Signed.separate separates number
    exact ⟨separate, (read separate).mp number⟩
  · rintro ⟨separate, number⟩
    exact (read separate).mpr number

/-- The grammar is what is read. -/
theorem isNumber_iff (s : String) : IsNumber s ↔ (readNumber? s).isSome = true := by
  rw [IsNumber, numberRow_iff, readNumber?_eq, readRow?]
  unfold Separate withoutUnderscores
  split <;> simp [*]

instance (s : String) : Decidable (IsNumber s) := decidable_of_iff _ (isNumber_iff s).symm

/-- Underscores stand between digits one at a time. -/
example : IsNumber " -1_000.5e+3 " ∧ ¬ IsNumber "1__000" := by decide +kernel

end BuildingWorkflow
