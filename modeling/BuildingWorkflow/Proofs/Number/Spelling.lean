import BuildingWorkflow.Number.Reading
import BuildingWorkflow.Proofs.Text.Case
import Mathlib.Data.List.TakeWhile

/-!
Numbers read from texts in any case.

The grammar of numbers has digits, a few marks and the letters of a few words, and takes the letters
in either case. A text is therefore read as the text in lower case is: what belongs to the grammar
stays what it is, and a text with anything else in it is no number, nor does it become one.
-/
namespace BuildingWorkflow

/-- What is read when nothing stands around the number. -/
def readRow? (chars : List Char) : Option Binary64 :=
  if underscoresBetweenDigits false (chars.map latinDigit) then
    readDecimal? ((chars.map latinDigit).filter (· != '_'))
  else none

theorem readNumber?_eq (s : String) : readNumber? s = readRow? (trimChars isBlank s.toList) := rfl

/-! ## The grammar in lower case -/

theorem isDigit_toLower (c : Char) : c.toLower.isDigit = c.isDigit := by
  obtain ascii | beyond := Nat.lt_or_ge c.toNat 0x80
  · exact forall_ascii (p := fun c => c.toLower.isDigit = c.isDigit) (by decide) ascii
  · rw [toLower_of_le beyond]

theorem toLower_of_isDigit {c : Char} (digit : c.isDigit = true) : c.toLower = c := by
  obtain ascii | beyond := Nat.lt_or_ge c.toNat 0x80
  · exact forall_ascii (p := fun c => c.isDigit = true → c.toLower = c) (by decide) ascii digit
  · exact toLower_of_le beyond

theorem toLower_toLower (c : Char) : c.toLower.toLower = c.toLower := by
  obtain ascii | beyond := Nat.lt_or_ge c.toNat 0x80
  · exact forall_ascii (p := fun c => c.toLower.toLower = c.toLower) (by decide) ascii
  · rw [toLower_of_le beyond, toLower_of_le beyond]

/-- Marks have no case. -/
theorem toLower_eq_mark_iff {c mark : Char} (known : mark ∈ ['+', '-', '.', '_']) :
    c.toLower = mark ↔ c = mark := by
  obtain ascii | beyond := Nat.lt_or_ge c.toNat 0x80
  · simp only [List.mem_cons, List.not_mem_nil, or_false] at known
    obtain rfl | rfl | rfl | rfl := known <;>
      exact forall_ascii (p := fun c => c.toLower = _ ↔ c = _) (by decide) ascii
  · rw [toLower_of_le beyond]

theorem map_toLower_of_digits {chars : List Char} (digits : ∀ c ∈ chars, c.isDigit = true) :
    chars.map Char.toLower = chars :=
  (List.map_congr_left fun c member => toLower_of_isDigit (digits c member)).trans
    (List.map_id chars)

theorem all_isDigit_map (chars : List Char) :
    (chars.map Char.toLower).all Char.isDigit = chars.all Char.isDigit := by
  simp only [List.all_map, Function.comp_def, isDigit_toLower]

theorem takeWhile_isDigit_map (chars : List Char) :
    (chars.map Char.toLower).takeWhile Char.isDigit = chars.takeWhile Char.isDigit := by
  simp only [List.takeWhile_map, Function.comp_def, isDigit_toLower]
  exact map_toLower_of_digits fun c => List.mem_takeWhile_imp

theorem dropWhile_isDigit_map (chars : List Char) :
    (chars.map Char.toLower).dropWhile Char.isDigit =
      (chars.dropWhile Char.isDigit).map Char.toLower := by
  simp only [List.dropWhile_map, Function.comp_def, isDigit_toLower]

theorem takeSign_cons_of_ne {c : Char} (rest : List Char) (minus : c ≠ '-') (plus : c ≠ '+') :
    takeSign (c :: rest) = (false, c :: rest) := by
  unfold takeSign
  split <;> simp_all

/-- A row begins with one of the two signs, or is taken as it is. -/
theorem takeSign_cases (chars : List Char) :
    (∃ rest, chars = '-' :: rest ∧ takeSign chars = (true, rest)) ∨
      (∃ rest, chars = '+' :: rest ∧ takeSign chars = (false, rest)) ∨
      takeSign chars = (false, chars) := by
  unfold takeSign
  split
  · exact .inl ⟨_, rfl, rfl⟩
  · exact .inr (.inl ⟨_, rfl, rfl⟩)
  · exact .inr (.inr rfl)

theorem takeSign_of_isDigit {c : Char} (digit : c.isDigit = true) (rest : List Char) :
    takeSign (c :: rest) = (false, c :: rest) := by
  apply takeSign_cons_of_ne
  · rintro rfl
    cases digit
  · rintro rfl
    cases digit

theorem takeSign_map (chars : List Char) :
    takeSign (chars.map Char.toLower) = ((takeSign chars).1, (takeSign chars).2.map Char.toLower) := by
  cases chars with
  | nil => rfl
  | cons c rest =>
      by_cases minus : c = '-'
      · rw [minus]
        rfl
      by_cases plus : c = '+'
      · rw [plus]
        rfl
      have minus' : c.toLower ≠ '-' := (toLower_eq_mark_iff (by decide)).not.mpr minus
      have plus' : c.toLower ≠ '+' := (toLower_eq_mark_iff (by decide)).not.mpr plus
      rw [List.map_cons, takeSign_cons_of_ne _ minus' plus', takeSign_cons_of_ne _ minus plus,
        List.map_cons]

theorem readExponent?_map (chars : List Char) :
    readExponent? (chars.map Char.toLower) = readExponent? chars := by
  cases chars with
  | nil => rfl
  | cons c rest =>
      have mark : (c.toLower = 'e' ∨ c.toLower = 'E') ↔ (c = 'e' ∨ c = 'E') := by
        obtain ascii | beyond := Nat.lt_or_ge c.toNat 0x80
        · exact forall_ascii
            (p := fun c => (c.toLower = 'e' ∨ c.toLower = 'E') ↔ (c = 'e' ∨ c = 'E'))
            (by decide) ascii
        · rw [toLower_of_le beyond]
      simp only [List.map_cons, readExponent?, takeSign_map, all_isDigit_map, Bool.or_eq_true,
        decide_eq_true_eq, mark, List.isEmpty_map]
      by_cases digits : (takeSign rest).2.all Char.isDigit = true
      · rw [map_toLower_of_digits (List.all_eq_true.mp digits)]
      · simp [digits]

theorem readDigits?_map (negative : Bool) (chars : List Char) :
    readDigits? negative (chars.map Char.toLower) = readDigits? negative chars := by
  unfold readDigits?
  rw [takeWhile_isDigit_map, dropWhile_isDigit_map]
  cases chars.dropWhile Char.isDigit with
  | nil => rfl
  | cons c rest =>
      by_cases point : c = '.'
      · rw [point]
        simp [takeWhile_isDigit_map, dropWhile_isDigit_map, readExponent?_map]
      · have point' : c.toLower ≠ '.' := (toLower_eq_mark_iff (by decide)).not.mpr point
        have exponent := readExponent?_map (c :: rest)
        simp_all

theorem readDecimal?_map (chars : List Char) :
    readDecimal? (chars.map Char.toLower) = readDecimal? chars := by
  simp only [readDecimal?, takeSign_map, readDigits?_map, List.map_map, Function.comp_def,
    toLower_toLower]

theorem underscoresBetweenDigits_cons_of_ne (before : Bool) {c : Char} (rest : List Char)
    (other : c ≠ '_') :
    underscoresBetweenDigits before (c :: rest) = underscoresBetweenDigits c.isDigit rest := by
  rw [underscoresBetweenDigits]
  · exact fun _ _ same _ => other same
  · exact fun same _ => other same

theorem ne_underscore_of_isDigit {c : Char} (digit : c.isDigit = true) : c ≠ '_' := by
  rintro rfl
  cases digit

theorem underscoresBetweenDigits_cons_of_isDigit (before : Bool) {c : Char} (rest : List Char)
    (digit : c.isDigit = true) :
    underscoresBetweenDigits before (c :: rest) = underscoresBetweenDigits true rest := by
  rw [underscoresBetweenDigits_cons_of_ne _ _ (ne_underscore_of_isDigit digit), digit]

/-- What is no underscore before the end nor before another character is none. -/
theorem ne_underscore {c : Char} {rest : List Char}
    (inner : ∀ d behind, c = '_' → rest = d :: behind → False)
    (last : c = '_' → rest = [] → False) : c ≠ '_' := by
  intro same
  cases rest with
  | nil => exact last same rfl
  | cons d behind => exact inner d behind same rfl

theorem underscoresBetweenDigits_of_none (before : Bool) {chars : List Char}
    (none : ∀ c ∈ chars, c ≠ '_') : underscoresBetweenDigits before chars = true := by
  induction chars generalizing before with
  | nil => rfl
  | cons c rest ih =>
      rw [List.forall_mem_cons] at none
      rw [underscoresBetweenDigits_cons_of_ne before rest none.1]
      exact ih _ none.2

theorem underscoresBetweenDigits_map (before : Bool) (chars : List Char) :
    underscoresBetweenDigits before (chars.map Char.toLower) =
      underscoresBetweenDigits before chars := by
  fun_induction underscoresBetweenDigits before chars with
  | case1 before => rfl
  | case2 before c rest ih =>
      simp only [List.map_cons, show '_'.toLower = '_' from rfl, underscoresBetweenDigits,
        isDigit_toLower, ih]
  | case3 before => rfl
  | case4 before c rest inner last ih =>
      have other := ne_underscore inner last
      have other' : c.toLower ≠ '_' := (toLower_eq_mark_iff (by decide)).not.mpr other
      rw [List.map_cons, underscoresBetweenDigits_cons_of_ne _ _ other', isDigit_toLower, ih]

theorem latinDigit_of_not_digit {c : Char} (other : digitValue? c = none) : latinDigit c = c := by
  rw [latinDigit, other]

theorem latinDigit_of_ascii {c : Char} (ascii : c.toNat < 0x80) : latinDigit c = c := by
  by_cases digit : c.isDigit = true
  · exact forall_ascii (p := fun c => c.isDigit = true → latinDigit c = c) (by decide +kernel)
      ascii digit
  · rw [← isSome_digitValue?_of_ascii ascii, Option.not_isSome_iff_eq_none] at digit
    exact latinDigit_of_not_digit digit

theorem isDigit_latinDigit {c : Char} (digit : digitValue? c ≠ none) :
    (latinDigit c).isDigit = true := by
  obtain ⟨value, known⟩ := Option.ne_none_iff_exists'.mp digit
  have small : value < 10 := by
    obtain ⟨start, first, rfl⟩ := Option.map_eq_some_iff.mp known
    have inside := List.find?_some first
    simp only [Bool.and_eq_true, decide_eq_true_eq] at inside
    omega
  have each : ∀ value < 10, (digitChar value).isDigit = true := by decide
  rw [latinDigit, known]
  exact each value small

theorem latinDigit_toLower (c : Char) : latinDigit c.toLower = (latinDigit c).toLower := by
  obtain ascii | beyond := Nat.lt_or_ge c.toNat 0x80
  · rw [latinDigit_of_ascii ascii, latinDigit_of_ascii (toLower_lt ascii)]
  · rw [toLower_of_le beyond]
    by_cases digit : digitValue? c = none
    · rw [latinDigit_of_not_digit digit, toLower_of_le beyond]
    · rw [toLower_of_isDigit (isDigit_latinDigit digit)]

/-- Reading takes no notice of the case of ASCII letters. -/
theorem readRow?_map (chars : List Char) : readRow? (chars.map Char.toLower) = readRow? chars := by
  have latin : (chars.map Char.toLower).map latinDigit =
      (chars.map latinDigit).map Char.toLower := by
    simp only [List.map_map, Function.comp_def, latinDigit_toLower]
  have kept : ((chars.map latinDigit).map Char.toLower).filter (· != '_') =
      ((chars.map latinDigit).filter (· != '_')).map Char.toLower := by
    rw [List.filter_map]
    refine congrArg (List.map Char.toLower) (List.filter_congr fun c _ => ?_)
    have mark : c.toLower = '_' ↔ c = '_' := toLower_eq_mark_iff (by decide)
    simp only [Function.comp_apply, bne, beq_eq_decide, mark]
  rw [readRow?, readRow?, latin, underscoresBetweenDigits_map, kept, readDecimal?_map]

/-! ## What is foreign to the grammar -/

/-- The marks of the grammar, and the letters of its words in lower case. -/
def decimalMarks : List Char := ['+', '-', '.', '_', 'a', 'e', 'f', 'i', 'n', 't', 'y']

theorem ascii_of_mark {c : Char} (mark : c ∈ decimalMarks) : c.toNat < 0x80 := by
  have each : decimalMarks.all (·.toNat < 0x80) = true := by decide
  simpa using List.all_eq_true.mp each c mark

/-- Whether a character belongs to the grammar of numbers. -/
def isDecimalChar (c : Char) : Bool :=
  (digitValue? c).isSome || decimalMarks.contains c.toLower

theorem isDecimalChar_of_ascii {c : Char} (ascii : c.toNat < 0x80) :
    isDecimalChar c = (c.isDigit || decimalMarks.contains c.toLower) := by
  rw [isDecimalChar, isSome_digitValue?_of_ascii ascii]

theorem isDecimalChar_of_isDigit {c : Char} (digit : c.isDigit = true) :
    isDecimalChar c = true := by
  have ascii : c.toNat < 0x80 := by
    have bounds := Char.isDigit_iff_toNat.mp digit
    have nine : '9'.toNat = 57 := rfl
    omega
  rw [isDecimalChar_of_ascii ascii, digit]
  rfl

theorem isDecimalChar_of_mark {c : Char} (mark : c.toLower ∈ decimalMarks) :
    isDecimalChar c = true := by
  rw [isDecimalChar, Bool.or_eq_true, List.contains_iff_mem]
  exact .inr mark

theorem isDecimalChar_of_latinDigit {c : Char} (known : isDecimalChar (latinDigit c) = true) :
    isDecimalChar c = true := by
  by_cases digit : digitValue? c = none
  · rwa [latinDigit_of_not_digit digit] at known
  · rw [isDecimalChar, Option.isSome_iff_ne_none.mpr digit]
    rfl

theorem mem_takeSign {c : Char} {chars : List Char} (member : c ∈ chars) :
    isDecimalChar c = true ∨ c ∈ (takeSign chars).2 := by
  obtain ⟨rest, rfl, signed⟩ | ⟨rest, rfl, signed⟩ | unsigned := takeSign_cases chars
  · rw [signed]
    obtain rfl | inside := List.mem_cons.mp member
    · exact .inl (by decide +kernel)
    · exact .inr inside
  · rw [signed]
    obtain rfl | inside := List.mem_cons.mp member
    · exact .inl (by decide +kernel)
    · exact .inr inside
  · rw [unsigned]
    exact .inr member

theorem isDecimalChar_of_readExponent? {chars : List Char} {exponent : Int}
    (read : readExponent? chars = some exponent) : ∀ c ∈ chars, isDecimalChar c = true := by
  cases chars with
  | nil => nofun
  | cons mark rest =>
      have letter : mark = 'e' ∨ mark = 'E' := by
        by_contra other
        simp [readExponent?, other] at read
      have digits : ∀ c ∈ (takeSign rest).2, c.isDigit = true := by
        by_contra other
        rw [← List.all_eq_true, Bool.not_eq_true] at other
        simp [readExponent?, other] at read
      rw [List.forall_mem_cons]
      constructor
      · obtain rfl | rfl := letter <;> decide +kernel
      · intro c member
        obtain known | inside := mem_takeSign member
        · exact known
        · exact isDecimalChar_of_isDigit (digits c inside)

/-- Behind the digits in front stand a point with digits, if anything, and an exponent. -/
theorem parts_of_readDigits? {negative : Bool} {chars : List Char} {x : Binary64}
    (read : readDigits? negative chars = some x) : ∃ point fraction rest, ∃ exponent,
      chars.dropWhile Char.isDigit = point ++ (fraction ++ rest) ∧ (∀ c ∈ point, c = '.') ∧
        (∀ c ∈ fraction, c.isDigit = true) ∧ readExponent? rest = some exponent := by
  unfold readDigits? at read
  split at read
  next fraction rest parts =>
  have ⟨exponent, found⟩ : ∃ exponent, readExponent? rest = some exponent := by
    dsimp only at read
    split at read
    · cases read
    · obtain ⟨exponent, found, -⟩ := Option.map_eq_some_iff.mp read
      exact ⟨exponent, found⟩
  split at parts
  · next behind pointed =>
    obtain ⟨rfl, rfl⟩ := Prod.mk.inj parts
    refine ⟨['.'], behind.takeWhile Char.isDigit, behind.dropWhile Char.isDigit, exponent, ?_,
      by simp, fun c => List.mem_takeWhile_imp, found⟩
    rw [pointed, List.takeWhile_append_dropWhile]
    rfl
  · obtain ⟨rfl, rfl⟩ := Prod.mk.inj parts
    exact ⟨[], [], chars.dropWhile Char.isDigit, exponent, rfl, nofun, nofun, found⟩

theorem isDecimalChar_of_readDigits? {negative : Bool} {chars : List Char} {x : Binary64}
    (read : readDigits? negative chars = some x) : ∀ c ∈ chars, isDecimalChar c = true := by
  obtain ⟨point, fraction, rest, exponent, parts, points, digits, found⟩ :=
    parts_of_readDigits? read
  intro c member
  rw [← List.takeWhile_append_dropWhile (p := Char.isDigit) (l := chars), parts] at member
  simp only [List.mem_append] at member
  obtain whole | mark | part | behind := member
  · exact isDecimalChar_of_isDigit (List.mem_takeWhile_imp whole)
  · rw [points c mark]
    decide +kernel
  · exact isDecimalChar_of_isDigit (digits c part)
  · exact isDecimalChar_of_readExponent? found c behind

theorem isDecimalChar_of_word {chars : List Char} (word : List Char)
    (same : String.ofList (chars.map Char.toLower) = String.ofList word)
    (letters : word.all decimalMarks.contains = true) : ∀ c ∈ chars, isDecimalChar c = true := by
  intro c member
  apply isDecimalChar_of_mark
  apply List.contains_iff_mem.mp
  apply List.all_eq_true.mp letters
  rw [← String.ofList_inj.mp same]
  exact List.mem_map_of_mem member

theorem isDecimalChar_of_readDecimal? {chars : List Char} {x : Binary64}
    (read : readDecimal? chars = some x) : ∀ c ∈ chars, isDecimalChar c = true := by
  have unsigned : ∀ c ∈ (takeSign chars).2, isDecimalChar c = true := by
    unfold readDecimal? at read
    dsimp only at read
    split_ifs at read with infinite nan
    · obtain short | long := Bool.or_eq_true _ _ ▸ infinite
      · exact isDecimalChar_of_word ['i', 'n', 'f'] (by simpa using short) (by decide)
      · exact isDecimalChar_of_word ['i', 'n', 'f', 'i', 'n', 'i', 't', 'y']
          (by simpa using long) (by decide)
    · exact isDecimalChar_of_word ['n', 'a', 'n'] nan (by decide)
    · exact isDecimalChar_of_readDigits? read
  intro c member
  obtain known | inside := mem_takeSign member
  · exact known
  · exact unsigned c inside

/-- A number is written with characters of the grammar alone. -/
theorem isDecimalChar_of_readRow? {chars : List Char} {x : Binary64}
    (read : readRow? chars = some x) : ∀ c ∈ chars, isDecimalChar c = true := by
  intro c member
  rw [readRow?] at read
  split_ifs at read
  apply isDecimalChar_of_latinDigit
  by_cases underscore : latinDigit c = '_'
  · rw [underscore]
    decide +kernel
  · refine isDecimalChar_of_readDecimal? read _ (List.mem_filter.mpr ⟨?_, ?_⟩)
    · exact List.mem_map_of_mem member
    · simpa using underscore

/-- A character of the grammar is one character of the grammar in lower case. -/
theorem lowerAt_of_isDecimalChar {c : Char} (known : isDecimalChar c = true)
    (before rest : List Char) : lowerAt before c rest = [c.toLower] := by
  rw [isDecimalChar, Bool.or_eq_true, List.contains_iff_mem] at known
  obtain digit | mark := known
  · exact lowerAt_of_digit before rest (Option.isSome_iff_ne_none.mp digit)
  · apply lowerAt_of_ascii
    by_contra beyond
    rw [toLower_of_le (Nat.le_of_not_lt beyond)] at mark
    exact beyond (ascii_of_mark mark)

/-- What is foreign leaves something foreign behind in lower case. -/
theorem exists_foreign_lowerAt {c : Char} (foreign : isDecimalChar c = false)
    (before rest : List Char) : ∃ d ∈ lowerAt before c rest, isDecimalChar d = false := by
  obtain ascii | beyond := Nat.lt_or_ge c.toNat 0x80
  · rw [lowerAt_of_ascii before rest ascii]
    refine ⟨_, List.mem_singleton_self _, ?_⟩
    rwa [isDecimalChar_of_ascii (toLower_lt ascii), isDigit_toLower, toLower_toLower,
      ← isDecimalChar_of_ascii ascii]
  · have other : digitValue? c = none := by
      rw [isDecimalChar, Bool.or_eq_false_iff] at foreign
      exact Option.not_isSome_iff_eq_none.mp (by simp [foreign.1])
    obtain ⟨d, member, none, further | rfl⟩ := exists_mem_lowerAt before rest beyond other
    · refine ⟨d, member, ?_⟩
      rw [isDecimalChar, none, toLower_of_le further]
      rw [Option.isSome_none, Bool.false_or, ← Bool.not_eq_true, List.contains_iff_mem]
      exact fun mark => absurd (ascii_of_mark mark) (Nat.not_lt_of_ge further)
    · exact ⟨'k', member, by decide +kernel⟩

theorem lowerChars_of_isDecimalChar {chars : List Char}
    (known : ∀ c ∈ chars, isDecimalChar c = true) (before : List Char) :
    lowerChars before chars = chars.map Char.toLower := by
  induction chars generalizing before with
  | nil => rfl
  | cons c rest ih =>
      rw [List.forall_mem_cons] at known
      rw [lowerChars_cons, lowerAt_of_isDecimalChar known.1, ih known.2]
      rfl

theorem exists_foreign_lowerChars {chars : List Char} {c : Char} (member : c ∈ chars)
    (foreign : isDecimalChar c = false) (before : List Char) :
    ∃ d ∈ lowerChars before chars, isDecimalChar d = false := by
  induction chars generalizing before with
  | nil => cases member
  | cons first rest ih =>
      rw [lowerChars_cons]
      obtain rfl | later := List.mem_cons.mp member
      · obtain ⟨d, inside, kept⟩ := exists_foreign_lowerAt foreign before rest
        exact ⟨d, List.mem_append_left _ inside, kept⟩
      · obtain ⟨d, inside, kept⟩ := ih later (first :: before)
        exact ⟨d, List.mem_append_right _ inside, kept⟩

theorem readRow?_of_foreign {chars : List Char} {c : Char} (member : c ∈ chars)
    (foreign : isDecimalChar c = false) : readRow? chars = none := by
  cases read : readRow? chars with
  | none => rfl
  | some x =>
      rw [isDecimalChar_of_readRow? read c member] at foreign
      cases foreign

/-! ## Texts in lower case -/

theorem readRow?_lowerChars (before chars : List Char) :
    readRow? (lowerChars before chars) = readRow? chars := by
  by_cases known : ∀ c ∈ chars, isDecimalChar c = true
  · rw [lowerChars_of_isDecimalChar known, readRow?_map]
  · simp only [not_forall] at known
    obtain ⟨c, member, foreign⟩ := known
    rw [Bool.not_eq_true] at foreign
    obtain ⟨d, inside, kept⟩ := exists_foreign_lowerChars member foreign before
    rw [readRow?_of_foreign inside kept, readRow?_of_foreign member foreign]

/-- Texts that are the same in lower case and without the blanks around them are read alike. -/
theorem readNumber?_congr {a b : String} (alike : lower (trim a) = lower (trim b)) :
    readNumber? a = readNumber? b := by
  have rows : lowerChars [] (trimChars isBlank a.toList) =
      lowerChars [] (trimChars isBlank b.toList) := by
    simpa [lower, trim, String.ofList_inj] using alike
  rw [readNumber?_eq, readNumber?_eq, ← readRow?_lowerChars [], rows, readRow?_lowerChars]

end BuildingWorkflow
