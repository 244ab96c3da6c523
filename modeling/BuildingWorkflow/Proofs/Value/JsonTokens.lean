import BuildingWorkflow.Proofs.Number.DecimalForm
import BuildingWorkflow.Proofs.Value.Equality
import BuildingWorkflow.Proofs.Value.JsonReading

/-!
The tokens of JSON texts.

The text of a value is cut into its tokens whatever its depth: blanks between tokens do not count,
every word is followed by a character that ends it, and in a text in quotes every character is read
from its escaped or plain form.
-/
namespace BuildingWorkflow

def Binary64.unlabelled : Binary64 → Binary64
  | nan _ => nan ""
  | x => x

namespace Json

theorem itemTexts_eq (depth : Nat) (items : List Value) :
    itemTexts depth items = items.map (valueText depth) := by
  induction items with
  | nil => rfl
  | cons v rest ih => rw [itemTexts, ih, List.map_cons]

theorem entryTexts_eq (depth : Nat) (entries : List (String × Value)) :
    entryTexts depth entries =
      entries.map fun entry => stringText entry.1 ++ ':' :: ' ' :: valueText depth entry.2 := by
  induction entries with
  | nil => rfl
  | cons entry rest ih => rw [entryTexts, ih, List.map_cons]

/-! ## Tokens of values -/

/-- Parts between two tokens, with commas between them. -/
def enclosed (opening closing : Token) : List (List Token) → List Token
  | [] => [opening, closing]
  | first :: rest => opening :: first ++ rest.flatMap (Token.comma :: ·) ++ [closing]

mutual

def tokens : Value → List Token
  | .null => [.scalar .null]
  | .bool b => [.scalar (.bool b)]
  | .int n => [.scalar (.int n)]
  | .float x => [.scalar (.float x.unlabelled)]
  | .text s => [.text s]
  | .list items => enclosed .openList .closeList (itemTokens items)
  | .map entries => enclosed .openMap .closeMap (entryTokens entries)

def itemTokens : List Value → List (List Token)
  | [] => []
  | v :: rest => tokens v :: itemTokens rest

def entryTokens : List (String × Value) → List (List Token)
  | [] => []
  | (name, v) :: rest => (.text name :: .colon :: tokens v) :: entryTokens rest

end

theorem itemTokens_eq (items : List Value) : itemTokens items = items.map tokens := by
  induction items with
  | nil => rfl
  | cons v rest ih => rw [itemTokens, ih, List.map_cons]

theorem entryTokens_eq (entries : List (String × Value)) :
    entryTokens entries =
      entries.map fun entry => .text entry.1 :: .colon :: tokens entry.2 := by
  induction entries with
  | nil => rfl
  | cons entry rest ih => rw [entryTokens, ih, List.map_cons]

/-! ## Cutting into tokens -/

theorem separates_iff (c : Char) : separates c = true ↔
    c ∈ [' ', '\n', '\r', '\t', '"', '[', ']', '\x7b', '\x7d', ',', ':'] := by
  unfold separates white mark?
  split_ifs <;> simp [*, or_assoc]

theorem separates_digit {c : Char} (digit : c.isDigit = true) : separates c = false := by
  rw [← Bool.not_eq_true, separates_iff]
  intro member
  have none_is : [' ', '\n', '\r', '\t', '"', '[', ']', '\x7b', '\x7d', ',', ':'].all
      (!·.isDigit) = true := by decide
  have other := List.all_eq_true.mp none_is c member
  rw [digit] at other
  contradiction

theorem start_word {c : Char} (inside : separates c = false) :
    Mode.start c = ([], .word [c]) := by
  simp only [separates, Bool.or_eq_false_iff, beq_eq_false_iff_ne, Option.isSome_eq_false_iff,
    Option.isNone_iff_eq_none] at inside
  simp [Mode.start, inside]

theorem lexFrom_silent {mode mode' : Mode} {c : Char} (step : mode.next c = some ([], mode'))
    (rest : List Char) : lexFrom mode (c :: rest) = lexFrom mode' rest := by
  rw [lexFrom, step]
  exact Option.map_id'

/-- A text that ends a word which stands before it. -/
def Bounded (rest : List Char) : Prop := ∀ c ∈ rest.head?, separates c = true

theorem bounded_cons {c : Char} (ends : separates c = true) (rest : List Char) :
    Bounded (c :: rest) := by
  intro c' head
  cases head
  exact ends

/-- A text is cut into tokens whatever stands behind it, as long as that ends a word. -/
def Lexes (text : List Char) (tokens : List Token) : Prop :=
  ∀ rest, Bounded rest →
    lexFrom .between (text ++ rest) = (lexFrom .between rest).map (tokens ++ ·)

theorem lexFrom_word_append (read : List Char) {chars : List Char} (rest : List Char)
    (inside : ∀ c ∈ chars, separates c = false) :
    lexFrom (.word read) (chars ++ rest) = lexFrom (.word (chars.reverse ++ read)) rest := by
  induction chars generalizing read with
  | nil => rfl
  | cons c chars ih =>
      rw [List.forall_mem_cons] at inside
      have stays : (Mode.word read).next c = some ([], .word (c :: read)) := by
        simp [Mode.next, inside.1]
      rw [List.cons_append, lexFrom_silent stays, ih _ inside.2]
      simp

theorem lexes_word {word : List Char} {v : Value} (reads : scalar? word = some v)
    (ne : word ≠ []) (inside : ∀ c ∈ word, separates c = false) : Lexes word [.scalar v] := by
  intro rest bounded
  cases word with
  | nil => exact absurd rfl ne
  | cons c chars =>
      rw [List.forall_mem_cons] at inside
      have begun : Mode.between.next c = some ([], .word [c]) :=
        congrArg some (start_word inside.1)
      have read : (chars.reverse ++ [c]).reverse = c :: chars := by simp
      rw [List.cons_append, lexFrom_silent begun, lexFrom_word_append _ _ inside.2]
      cases rest with
      | nil =>
          simp only [lexFrom, Mode.final, read, reads]
          rfl
      | cons c' rest =>
          -- The character that ends the word also does what it does between tokens.
          have ends := bounded c' rfl
          simp only [lexFrom, Mode.next, ends, if_true, read, reads, Option.map_some,
            Option.bind_some, Option.map_map, Function.comp_def]
          rfl

theorem lexes_named {word : List Char} {v : Value} (means : named.lookup word = some v) :
    Lexes word [.scalar v] := by
  have whole : (named.all fun entry => !entry.1.isEmpty && entry.1.all (!separates ·)) = true := by
    decide
  obtain ⟨before, after, split, -⟩ := List.lookup_eq_some_iff.mp means
  rw [split, List.all_append, List.all_cons] at whole
  simp only [Bool.and_eq_true, Bool.not_eq_true', List.isEmpty_eq_false_iff,
    List.all_eq_true] at whole
  obtain ⟨-, shape, -⟩ := whole
  exact lexes_word (by rw [scalar?, means]) shape.1 shape.2

theorem lexFrom_blank {c : Char} (blank : white c = true) (rest : List Char) :
    lexFrom .between (c :: rest) = lexFrom .between rest :=
  lexFrom_silent (by simp [Mode.next, Mode.start, blank]) rest

theorem lexFrom_newLine (depth : Nat) (rest : List Char) :
    lexFrom .between (newLine depth ++ rest) = lexFrom .between rest := by
  rw [newLine, List.cons_append, lexFrom_blank rfl]
  induction 2 * depth with
  | zero => rfl
  | succ count ih => rw [List.replicate_succ, List.cons_append, lexFrom_blank rfl, ih]

theorem lexFrom_mark {c : Char} {token : Token} (mark : mark? c = some token)
    (rest : List Char) :
    lexFrom .between (c :: rest) = (lexFrom .between rest).map (token :: ·) := by
  have begun : Mode.start c = ([token], .between) := by
    unfold mark? at mark
    split_ifs at mark with h h h h h h <;> cases mark <;> subst h <;> rfl
  rw [lexFrom, Mode.next, begun]
  rfl

/-! ### Numbers -/

/-- The digits of a number, and the other characters that its text may have. -/
theorem separates_number {c : Char} (inside : c.isDigit = true ∨ c ∈ ['.', 'e', '-', '+']) :
    separates c = false := by
  obtain digit | other := inside
  · exact separates_digit digit
  · have none_does : ['.', 'e', '-', '+'].all (!separates ·) = true := by decide
    simpa using List.all_eq_true.mp none_does c other

theorem scalar?_of_digit {word : List Char} {d : Char} (member : d ∈ word)
    (digit : d.isDigit = true) : scalar? word = number? word := by
  have lettered : (named.all fun entry => entry.1.all (!·.isDigit)) = true := by decide
  have unnamed : named.lookup word = none := by
    rw [List.lookup_eq_none_iff]
    intro entry inside
    rw [bne_iff_ne]
    rintro rfl
    have letter := List.all_eq_true.mp (List.all_eq_true.mp lettered entry inside) d member
    rw [digit] at letter
    contradiction
  rw [scalar?, unnamed]

theorem number?_signed {chars : List Char} {d : Char} (negative : Bool)
    (first : chars.head? = some d) (digit : d.isDigit = true) :
    number? (if negative then '-' :: chars else chars) = unsigned? negative chars := by
  cases negative with
  | true => rfl
  | false =>
      rw [if_neg Bool.false_ne_true]
      unfold number?
      split
      · cases first
        contradiction
      · rfl

theorem lexes_number {negative : Bool} {chars : List Char} {v : Value}
    (head : ∃ d, chars.head? = some d ∧ d.isDigit = true)
    (inside : ∀ c ∈ chars, c.isDigit = true ∨ c ∈ ['.', 'e', '-', '+'])
    (reads : unsigned? negative chars = some v) :
    Lexes (if negative then '-' :: chars else chars) [.scalar v] := by
  obtain ⟨d, first, digit⟩ := head
  have member : d ∈ if negative then '-' :: chars else chars := by
    cases negative <;> simp [List.mem_of_mem_head? first]
  have within : ∀ c ∈ if negative then '-' :: chars else chars,
      c.isDigit = true ∨ c ∈ ['.', 'e', '-', '+'] := by
    cases negative <;> simpa using inside
  apply lexes_word
  · rw [scalar?_of_digit member digit, number?_signed negative first digit, reads]
  · exact List.ne_nil_of_mem member
  · exact fun c here => separates_number (within c here)

/-- A whole part without needless zeros is taken. -/
theorem whole_taken {whole : List Char} (ne : whole ≠ [])
    (zero : whole.head? = some '0' → whole = ['0']) :
    (whole.isEmpty || (whole.head? == some '0' && whole != ['0'])) = false := by
  rw [List.isEmpty_eq_false_iff.mpr ne, Bool.false_or, Bool.and_eq_false_iff]
  by_cases head : whole.head? = some '0'
  · exact .inr (bne_eq_false_iff_eq.mpr (zero head))
  · exact .inl (beq_eq_false_iff_ne.mpr head)

theorem unsigned?_numeral (negative : Bool) (n : Nat) :
    unsigned? negative (numeral n) = some (.int (if negative then -(n : Int) else n)) := by
  have whole := List.takeWhile_eq_self_iff.mpr (isDigit_numeral n)
  have rest := List.dropWhile_eq_nil_iff.mpr (isDigit_numeral n)
  have zero : (numeral n).head? = some '0' → numeral n = ['0'] := by
    obtain rfl | pos := Nat.eq_zero_or_pos n
    · exact fun _ => rfl
    · exact fun head => absurd head (head?_numeral pos)
  have taken := whole_taken (numeral_ne_nil n) zero
  simp only [unsigned?, whole, rest, taken, digitsValue_numeral]
  rfl

theorem unsigned?_text (negative : Bool) (form : DecimalForm) :
    unsigned? negative form.text = some (.float (form.value negative)) := by
  have taken := whole_taken form.whole_ne_nil form.whole_zero
  obtain ⟨c, rest, point, digit⟩ | ⟨rest, exponent⟩ := form.after_whole
  · simp [unsigned?, form.takeWhile_text, point, taken, pointFilled, digit, form.readDigits?_text]
  · simp [unsigned?, form.takeWhile_text, exponent, taken, pointFilled, form.readDigits?_text]

theorem lexes_intText (n : Int) : Lexes (intText n).toList [.scalar (.int n)] := by
  have value : (if n < 0 then -(n.natAbs : Int) else n.natAbs) = n := by omega
  have number := unsigned?_numeral (decide (n < 0)) n.natAbs
  simp only [decide_eq_true_eq, value] at number
  have head : ∃ d, (numeral n.natAbs).head? = some d ∧ d.isDigit = true := by
    cases digits : numeral n.natAbs with
    | nil => exact absurd digits (numeral_ne_nil _)
    | cons d rest => exact ⟨d, rfl, isDigit_numeral n.natAbs d (digits ▸ List.mem_cons_self)⟩
  have lexes := lexes_number head (fun c member => .inl (isDigit_numeral _ c member)) number
  simp only [decide_eq_true_eq] at lexes
  rw [intText, String.toList_ofList]
  exact lexes

theorem lexes_floatText (x : Binary64) : Lexes (floatText x) [.scalar (.float x.unlabelled)] := by
  cases x with
  | nan label =>
      change Lexes "NaN".toList _
      exact lexes_named rfl
  | infinite negative => cases negative <;> exact lexes_named rfl
  | finite negative units rep =>
      obtain ⟨form, text, value⟩ := exists_form_of_unitsText rep
      have lexes := lexes_number form.head?_text (fun c => DecimalForm.mem_text)
        (unsigned?_text negative form)
      rw [text, value] at lexes
      rw [floatText, Binary64.text, String.toList_ofList]
      · exact lexes
      · simp
      · simp

/-! ### Texts -/

theorem hexDigits_control :
    ∀ n < 0x20, (hexDigits 4 n).map hexValue? =
      [some 0, some 0, some (n / 16), some (n % 16)] := by
  decide

theorem lexFrom_point {read : List Nat} {digits : List Char} {i j k l : Nat}
    (values : digits.map hexValue? = [some i, some j, some k, some l]) (rest : List Char) :
    lexFrom (.point read 0 0) (digits ++ rest) =
      lexFrom (.text ((((i * 16 + j) * 16 + k) * 16 + l) :: read)) rest := by
  obtain ⟨c, digits, rfl, first, values⟩ := List.map_eq_cons_iff.mp values
  obtain ⟨d, digits, rfl, second, values⟩ := List.map_eq_cons_iff.mp values
  obtain ⟨e, digits, rfl, third, values⟩ := List.map_eq_cons_iff.mp values
  obtain ⟨f, digits, rfl, fourth, values⟩ := List.map_eq_cons_iff.mp values
  obtain rfl := List.map_eq_nil_iff.mp values
  simp [lexFrom, Mode.next, first, second, third, fourth, Function.comp_def]

theorem lexFrom_escape {c meant : Char} (read : List Nat) (means : escaped? c = some meant)
    (other : c ≠ 'u') (rest : List Char) :
    lexFrom (.escape read) (c :: rest) = lexFrom (.text (meant.toNat :: read)) rest :=
  lexFrom_silent (by simp [Mode.next, means, other]) rest

/-- Every character of a text is read from its escaped or plain form. -/
theorem lexFrom_charText (read : List Nat) (c : Char) (rest : List Char) :
    lexFrom (.text read) (charText c ++ rest) = lexFrom (.text (c.toNat :: read)) rest := by
  have slash (chars : List Char) :
      lexFrom (.text read) ('\\' :: chars) = lexFrom (.escape read) chars :=
    lexFrom_silent rfl chars
  unfold charText
  split_ifs with special control
  · simp only [Bool.or_eq_true, decide_eq_true_eq] at special
    rw [List.cons_append, slash]
    obtain rfl | rfl := special <;> exact lexFrom_escape read rfl (by decide) rest
  · rw [List.cons_append, slash, controlText]
    split_ifs with feed carriage tab back form
    · subst feed; exact lexFrom_escape read rfl (by decide) rest
    · subst carriage; exact lexFrom_escape read rfl (by decide) rest
    · subst tab; exact lexFrom_escape read rfl (by decide) rest
    · subst back; exact lexFrom_escape read rfl (by decide) rest
    · subst form; exact lexFrom_escape read rfl (by decide) rest
    · have coded : (Mode.escape read).next 'u' = some ([], .point read 0 0) := rfl
      have value : ((0 * 16 + 0) * 16 + c.toNat / 16) * 16 + c.toNat % 16 = c.toNat := by omega
      rw [List.cons_append, lexFrom_silent coded,
        lexFrom_point (hexDigits_control c.toNat control), value]
  · simp only [Bool.or_eq_true, decide_eq_true_eq, not_or] at special
    exact lexFrom_silent (by simp [Mode.next, special, control]) rest

theorem lexFrom_chars (read : List Nat) (chars rest : List Char) :
    lexFrom (.text read) (chars.flatMap charText ++ rest) =
      lexFrom (.text ((chars.map Char.toNat).reverse ++ read)) rest := by
  induction chars generalizing read with
  | nil => rfl
  | cons c chars ih =>
      rw [List.flatMap_cons, List.append_assoc, lexFrom_charText, ih]
      simp

theorem leading_toNat (c : Char) : leading c.toNat = false := by
  have valid : c.toNat < 0xd800 ∨ 0xdfff < c.toNat ∧ c.toNat < 0x110000 := c.valid
  simp only [leading, Bool.and_eq_false_iff, decide_eq_false_iff_not]
  omega

theorem joinHalves_eq {points : List Nat} (whole : ∀ point ∈ points, leading point = false) :
    joinHalves points = points := by
  fun_induction joinHalves points with
  | case1 first second rest joined ih =>
      rw [whole first (by simp), Bool.false_and] at joined
      contradiction
  | case2 first second rest apart ih =>
      rw [ih fun point member => whole point (List.mem_cons_of_mem _ member)]
  | case3 => rfl

theorem ofPoint?_toNat (c : Char) : ofPoint? c.toNat = some c := by
  have valid : c.toNat.isValidChar := c.valid
  rw [ofPoint?, if_pos valid, Char.ofNat_toNat]

theorem ofPoints?_toNat (s : String) : ofPoints? (s.toList.map Char.toNat) = some s := by
  have whole : ∀ point ∈ s.toList.map Char.toNat, leading point = false := by
    intro point member
    obtain ⟨c, -, rfl⟩ := List.mem_map.mp member
    exact leading_toNat c
  have all : s.toList.mapM some = some s.toList :=
    (List.mapM_pure (m := Option)).trans (congrArg some (List.map_id s.toList))
  rw [ofPoints?, joinHalves_eq whole, List.mapM_map]
  simp only [Function.comp_def, ofPoint?_toNat, all, Option.map_some, String.ofList_toList]

theorem lexes_stringText (s : String) : Lexes (stringText s) [.text s] := by
  intro rest _
  have opened : Mode.between.next '"' = some ([], .text []) := rfl
  have closed : (Mode.text (s.toList.map Char.toNat).reverse).next '"' =
      some ([.text s], .between) := by
    simp [Mode.next, ofPoints?_toNat]
  rw [stringText, List.cons_append, List.cons_append, lexFrom_silent opened, List.append_assoc,
    lexFrom_chars, List.append_nil, List.singleton_append, lexFrom, closed]
  rfl

/-! ### Lists and mappings -/

section Block

variable {α : Type} {items : List α} {text : α → List Char} {toks : α → List Token} (depth : Nat)

theorem bounded_following (text : α → List Char) (items : List α) {rest : List Char}
    (bounded : Bounded rest) :
    Bounded (items.flatMap (fun item => ',' :: (newLine depth ++ text item)) ++ rest) := by
  cases items with
  | nil => exact bounded
  | cons item items => exact bounded_cons rfl _

theorem lexes_following (all : ∀ item ∈ items, Lexes (text item) (toks item)) :
    Lexes (items.flatMap fun item => ',' :: (newLine depth ++ text item))
      (items.flatMap fun item => .comma :: toks item) := by
  have comma : mark? ',' = some .comma := rfl
  intro rest bounded
  induction items with
  | nil => exact Option.map_id'.symm
  | cons item items ih =>
      rw [List.forall_mem_cons] at all
      rw [List.flatMap_cons, List.append_assoc, List.cons_append, List.append_assoc,
        lexFrom_mark comma, lexFrom_newLine,
        all.1 _ (bounded_following depth text items bounded), ih all.2]
      simp [Function.comp_def]

/-- A block is cut into the tokens of its items, with commas between them. -/
theorem lexes_block {opening closing : Char} {first last : Token}
    (opens : mark? opening = some first) (closes : mark? closing = some last)
    (all : ∀ item ∈ items, Lexes (text item) (toks item)) :
    Lexes (block opening closing depth (items.map text)) (enclosed first last (items.map toks)) := by
  intro rest bounded
  cases items with
  | nil =>
      rw [List.map_nil, List.map_nil, block, List.cons_append, lexFrom_mark opens,
        List.singleton_append, lexFrom_mark closes]
      simp [enclosed, Function.comp_def]
  | cons item items =>
      rw [List.forall_mem_cons] at all
      have closed : Bounded (newLine depth ++ closing :: rest) := bounded_cons rfl _
      have bound := bounded_following (depth + 1) text items closed
      simp only [List.map_cons, block, List.flatMap_map, List.append_assoc, List.cons_append,
        List.nil_append]
      rw [lexFrom_mark opens, lexFrom_newLine, all.1 _ bound,
        lexes_following (depth + 1) all.2 _ closed, lexFrom_newLine, lexFrom_mark closes]
      simp [enclosed, Function.comp_def, List.flatMap_map]

end Block

theorem lexes_entry {name : String} {text : List Char} {toks : List Token}
    (value : Lexes text toks) :
    Lexes (stringText name ++ ':' :: ' ' :: text) (.text name :: .colon :: toks) := by
  have colon : mark? ':' = some .colon := rfl
  intro rest bounded
  rw [List.append_assoc, List.cons_append, List.cons_append,
    lexes_stringText name _ (bounded_cons rfl _), lexFrom_mark colon, lexFrom_blank rfl,
    value rest bounded]
  simp [Function.comp_def]

/-- At every depth the text of a value is cut into its tokens. -/
theorem lexes_valueText (v : Value) (depth : Nat) : Lexes (valueText depth v) (tokens v) := by
  induction v using Value.nested generalizing depth with
  | null =>
      change Lexes "null".toList _
      exact lexes_named rfl
  | bool b =>
      change Lexes (if b then "true".toList else "false".toList) _
      cases b <;> exact lexes_named rfl
  | int n => exact lexes_intText n
  | float x => exact lexes_floatText x
  | text s => exact lexes_stringText s
  | list items ih =>
      rw [valueText, itemTexts_eq, tokens, itemTokens_eq]
      exact lexes_block depth rfl rfl fun v member => ih v member (depth + 1)
  | map entries ih =>
      rw [valueText, entryTexts_eq, tokens, entryTokens_eq]
      exact lexes_block depth rfl rfl fun entry member => lexes_entry (ih entry member (depth + 1))

end Json

end BuildingWorkflow
