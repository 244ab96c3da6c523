import BuildingWorkflow.Proofs.Value.JsonTokens

/-!
Values are read back from their JSON texts.

From its tokens a value is put together again: they lead from every place where a value may stand to
the place after it, with the lists and mappings around it unchanged. Only the labels of NaNs are
lost, which a text does not show.
-/
namespace BuildingWorkflow

namespace Value

mutual

/-- A value without the labels of the NaNs in it. -/
def plain : Value → Value
  | null => null
  | bool b => bool b
  | int n => int n
  | float x => float x.unlabelled
  | text s => text s
  | list items => list (plainItems items)
  | map entries => map (plainEntries entries)

def plainItems : List Value → List Value
  | [] => []
  | v :: rest => plain v :: plainItems rest

def plainEntries : List (String × Value) → List (String × Value)
  | [] => []
  | (name, v) :: rest => (name, plain v) :: plainEntries rest

end

theorem plainItems_eq (items : List Value) : plainItems items = items.map plain := by
  induction items with
  | nil => rfl
  | cons v rest ih => rw [plainItems, ih, List.map_cons]

theorem plainEntries_eq (entries : List (String × Value)) :
    plainEntries entries = entries.map fun entry => (entry.1, entry.2.plain) := by
  induction entries with
  | nil => rfl
  | cons entry rest ih => rw [plainEntries, ih, List.map_cons]

end Value

namespace Json

/-! ## Lists and mappings

A list and a mapping are read alike: each part with the comma before it takes the reading from a
state to the next one, which holds the parts before and the part just read.
-/

section Enclosed

variable {α β : Type} {items : List α} {toks : α → List Token} {part : α → β}
  {opening closing : Token} {start opened : Place × List Level}
  (state : List β → β → Place × List Level) (done : List β → Place × List Level)

theorem foldlM_following
    (moves : ∀ a ∈ items, ∀ read b,
      (Token.comma :: toks a).foldlM step (state read b) = some (state (read ++ [b]) (part a)))
    (ends : ∀ read b, step (state read b) closing = some (done (read ++ [b])))
    (read : List β) (b : β) :
    (items.flatMap (fun a => Token.comma :: toks a) ++ [closing]).foldlM step (state read b) =
      some (done (read ++ b :: items.map part)) := by
  induction items generalizing read b with
  | nil =>
      rw [List.flatMap_nil, List.nil_append, List.foldlM_cons, ends]
      rfl
  | cons a items ih =>
      rw [List.forall_mem_cons] at moves
      rw [List.flatMap_cons, List.append_assoc, List.foldlM_append, moves.1]
      dsimp only [Option.bind_eq_bind, Option.bind_some]
      rw [ih moves.2, List.append_assoc]
      rfl

theorem foldlM_enclosed (opens : step start opening = some opened)
    (empty : step opened closing = some (done []))
    (first : ∀ a ∈ items, (toks a).foldlM step opened = some (state [] (part a)))
    (moves : ∀ a ∈ items, ∀ read b,
      (Token.comma :: toks a).foldlM step (state read b) = some (state (read ++ [b]) (part a)))
    (ends : ∀ read b, step (state read b) closing = some (done (read ++ [b]))) :
    (enclosed opening closing (items.map toks)).foldlM step start =
      some (done (items.map part)) := by
  cases items with
  | nil =>
      rw [List.map_nil, enclosed, List.foldlM_cons, opens]
      dsimp only [Option.bind_eq_bind, Option.bind_some]
      rw [List.foldlM_cons, empty]
      rfl
  | cons a items =>
      rw [List.forall_mem_cons] at first moves
      rw [List.map_cons, enclosed, List.flatMap_map, List.append_assoc, List.cons_append,
        List.foldlM_cons, opens]
      dsimp only [Option.bind_eq_bind, Option.bind_some]
      rw [List.foldlM_append, first.1]
      exact foldlM_following state done moves.2 ends [] (part a)

end Enclosed

/-! ## Values -/

/-- Where a list has been opened, only its end may stand besides values. -/
theorem step_first {place : Place} {levels : List Level}
    (here : place = .value ∨ place = .firstItem) {token : Token} (opens : token ≠ .closeList) :
    step (place, levels) token = valueStep levels token := by
  obtain rfl | rfl := here
  · rfl
  · rw [step]
    exact fun _ closes _ => opens closes

/-- From where a value may stand its tokens lead to the place after it. -/
def Parses (toks : List Token) (v : Value) : Prop :=
  ∀ levels place, place = .value ∨ place = .firstItem →
    toks.foldlM step (place, levels) = some (.after v, levels)

theorem parses_single {token : Token} {v : Value} (opens : token ≠ .closeList)
    (value : ∀ levels, valueStep levels token = some (.after v, levels)) :
    Parses [token] v := by
  intro levels place here
  rw [List.foldlM_cons, step_first here opens, value]
  rfl

theorem parses_list {items : List Value} (all : ∀ v ∈ items, Parses (tokens v) v.plain) :
    Parses (tokens (.list items)) (.list (items.map Value.plain)) := by
  intro levels place here
  rw [tokens, itemTokens_eq]
  apply foldlM_enclosed (fun read v => (.after v, .items read :: levels))
    (fun items => (.after (.list items), levels))
  · exact step_first here (by simp)
  · rfl
  · exact fun v member => all v member _ _ (.inr rfl)
  · exact fun v member read b => all v member (.items (read ++ [b]) :: levels) _ (.inl rfl)
  · exact fun read v => rfl

theorem parses_map {entries : List (String × Value)}
    (all : ∀ entry ∈ entries, Parses (tokens entry.2) entry.2.plain) :
    Parses (tokens (.map entries)) (.map (entries.map fun entry => (entry.1, entry.2.plain))) := by
  intro levels place here
  rw [tokens, entryTokens_eq]
  apply foldlM_enclosed (fun read entry => (.after entry.2, .entry read entry.1 :: levels))
    (fun entries => (.after (.map entries), levels))
  · exact step_first here (by simp)
  · rfl
  · exact fun entry member => all entry member (.entry [] entry.1 :: levels) _ (.inl rfl)
  · exact fun entry member read b =>
      all entry member (.entry (read ++ [b]) entry.1 :: levels) _ (.inl rfl)
  · exact fun read v => rfl

/-- The tokens of a value are put together to this value. -/
theorem parses_tokens (v : Value) : Parses (tokens v) v.plain := by
  induction v using Value.nested with
  | null | bool | int | float | text => exact parses_single (by simp) fun _ => rfl
  | list items ih =>
      rw [Value.plain, Value.plainItems_eq]
      exact parses_list ih
  | map entries ih =>
      rw [Value.plain, Value.plainEntries_eq]
      exact parses_map ih

/-- The JSON text of a value is read as this value. -/
theorem read?_json (v : Value) : read? v.json = some v.plain := by
  have cut := lexes_valueText v 0 [] (by simp [Bounded])
  have parsed := parses_tokens v [] .value (.inl rfl)
  rw [List.append_nil] at cut
  simp [read?, Value.json, cut, lexFrom, Mode.final, parse?, parsed]

-- Spellings that are never written are read as well.
example : (read? "[-0.5e1 ,\x7b\"\\u0041\": []\x7d]").map Value.json =
    some "[\n  -5.0,\n  \x7b\n    \"A\": []\n  \x7d\n]" := by
  decide +kernel

end Json

end BuildingWorkflow
