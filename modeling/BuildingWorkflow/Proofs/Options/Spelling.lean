import BuildingWorkflow.Proofs.Options.Reading
import Mathlib.Data.List.Pairwise
import Mathlib.Data.List.Perm.Basic

/-!
The spelling of options.

No two options of a kind share a spelling. So where no option is given twice, the value of an
option is the one value that stands under some spelling of it, and neither the spelling nor the
order of a bag is seen by a reading. A key that spells no option is always refused.
-/
namespace BuildingWorkflow

/-! ## Keys -/

namespace NodeOptions

/-- The keys that spell an option of a kind. -/
inductive Spells : NodeKind → String → String → Prop
  | plain {kind : NodeKind} {name : String} (option : name ∈ optionNames kind) :
      Spells kind name name
  | camel {kind : NodeKind} {name : String} (option : name ∈ optionNames kind) :
      Spells kind name (camelCase name)
  /-- The file name of an export may be written as one word too. -/
  | joined : Spells .exporter "file_name" "filename"

/-- Equal keys, or two spellings of one option. -/
inductive SameOption (kind : NodeKind) : String → String → Prop
  | same (key : String) : SameOption kind key key
  | respelled {name key key' : String} (spells : Spells kind name key)
      (spells' : Spells kind name key') : SameOption kind key key'

variable {kind : NodeKind} {name name' key key' : String}

theorem camelCase_file_name : camelCase "file_name" = "fileName" := by decide +kernel

theorem spells_iff :
    Spells kind name key ↔ name ∈ optionNames kind ∧ key ∈ optionSpellings kind name := by
  constructor
  · intro spells
    cases spells with
    | plain option =>
        refine ⟨option, ?_⟩
        unfold optionSpellings
        split <;> simp_all [spellings]
    | camel option =>
        refine ⟨option, ?_⟩
        unfold optionSpellings
        split <;> simp_all [spellings, camelCase_file_name]
    | joined => exact ⟨by decide, by decide⟩
  · intro ⟨option, spelling⟩
    unfold optionSpellings at spelling
    split at spelling
    · next exported =>
      simp only [Bool.and_eq_true, decide_eq_true_eq] at exported
      obtain ⟨rfl, rfl⟩ := exported
      simp only [List.mem_cons, List.not_mem_nil, or_false] at spelling
      obtain rfl | rfl | rfl := spelling
      · exact camelCase_file_name ▸ .camel option
      · exact .joined
      · exact .plain option
    · simp only [spellings, List.mem_cons, List.not_mem_nil, or_false] at spelling
      obtain rfl | rfl := spelling
      · exact .camel option
      · exact .plain option

instance : Decidable (Spells kind name key) := decidable_of_iff' _ spells_iff

theorem optionSpellings_disjoint : ∀ kind, ∀ name ∈ optionNames kind, ∀ name' ∈ optionNames kind,
    ∀ key ∈ optionSpellings kind name, key ∈ optionSpellings kind name' → name = name' := by
  intro kind
  cases kind <;> decide +kernel

theorem Spells.unique (spells : Spells kind name key) (spells' : Spells kind name' key) :
    name = name' := by
  obtain ⟨option, spelling⟩ := spells_iff.mp spells
  obtain ⟨option', spelling'⟩ := spells_iff.mp spells'
  exact optionSpellings_disjoint kind name option name' option' key spelling spelling'

namespace SameOption

theorem symm (h : SameOption kind key key') : SameOption kind key' key := by
  cases h with
  | same => exact .same key
  | respelled spells spells' => exact .respelled spells' spells

theorem spells (h : SameOption kind key key') (spells : Spells kind name key) :
    Spells kind name key' := by
  cases h with
  | same => exact spells
  | respelled first second => exact first.unique spells ▸ second

theorem spells_iff (h : SameOption kind key key') :
    Spells kind name key ↔ Spells kind name key' :=
  ⟨h.spells, h.symm.spells⟩

end SameOption

end NodeOptions

/-! ## Bags -/

open NodeOptions

namespace Bag

/-- Two entries of a bag that do not spell the same option. -/
def Apart (kind : NodeKind) (entry other : String × Value) : Prop :=
  ∀ name, Spells kind name entry.1 → ¬ Spells kind name other.1

theorem apart_iff {kind : NodeKind} {entry other : String × Value} : Apart kind entry other ↔
    ∀ name ∈ optionNames kind, Spells kind name entry.1 → ¬ Spells kind name other.1 :=
  ⟨fun apart name _ => apart name,
    fun apart name spells => apart name (spells_iff.mp spells).1 spells⟩

instance (kind : NodeKind) : DecidableRel (Apart kind) :=
  fun _ _ => decidable_of_iff' _ apart_iff

/-- No option of a kind stands in a bag twice, be it under two of its spellings. -/
def GivenOnce (kind : NodeKind) (bag : Bag) : Prop := bag.Pairwise (Apart kind)

instance (kind : NodeKind) (bag : Bag) : Decidable (bag.GivenOnce kind) :=
  inferInstanceAs (Decidable (bag.Pairwise (Apart kind)))

/-- The same values under keys that differ at most in the spelling of options; the order in which
a bag lists them is not looked at. -/
def Respelled (kind : NodeKind) (bag bag' : Bag) : Prop :=
  ∃ respell : String → String, (∀ key, SameOption kind key (respell key)) ∧
    (bag.map (Prod.map respell id)).Perm bag'

/-- A value that stands under some spelling of an option. -/
def Holds (kind : NodeKind) (bag : Bag) (name : String) (v : Value) : Prop :=
  ∃ key, Spells kind name key ∧ (key, v) ∈ bag

section Once

variable {kind : NodeKind} {bag bag' : Bag} {name : String} {v : Value}
  {entry other : String × Value}

theorem Apart.symm (apart : Apart kind entry other) : Apart kind other entry :=
  fun name spells spells' => apart name spells' spells

instance : Std.Symm (Apart kind) := ⟨fun _ _ => Apart.symm⟩

theorem GivenOnce.eq (once : GivenOnce kind bag) (member : entry ∈ bag) (member' : other ∈ bag)
    (spells : Spells kind name entry.1) (spells' : Spells kind name other.1) : entry = other := by
  by_contra different
  exact List.Pairwise.forall once member member' different name spells spells'

theorem exists_lookup_of_mem (member : entry ∈ bag) : ∃ v, bag.lookup entry.1 = some v := by
  refine Option.ne_none_iff_exists'.mp fun absent => ?_
  simpa using List.lookup_eq_none_iff.mp absent entry member

theorem spells_of_spelled? (option : name ∈ optionNames kind)
    (found : spelled? bag (optionSpellings kind name) = some entry) :
    Spells kind name entry.1 ∧ entry ∈ bag := by
  obtain ⟨key, spelling, read⟩ := List.exists_of_findSome?_eq_some found
  obtain ⟨v, present, rfl⟩ := Option.map_eq_some_iff.mp read
  exact ⟨spells_iff.mpr ⟨option, spelling⟩, mem_of_lookup present⟩

theorem spelled?_eq_some_iff (once : GivenOnce kind bag) (option : name ∈ optionNames kind) :
    spelled? bag (optionSpellings kind name) = some entry ↔
      Spells kind name entry.1 ∧ entry ∈ bag := by
  refine ⟨spells_of_spelled? option, fun ⟨spells, member⟩ => ?_⟩
  cases found : spelled? bag (optionSpellings kind name) with
  | none =>
      obtain ⟨v, present⟩ := exists_lookup_of_mem member
      have absent := List.findSome?_eq_none_iff.mp found entry.1 (spells_iff.mp spells).2
      rw [present] at absent
      cases absent
  | some other =>
      obtain ⟨spells', member'⟩ := spells_of_spelled? option found
      rw [once.eq member' member spells' spells]

/-- A value is read for an option when it stands under some spelling of it. -/
theorem value?_eq_some_iff (once : GivenOnce kind bag) (option : name ∈ optionNames kind) :
    bag.value? (optionSpellings kind name) = some v ↔ bag.Holds kind name v := by
  simp only [← map_snd_spelled?, Option.map_eq_some_iff, spelled?_eq_some_iff once option]
  constructor
  · rintro ⟨⟨key, v⟩, ⟨spells, member⟩, rfl⟩
    exact ⟨key, spells, member⟩
  · rintro ⟨key, spells, member⟩
    exact ⟨(key, v), ⟨spells, member⟩, rfl⟩

/-- A key that spells no option is left over. -/
theorem mem_unreadKeys (member : entry ∈ bag) (other : ∀ name, ¬ Spells kind name entry.1) :
    entry.1 ∈ unreadKeys bag ((optionNames kind).map (optionSpellings kind)) := by
  simp only [unreadKeys, List.mem_filter, Bool.not_eq_true', List.contains_eq_mem,
    decide_eq_false_iff_not, List.mem_filterMap, List.mem_map, exists_exists_and_eq_and,
    Option.map_eq_some_iff]
  refine ⟨⟨entry, member, rfl⟩, ?_⟩
  rintro ⟨name, option, read, found, same⟩
  exact other name (same ▸ (spells_of_spelled? option found).1)

theorem unreadKeys_eq_nil_iff (once : GivenOnce kind bag) :
    unreadKeys bag ((optionNames kind).map (optionSpellings kind)) = [] ↔
      ∀ entry ∈ bag, ∃ name, Spells kind name entry.1 := by
  constructor
  · intro none entry member
    by_contra other
    have left := mem_unreadKeys member (not_exists.mp other)
    rw [none] at left
    cases left
  · intro all
    rw [unreadKeys, List.filter_eq_nil_iff]
    intro key given
    obtain ⟨entry, member, rfl⟩ := List.mem_map.mp given
    obtain ⟨name, spells⟩ := all entry member
    have option := (spells_iff.mp spells).1
    have read := (spelled?_eq_some_iff once option).mpr ⟨spells, member⟩
    simp only [Bool.not_eq_true, Bool.not_eq_false', List.contains_eq_mem, decide_eq_true_eq,
      List.mem_filterMap, List.mem_map, exists_exists_and_eq_and, Option.map_eq_some_iff]
    exact ⟨name, option, entry, read, rfl⟩

end Once

section Respelled

variable {kind : NodeKind} {bag bag' : Bag} (h : Respelled kind bag bag')
include h

theorem GivenOnce.respelled (once : GivenOnce kind bag) : GivenOnce kind bag' := by
  obtain ⟨respell, same, perm⟩ := h
  refine (perm.pairwise_iff Apart.symm).mp (List.pairwise_map.mpr ?_)
  refine once.imp fun {entry other} apart name spells spells' => ?_
  exact apart name ((same entry.1).spells_iff.mpr spells) ((same other.1).spells_iff.mpr spells')

theorem Respelled.holds_iff {name : String} {v : Value} :
    bag.Holds kind name v ↔ bag'.Holds kind name v := by
  obtain ⟨respell, same, perm⟩ := h
  constructor
  · rintro ⟨key, spells, member⟩
    exact ⟨respell key, (same key).spells_iff.mp spells,
      perm.mem_iff.mp (List.mem_map_of_mem member)⟩
  · rintro ⟨key', spells, member'⟩
    obtain ⟨⟨key, v'⟩, member, moved⟩ := List.mem_map.mp (perm.mem_iff.mpr member')
    obtain ⟨rfl, rfl⟩ := Prod.mk.inj moved
    exact ⟨key, (same key).spells_iff.mpr spells, member⟩

theorem Respelled.all_spell_iff :
    (∀ entry ∈ bag, ∃ name, Spells kind name entry.1) ↔
      ∀ entry ∈ bag', ∃ name, Spells kind name entry.1 := by
  obtain ⟨respell, same, perm⟩ := h
  simp only [← perm.mem_iff, List.forall_mem_map, Prod.map_fst, ← (same _).spells_iff]

theorem Respelled.value?_eq (once : GivenOnce kind bag) {name : String}
    (option : name ∈ optionNames kind) :
    bag.value? (optionSpellings kind name) = bag'.value? (optionSpellings kind name) :=
  Option.ext fun v => by
    rw [value?_eq_some_iff once option, value?_eq_some_iff (once.respelled h) option, h.holds_iff]

end Respelled

end Bag

/-! ## Readings -/

namespace Reading

variable {α β : Type}

/-- Readings that give the same or are both refused, maybe for different faults. -/
def Agrees (r r' : Reading α) : Prop := ∀ a, r = .ok a ↔ r' = .ok a

theorem Agrees.fmap {r r' : Reading α} (h : r.Agrees r') (f : α → β) :
    Agrees (f <$> r) (f <$> r') :=
  fun b => by simp only [fmap_eq_ok_iff, h _]

theorem Agrees.seq {f f' : Reading (α → β)} {x x' : Reading α} (hf : f.Agrees f')
    (hx : x.Agrees x') : Agrees (f <*> x) (f' <*> x') :=
  fun b => by simp only [seq_eq_ok_iff, hf _, hx _]

theorem agrees_optionAt {bag bag' : Bag} {keys : List String} {read : Value → Reading α}
    (same : bag.value? keys = bag'.value? keys) (default : α) :
    Agrees (optionAt bag keys default read) (optionAt bag' keys default read) :=
  fun a => by rw [optionAt_eq_ok_iff, optionAt_eq_ok_iff, same]

end Reading

namespace NodeOptions

open Reading

variable {kind : NodeKind} {bag bag' : Bag}

/-- The options of a kind are read off the values of their spellings. -/
theorem agrees_readFields (same : ∀ name ∈ optionNames kind,
      bag.value? (optionSpellings kind name) = bag'.value? (optionSpellings kind name)) :
    (readFields kind bag).Agrees (readFields kind bag') := by
  have option {α : Type} {name : String} {default : α} {read : Value → Reading α}
      (option : name ∈ optionNames kind) :
      Agrees (optionAt bag (optionSpellings kind name) default read)
        (optionAt bag' (optionSpellings kind name) default read) :=
    agrees_optionAt (same name option) default
  -- Whatever the kind, its fields are readings of single options, put together in a row.
  cases kind <;> simp only [readFields, readTriple, namedOption] <;>
    repeat first
      | exact option (by decide)
      | exact agrees_optionAt (same "range" (by decide)) _
      | apply Agrees.fmap
      | apply Agrees.seq

theorem read_eq_ok_iff_of_respelled (once : bag.GivenOnce kind) (h : bag.Respelled kind bag')
    (options : NodeOptions) : read kind bag = .ok options ↔ read kind bag' = .ok options := by
  rw [read_eq_ok_iff, read_eq_ok_iff, Bag.unreadKeys_eq_nil_iff once,
    Bag.unreadKeys_eq_nil_iff (once.respelled h), h.all_spell_iff]
  exact and_congr_right fun _ => agrees_readFields (fun _ option => h.value?_eq once option) options

theorem unknown_mem_of_read {entry : String × Value} (member : entry ∈ bag)
    (other : ∀ name, ¬ Spells kind name entry.1) :
    ∃ faults, read kind bag = .error faults ∧ ⟨[entry.1], .unknown⟩ ∈ faults := by
  have left := Bag.mem_unreadKeys member other
  rw [read, closed]
  cases unread : unreadKeys bag ((optionNames kind).map (optionSpellings kind)) with
  | nil =>
      rw [unread] at left
      cases left
  | cons key keys =>
      rw [unread] at left
      have listed := List.mem_map_of_mem (f := fun key => OptionFault.mk [key] .unknown) left
      cases readFields kind bag with
      | ok options => exact ⟨_, rfl, listed⟩
      | refused faults => exact ⟨_, rfl, List.mem_append_right faults listed⟩

/-- Bags that differ only in the spelling of options, none of them given twice, are taken alike and
to the same options, and a key that spells no option of the kind is refused by name. -/
theorem ofValue_spelling (kind : NodeKind) (bag : Bag) :
    (bag.GivenOnce kind → ∀ bag', bag.Respelled kind bag' →
      ∀ options, ofValue kind (.map bag) = .ok options ↔ ofValue kind (.map bag') = .ok options) ∧
    ∀ entry ∈ bag, (∀ name, ¬ Spells kind name entry.1) →
      ∃ faults, ofValue kind (.map bag) = .error faults ∧ ⟨[entry.1], .unknown⟩ ∈ faults := by
  simp only [ofValue_map]
  exact ⟨fun once _ h options => read_eq_ok_iff_of_respelled once h options,
    fun _ member other => unknown_mem_of_read member other⟩

/-- An export under a file name that is written as one word. -/
def flatExport : Bag := [("format", .text " CSV"), ("filename", .text "plan")]

theorem respelled_flatExport : flatExport.Respelled .exporter
    [("fileName", .text "plan"), ("format", .text " CSV")] := by
  refine ⟨fun key => if key = "filename" then "fileName" else key, fun key => ?_, List.Perm.swap ..⟩
  beta_reduce
  split
  · next joined =>
    subst joined
    exact .respelled .joined (camelCase_file_name ▸ .camel (by decide))
  · exact .same key

theorem ofValue_spelling_flatExport :
    flatExport.GivenOnce .exporter ∧
    flatExport.Respelled .exporter [("fileName", .text "plan"), ("format", .text " CSV")] ∧
    ofValue .exporter (.map [("fileName", .text "plan"), ("format", .text " CSV")]) =
      .ok (.exporter ⟨.csv, "plan", "Name,Type,Material"⟩) ∧
    ∃ faults, ofValue .exporter (.map [("sheet", .null)]) = .error faults ∧
      ⟨["sheet"], .unknown⟩ ∈ faults := by
  have once : flatExport.GivenOnce .exporter := by decide +kernel
  have taken : ofValue .exporter (.map flatExport) =
      .ok (.exporter ⟨.csv, "plan", "Name,Type,Material"⟩) := by rfl
  have listed : ∀ name ∈ optionNames .exporter, ¬ Spells .exporter name "sheet" := by
    decide +kernel
  have other (name : String) : ¬ Spells .exporter name "sheet" :=
    fun spells => listed name (spells_iff.mp spells).1 spells
  refine ⟨once, respelled_flatExport, ?_, ?_⟩
  · exact ((ofValue_spelling .exporter flatExport).1 once _ respelled_flatExport _).mp taken
  · exact (ofValue_spelling .exporter [("sheet", .null)]).2 _ List.mem_cons_self other

end NodeOptions

end BuildingWorkflow
