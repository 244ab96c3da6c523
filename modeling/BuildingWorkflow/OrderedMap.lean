/-!
Maps from names to values that remember the order in which the names were first written.

Property maps, property sets, run results and the model registry all show their entries in this
order, so the order is part of the type. Writing a name that is already there keeps its place;
a new name goes last. The names of a map are pairwise distinct.
-/
namespace BuildingWorkflow

universe u v

/-- Writes an entry: in place when the name occurs, at the end when it does not. -/
def setEntry {α : Type u} (name : String) (value : α) : List (String × α) → List (String × α)
  | [] => [(name, value)]
  | entry :: rest =>
      if entry.1 = name then (name, value) :: rest else entry :: setEntry name value rest

theorem map_fst_setEntry {α : Type u} (name : String) (value : α) (entries : List (String × α)) :
    (setEntry name value entries).map Prod.fst =
      if name ∈ entries.map Prod.fst then entries.map Prod.fst
      else entries.map Prod.fst ++ [name] := by
  induction entries with
  | nil => simp [setEntry]
  | cons entry rest ih =>
      by_cases h : entry.1 = name
      · simp [setEntry, h]
      · have h' : name ≠ entry.1 := fun e => h e.symm
        simp only [setEntry, h, if_false, List.map_cons, ih, List.mem_cons, h', false_or]
        split <;> simp

theorem nodup_setEntry {α : Type u} (name : String) (value : α) {entries : List (String × α)}
    (h : (entries.map Prod.fst).Nodup) : ((setEntry name value entries).map Prod.fst).Nodup := by
  rw [map_fst_setEntry]
  split
  · exact h
  · rename_i hn
    exact List.nodup_append.2 ⟨h, by simp, by
      intro a ha b hb
      simp only [List.mem_singleton] at hb
      exact fun e => hn (hb ▸ e ▸ ha)⟩

theorem lookup_cons_ite {α : Type u} (entry : String × α) (rest : List (String × α))
    (name : String) :
    (entry :: rest).lookup name = if name = entry.1 then some entry.2 else rest.lookup name := by
  obtain ⟨key, value⟩ := entry
  by_cases h : name = key
  · simp [h]
  · simp [List.lookup_cons, beq_false_of_ne h, h]

theorem mem_of_lookup {α : Type u} {entries : List (String × α)} {name : String} {value : α}
    (found : entries.lookup name = some value) : (name, value) ∈ entries := by
  obtain ⟨before, behind, rfl, -⟩ := List.lookup_eq_some_iff.mp found
  exact List.mem_append_right before List.mem_cons_self

theorem lookup_filterKeys {α : Type u} (keep : String → Bool) (entries : List (String × α))
    (name : String) : (entries.filter fun entry => keep entry.1).lookup name =
      if keep name then entries.lookup name else none := by
  induction entries with
  | nil => simp
  | cons entry rest ih =>
      by_cases same : name = entry.1
      · subst same
        by_cases kept : keep entry.1
        · simp [kept, lookup_cons_ite]
        · simp [kept, ih]
      · by_cases kept : keep entry.1 <;> simp [kept, lookup_cons_ite, same, ih]

theorem lookup_setEntry {α : Type u} (name other : String) (value : α)
    (entries : List (String × α)) :
    (setEntry name value entries).lookup other =
      if other = name then some value else entries.lookup other := by
  induction entries with
  | nil => simp [setEntry, lookup_cons_ite]
  | cons entry rest ih =>
      by_cases h : entry.1 = name
      · simp only [setEntry, h, if_true, lookup_cons_ite]
        split <;> rfl
      · simp only [setEntry, h, if_false, lookup_cons_ite, ih]
        by_cases h' : other = name
        · simp [h', Ne.symm h]
        · simp [h']

theorem setEntry_setEntry {α : Type u} (name : String) (value earlier : α)
    (entries : List (String × α)) :
    setEntry name value (setEntry name earlier entries) = setEntry name value entries := by
  induction entries with
  | nil => simp [setEntry]
  | cons entry rest ih =>
      by_cases h : entry.1 = name
      · simp [setEntry, h]
      · simp [setEntry, h, ih]

/-- A search finds the same name when the new value passes the test just as the old one did. -/
theorem map_fst_find?_setEntry {α : Type u} (test : String × α → Bool) (name : String) (value : α)
    (entries : List (String × α))
    (same : test (name, value) = (entries.lookup name).elim false fun old => test (name, old)) :
    ((setEntry name value entries).find? test).map Prod.fst =
      (entries.find? test).map Prod.fst := by
  induction entries with
  | nil =>
      rw [List.lookup_nil, Option.elim_none] at same
      simp [setEntry, same]
  | cons entry rest ih =>
      rw [lookup_cons_ite] at same
      by_cases h : entry.1 = name
      · obtain ⟨key, old⟩ := entry
        subst h
        simp only [if_true, Option.elim_some] at same
        simp only [setEntry, if_true, List.find?_cons, same]
        split <;> rfl
      · have elsewhere : name ≠ entry.1 := fun e => h e.symm
        rw [if_neg elsewhere] at same
        simp only [setEntry, h, if_false, List.find?_cons]
        split
        · rfl
        · exact ih same

theorem setEntry_of_not_mem {α : Type u} (name : String) (value : α)
    {entries : List (String × α)} (h : name ∉ entries.map Prod.fst) :
    setEntry name value entries = entries ++ [(name, value)] := by
  induction entries with
  | nil => rfl
  | cons entry rest ih =>
      simp only [List.map_cons, List.mem_cons, not_or] at h
      simp [setEntry, Ne.symm h.1, ih h.2]

/-- Entries with pairwise distinct names, in the order in which the names were first written. -/
structure OrderedMap (α : Type u) where
  entries : List (String × α)
  nodup : (entries.map Prod.fst).Nodup
deriving DecidableEq

namespace OrderedMap

variable {α : Type u} {β : Type v}

def empty : OrderedMap α := ⟨[], List.nodup_nil⟩

instance : Inhabited (OrderedMap α) := ⟨empty⟩

def keys (m : OrderedMap α) : List String := m.entries.map Prod.fst

def values (m : OrderedMap α) : List α := m.entries.map Prod.snd

def size (m : OrderedMap α) : Nat := m.entries.length

def isEmpty (m : OrderedMap α) : Bool := m.entries.isEmpty

def find? (m : OrderedMap α) (name : String) : Option α := m.entries.lookup name

def contains (m : OrderedMap α) (name : String) : Bool := (m.find? name).isSome

def insert (m : OrderedMap α) (name : String) (value : α) : OrderedMap α :=
  ⟨setEntry name value m.entries, nodup_setEntry name value m.nodup⟩

/-- The entries that pass a test, in the same order. -/
def filter (keep : String → α → Bool) (m : OrderedMap α) : OrderedMap α :=
  ⟨m.entries.filter fun entry => keep entry.1 entry.2,
    List.Sublist.nodup (List.filter_sublist.map Prod.fst) m.nodup⟩

def filterKeys (keep : String → Bool) (m : OrderedMap α) : OrderedMap α :=
  m.filter fun name _ => keep name

/-- An entry for a name that has none; an entry that is there stays. -/
def insertNew (m : OrderedMap α) (name : String) (value : α) : OrderedMap α :=
  if m.contains name then m else m.insert name value

def erase (m : OrderedMap α) (name : String) : OrderedMap α :=
  m.filterKeys (· != name)

/-- Writes the entries one after the other; of two entries with one name the later value stands
in the earlier place. -/
def ofList (entries : List (String × α)) : OrderedMap α :=
  entries.foldl (fun m entry => m.insert entry.1 entry.2) empty

/-- The entries of `newer` written over those of `m`. -/
def merge (m newer : OrderedMap α) : OrderedMap α :=
  newer.entries.foldl (fun m entry => m.insert entry.1 entry.2) m

/-- A new value under every name. -/
def mapEntries (f : String → α → β) (m : OrderedMap α) : OrderedMap β :=
  ⟨m.entries.map fun entry => (entry.1, f entry.1 entry.2), by
    simpa [List.map_map, Function.comp_def] using m.nodup⟩

def map (f : α → β) (m : OrderedMap α) : OrderedMap β := m.mapEntries fun _ => f

/-- The value under a name, or a default, passed through a function and written back. -/
def update (m : OrderedMap α) (name : String) (absent : α) (f : α → α) : OrderedMap α :=
  m.insert name (f ((m.find? name).getD absent))

/-- The value under a name passed through a function; a map without the name stays as it is. -/
def modify (m : OrderedMap α) (name : String) (f : α → α) : OrderedMap α :=
  m.mapEntries fun key value => if key = name then f value else value

/-- The last name in the map's order, if any. -/
def lastKey? (m : OrderedMap α) : Option String := m.keys.getLast?

@[simp] theorem keys_insert (m : OrderedMap α) (name : String) (value : α) :
    (m.insert name value).keys = if name ∈ m.keys then m.keys else m.keys ++ [name] :=
  map_fst_setEntry name value m.entries

theorem nodup_keys (m : OrderedMap α) : m.keys.Nodup := m.nodup

@[simp] theorem keys_mapEntries (f : String → α → β) (m : OrderedMap α) :
    (m.mapEntries f).keys = m.keys := by
  simp [keys, mapEntries, List.map_map, Function.comp_def]

@[simp] theorem keys_map (f : α → β) (m : OrderedMap α) : (m.map f).keys = m.keys :=
  keys_mapEntries _ m

theorem contains_iff (m : OrderedMap α) (name : String) : m.contains name ↔ name ∈ m.keys := by
  simp only [contains, find?, List.lookup_isSome_iff, beq_iff_eq, keys, List.mem_map]
  exact ⟨fun ⟨e, h, he⟩ => ⟨e, h, he.symm⟩, fun ⟨e, h, he⟩ => ⟨e, h, he.symm⟩⟩

theorem find?_eq_none_iff (m : OrderedMap α) (name : String) :
    m.find? name = none ↔ name ∉ m.keys := by
  rw [← contains_iff, contains, Bool.not_eq_true, Option.isSome_eq_false_iff,
    Option.isNone_iff_eq_none]

theorem mem_keys_of_find? {m : OrderedMap α} {name : String} {value : α}
    (h : m.find? name = some value) : name ∈ m.keys := by
  rw [← contains_iff, contains, h, Option.isSome_some]

theorem exists_find? {m : OrderedMap α} {name : String} (h : name ∈ m.keys) :
    ∃ value, m.find? name = some value :=
  Option.isSome_iff_exists.mp ((contains_iff m name).mpr h)

theorem mem_entries_iff (m : OrderedMap α) (name : String) (value : α) :
    (name, value) ∈ m.entries ↔ m.find? name = some value := by
  obtain ⟨entries, nodup⟩ := m
  simp only [find?]
  induction entries with
  | nil => simp
  | cons entry rest ih =>
      obtain ⟨key, x⟩ := entry
      simp only [List.map_cons, List.nodup_cons] at nodup
      have ih := ih nodup.2
      by_cases h : name = key
      · subst h
        have absent : (name, value) ∉ rest := fun member =>
          nodup.1 (List.mem_map_of_mem (f := Prod.fst) member)
        simp [absent, eq_comm]
      · simp [lookup_cons_ite, h, ih]

theorem isEmpty_iff (m : OrderedMap α) : m.isEmpty ↔ ∀ name, m.find? name = none := by
  obtain ⟨entries, nodup⟩ := m
  cases entries with
  | nil => simp [isEmpty, find?]
  | cons entry rest =>
      have held : (OrderedMap.mk (entry :: rest) nodup).find? entry.1 = some entry.2 := by
        simp [find?, lookup_cons_ite]
      constructor
      · intro empty
        cases empty
      · intro absent
        rw [absent] at held
        cases held

@[simp] theorem find?_empty (name : String) : (empty : OrderedMap α).find? name = none := rfl

@[simp] theorem keys_empty : (empty : OrderedMap α).keys = [] := rfl

@[simp] theorem find?_insert (m : OrderedMap α) (name other : String) (value : α) :
    (m.insert name value).find? other = if other = name then some value else m.find? other :=
  lookup_setEntry name other value m.entries

theorem insert_insert (m : OrderedMap α) (name : String) (value earlier : α) :
    (m.insert name earlier).insert name value = m.insert name value := by
  simp only [insert, setEntry_setEntry]

theorem keys_insert_of_not_mem {m : OrderedMap α} {name : String} (h : name ∉ m.keys) (value : α) :
    (m.insert name value).keys = m.keys ++ [name] := by
  rw [keys_insert, if_neg h]

@[simp] theorem keys_filterKeys (keep : String → Bool) (m : OrderedMap α) :
    (m.filterKeys keep).keys = m.keys.filter keep := by
  simp [keys, filterKeys, filter, List.filter_map, Function.comp_def]

@[simp] theorem find?_filter (keep : String → α → Bool) (m : OrderedMap α) (name : String) :
    (m.filter keep).find? name = (m.find? name).filter (keep name) := by
  obtain ⟨entries, nodup⟩ := m
  simp only [find?, filter]
  induction entries with
  | nil => rfl
  | cons entry rest ih =>
      obtain ⟨fresh, nodup⟩ := List.nodup_cons.mp nodup
      have ih := ih nodup
      by_cases same : name = entry.1
      · have absent : rest.lookup name = none :=
          (find?_eq_none_iff ⟨rest, nodup⟩ name).mpr (same ▸ fresh)
        subst same
        by_cases kept : keep entry.1 entry.2
        · simp [kept, lookup_cons_ite, Option.filter]
        · rw [List.filter_cons_of_neg (by simpa using kept), ih, absent]
          simp [kept, lookup_cons_ite, Option.filter]
      · by_cases kept : keep entry.1 entry.2
        · simp [kept, lookup_cons_ite, same, ih]
        · simp [kept, lookup_cons_ite, same, ih]

@[simp] theorem find?_filterKeys (keep : String → Bool) (m : OrderedMap α) (name : String) :
    (m.filterKeys keep).find? name = if keep name then m.find? name else none :=
  lookup_filterKeys keep m.entries name

@[simp] theorem find?_mapEntries (f : String → α → β) (m : OrderedMap α) (name : String) :
    (m.mapEntries f).find? name = (m.find? name).map (f name) := by
  obtain ⟨entries, nodup⟩ := m
  simp only [find?, mapEntries]
  clear nodup
  induction entries with
  | nil => rfl
  | cons entry rest ih =>
      simp only [List.map_cons, lookup_cons_ite, ih]
      split
      · rename_i same
        rw [same, Option.map_some]
      · rfl

@[simp] theorem find?_map (f : α → β) (m : OrderedMap α) (name : String) :
    (m.map f).find? name = (m.find? name).map f :=
  find?_mapEntries _ m name

@[simp] theorem find?_update (m : OrderedMap α) (name other : String) (absent : α) (f : α → α) :
    (m.update name absent f).find? other =
      if other = name then some (f ((m.find? name).getD absent)) else m.find? other :=
  find?_insert m name other _

@[simp] theorem keys_erase (m : OrderedMap α) (name : String) :
    (m.erase name).keys = m.keys.filter (· != name) :=
  keys_filterKeys _ m

@[simp] theorem find?_erase (m : OrderedMap α) (name other : String) :
    (m.erase name).find? other = if other = name then none else m.find? other := by
  rw [erase, find?_filterKeys]
  by_cases same : other = name
  · simp [same]
  · simp [same]

theorem erase_of_not_mem {m : OrderedMap α} {name : String} (h : name ∉ m.keys) :
    m.erase name = m := by
  have kept : ∀ entry ∈ m.entries, (entry.1 != name) = true := by
    intro entry member
    have distinct : entry.1 ≠ name := fun e => h (e ▸ List.mem_map_of_mem member)
    simpa using distinct
  obtain ⟨entries, nodup⟩ := m
  simp only [erase, filterKeys, filter, List.filter_eq_self.mpr kept]

theorem size_eq_length_keys (m : OrderedMap α) : m.size = m.keys.length :=
  (List.length_map ..).symm

theorem size_insert {m : OrderedMap α} {name : String} (h : name ∉ m.keys) (value : α) :
    (m.insert name value).size = m.size + 1 := by
  rw [size_eq_length_keys, size_eq_length_keys, keys_insert_of_not_mem h, List.length_append,
    List.length_singleton]

theorem size_erase {m : OrderedMap α} {name : String} (h : name ∈ m.keys) :
    (m.erase name).size + 1 = m.size := by
  rw [size_eq_length_keys, size_eq_length_keys, keys_erase, ← m.nodup_keys.erase_eq_filter,
    List.length_erase_of_mem h, Nat.sub_add_cancel (List.length_pos_of_mem h)]

private theorem entries_foldl_insert (entries : List (String × α)) (m : OrderedMap α)
    (h : (m.keys ++ entries.map Prod.fst).Nodup) :
    (entries.foldl (fun m entry => m.insert entry.1 entry.2) m).entries = m.entries ++ entries := by
  induction entries generalizing m with
  | nil => simp
  | cons entry rest ih =>
      have fresh : entry.1 ∉ m.keys := fun member =>
        (List.nodup_append.mp h).2.2 _ member _ (by simp) rfl
      have moved : (m.insert entry.1 entry.2).entries = m.entries ++ [entry] :=
        setEntry_of_not_mem entry.1 entry.2 fresh
      rw [List.foldl_cons, ih, moved, List.append_assoc, List.singleton_append]
      rw [keys_insert_of_not_mem fresh, List.append_assoc]
      exact h

/-- Entries whose names are distinct already make up a map as they stand. -/
theorem entries_ofList {entries : List (String × α)} (h : (entries.map Prod.fst).Nodup) :
    (ofList entries).entries = entries :=
  entries_foldl_insert entries empty h

theorem find?_ofList {entries : List (String × α)} (h : (entries.map Prod.fst).Nodup)
    (name : String) : (ofList entries).find? name = entries.lookup name := by
  rw [find?, entries_ofList h]

theorem mem_of_find?_ofList {entries : List (String × α)} {name : String} {value : α}
    (found : (ofList entries).find? name = some value) : (name, value) ∈ entries := by
  refine List.foldlRecOn (motive := fun m : OrderedMap α =>
    m.find? name = some value → (name, value) ∈ entries) entries _ (by simp)
    (fun m ih entry member found => ?_) found
  rw [find?_insert] at found
  split at found
  · next same =>
    cases found
    exact same ▸ member
  · exact ih found

/-- Of two values for a name the newer one stands. -/
theorem find?_merge (m newer : OrderedMap α) (name : String) :
    (m.merge newer).find? name = (newer.find? name).or (m.find? name) := by
  obtain ⟨entries, nodup⟩ := newer
  simp only [merge, find?]
  induction entries generalizing m with
  | nil => rfl
  | cons entry rest ih =>
      obtain ⟨fresh, nodup⟩ := List.nodup_cons.mp nodup
      rw [List.foldl_cons, ih (m.insert entry.1 entry.2) nodup, lookup_cons_ite]
      have written := find?_insert m entry.1 name entry.2
      rw [find?] at written
      rw [written]
      split
      · rename_i same
        have absent : rest.lookup name = none :=
          (find?_eq_none_iff ⟨rest, nodup⟩ name).mpr (same ▸ fresh)
        rw [absent]
        rfl
      · rfl

/-- Maps with the same names in the same order and the same value under each name are equal. -/
theorem ext_find? {m m' : OrderedMap α} (keys : m.keys = m'.keys)
    (values : ∀ name, m.find? name = m'.find? name) : m = m' := by
  obtain ⟨entries, nodup⟩ := m
  obtain ⟨entries', nodup'⟩ := m'
  simp only [OrderedMap.keys] at keys
  simp only [find?] at values
  congr
  induction entries generalizing entries' with
  | nil => exact (List.map_eq_nil_iff.mp keys.symm).symm
  | cons entry rest ih =>
      cases entries' with
      | nil => cases keys
      | cons entry' rest' =>
          obtain ⟨key, value⟩ := entry
          obtain ⟨key', value'⟩ := entry'
          obtain ⟨same, others⟩ := List.cons.inj keys
          change key = key' at same
          subst same
          obtain ⟨fresh, nodup⟩ := List.nodup_cons.mp nodup
          obtain ⟨fresh', nodup'⟩ := List.nodup_cons.mp nodup'
          have here := values key
          simp only [lookup_cons_ite, if_true, Option.some.injEq] at here
          have behind : rest = rest' := by
            refine ih nodup rest' nodup' others fun name => ?_
            by_cases same : name = key
            · have absent := (find?_eq_none_iff ⟨rest, nodup⟩ name).mpr (same ▸ fresh)
              have absent' := (find?_eq_none_iff ⟨rest', nodup'⟩ name).mpr (same ▸ fresh')
              exact absent.trans absent'.symm
            · have there := values name
              simpa only [lookup_cons_ite, same, if_false] using there
          rw [here, behind]

/-- The names of the newer entries that are not there yet go last. -/
theorem keys_merge (m newer : OrderedMap α) :
    (m.merge newer).keys = m.keys ++ newer.keys.filter (!m.contains ·) := by
  obtain ⟨entries, nodup⟩ := newer
  simp only [merge]
  change _ = _ ++ (entries.map Prod.fst).filter _
  induction entries generalizing m with
  | nil => simp
  | cons entry rest ih =>
      obtain ⟨fresh, nodup⟩ := List.nodup_cons.mp nodup
      have later : (rest.map Prod.fst).filter (!(m.insert entry.1 entry.2).contains ·) =
          (rest.map Prod.fst).filter (!m.contains ·) := by
        refine List.filter_congr fun name member => ?_
        have other : name ≠ entry.1 := fun same => fresh (same ▸ member)
        simp [contains, other]
      rw [List.foldl_cons, ih (m.insert entry.1 entry.2) nodup, keys_insert, later, List.map_cons,
        List.filter_cons]
      by_cases held : entry.1 ∈ m.keys
      · simp [held, (contains_iff m entry.1).mpr held]
      · simp [held, contains_iff]

/-- Entries that are written over twice are those of the second time. -/
theorem merge_merge {newer newest : OrderedMap α} (keys : newer.keys = newest.keys)
    (m : OrderedMap α) : (m.merge newer).merge newest = m.merge newest := by
  apply ext_find?
  · have none : newest.keys.filter (!(m.merge newer).contains ·) = [] := by
      rw [List.filter_eq_nil_iff]
      intro name member
      have held : (m.merge newer).contains name := by
        rw [contains_iff, keys_merge, keys, List.mem_append, List.mem_filter]
        by_cases old : name ∈ m.keys
        · exact .inl old
        · exact .inr ⟨member, by simp [contains, (m.find?_eq_none_iff name).mpr old]⟩
      simp [held]
    rw [keys_merge, none, List.append_nil, keys_merge, keys_merge, keys]
  · intro name
    rw [find?_merge, find?_merge, find?_merge]
    cases found : newest.find? name with
    | some value => rfl
    | none =>
        have absent : newer.find? name = none := by
          rw [find?_eq_none_iff, keys, ← find?_eq_none_iff]
          exact found
        rw [absent]
        rfl

theorem update_update (m : OrderedMap α) (name : String) (absent : α) (f g : α → α) :
    (m.update name absent f).update name absent g = m.update name absent (g ∘ f) := by
  simp only [update, find?_insert, if_true, Option.getD_some, insert_insert, Function.comp_apply]

/-- An update may be made before all values are translated. -/
theorem map_update {f : α → β} {g : α → α} {g' : β → β} (m : OrderedMap α) (name : String)
    (absent : α)
    (step : g' (f ((m.find? name).getD absent)) = f (g ((m.find? name).getD absent))) :
    (m.map f).update name (f absent) g' = (m.update name absent g).map f := by
  refine ext_find? ?_ fun other => ?_
  · simp only [update, keys_insert, keys_map]
  · simp only [find?_update, find?_map, Option.getD_map, step]
    split <;> rfl

end OrderedMap

end BuildingWorkflow
