import BuildingWorkflow.Text.Csv

/-!
Reading tables of comma-separated records.

A reader goes through a table one character at a time. Commas and line feeds end a field unless they
stand in quotes, a line feed also ends the record, and two quotes within quotes are one quote of the
field. A table with at least one field in every record is read back as it was written, whatever the
fields hold.
-/
namespace BuildingWorkflow

namespace Csv

/-- Where a reader stands in a field: not in quotes, in quotes, or after a quote in quotes, which
ends them unless another one follows. What has been read of the field is kept last character
first. -/
inductive Place
  | bare (read : List Char)
  | quoted (read : List Char)
  | closed (read : List Char)

/-- What a character does: it goes on in the field, or ends the field or the record with it. -/
inductive Move
  | goOn (place : Place)
  | field (text : String)
  | record (last : String)
  | refuse

/-- A comma ends a field, a line feed a record. -/
def Move.ending (read : List Char) (c : Char) (otherwise : Move) : Move :=
  if c = ',' then .field (String.ofList read.reverse)
  else if c = '\n' then .record (String.ofList read.reverse)
  else otherwise

def Place.move : Place → Char → Move
  | .bare read, c =>
      if c = quoteMark then if read.isEmpty then .goOn (.quoted []) else .refuse
      else .ending read c (.goOn (.bare (c :: read)))
  | .quoted read, c => .goOn (if c = quoteMark then .closed read else .quoted (c :: read))
  | .closed read, c =>
      if c = quoteMark then .goOn (.quoted (c :: read)) else .ending read c .refuse

/-- The records that are left when the text ends within a record or after the last one. -/
def Place.final (before : List String) : Place → Option (List (List String))
  | .bare [] => some (if before.isEmpty then [] else [(before.reverse ++ [""])])
  | .bare read | .closed read => some [before.reverse ++ [String.ofList read.reverse]]
  | .quoted _ => none

/-- The records from a place on; the fields of the record so far are kept last field first. -/
def readFrom (before : List String) (place : Place) : List Char → Option (List (List String))
  | [] => place.final before
  | c :: rest =>
      match place.move c with
      | .goOn place => readFrom before place rest
      | .field text => readFrom (text :: before) (.bare []) rest
      | .record last => (readFrom [] (.bare []) rest).map ((before.reverse ++ [last]) :: ·)
      | .refuse => none

/-- The records of a table, if it is well formed. -/
def read? (table : String) : Option (List (List String)) := readFrom [] (.bare []) table.toList

/-! ## What is read of what was written -/

theorem readFrom_bare (before : List String) (read : List Char) {field : List Char}
    (rest : List Char) (plain : ∀ c ∈ field, special c = false) :
    readFrom before (.bare read) (field ++ rest) =
      readFrom before (.bare (field.reverse ++ read)) rest := by
  induction field generalizing read with
  | nil => rfl
  | cons c field ih =>
      obtain ⟨here, plain⟩ := List.forall_mem_cons.mp plain
      simp only [special, Bool.or_eq_false_iff, beq_eq_false_iff_ne] at here
      have stays : (Place.bare read).move c = .goOn (.bare (c :: read)) := by
        simp [Place.move, Move.ending, here]
      rw [List.cons_append, readFrom, stays]
      simpa using ih (c :: read) plain

theorem readFrom_doubled (before : List String) (read field rest : List Char) :
    readFrom before (.quoted read) (doubled field ++ quoteMark :: rest) =
      readFrom before (.closed (field.reverse ++ read)) rest := by
  induction field generalizing read with
  | nil => rfl
  | cons c field ih =>
      by_cases mark : c = quoteMark
      · subst mark
        simpa [doubled, readFrom, Place.move] using ih (quoteMark :: read)
      · simpa [doubled, readFrom, Place.move, mark] using ih (c :: read)

/-- At a place the text of a field is complete, up to the character that ends it. -/
structure Place.Complete (place : Place) (field : List Char) : Prop where
  comma : place.move ',' = .field (String.ofList field)
  lineFeed : place.move '\n' = .record (String.ofList field)

theorem readFrom_quotedField (field : List Char) : ∃ place : Place, place.Complete field ∧
    ∀ before rest, readFrom before (.bare []) (quotedField field ++ rest) =
      readFrom before place rest := by
  refine ⟨.closed field.reverse, ⟨?_, ?_⟩, fun before rest => ?_⟩
  · simp [Place.move, Move.ending, quoteMark]
  · simp [Place.move, Move.ending, quoteMark]
  · simpa [quotedField, readFrom, Place.move] using readFrom_doubled before [] field rest

theorem readFrom_fieldText (field : List Char) : ∃ place : Place, place.Complete field ∧
    ∀ before rest, readFrom before (.bare []) (fieldText field ++ rest) =
      readFrom before place rest := by
  by_cases quotes : field.any special
  · rw [fieldText, if_pos quotes]
    exact readFrom_quotedField field
  · rw [fieldText, if_neg quotes]
    have plain : ∀ c ∈ field, special c = false := by simpa using quotes
    refine ⟨.bare field.reverse, ⟨?_, ?_⟩, fun before rest => ?_⟩
    · simp [Place.move, Move.ending, quoteMark]
    · simp [Place.move, Move.ending, quoteMark]
    · simpa using readFrom_bare before [] rest plain

theorem readFrom_joined (before : List String) {fields : List (List Char)} (rest : List Char)
    (filled : fields ≠ []) :
    readFrom before (.bare []) (joined fields ++ '\n' :: rest) =
      (readFrom [] (.bare []) rest).map ((before.reverse ++ fields.map String.ofList) :: ·) := by
  induction fields generalizing before with
  | nil => exact absurd rfl filled
  | cons field fields ih =>
      obtain ⟨place, complete, reads⟩ := readFrom_fieldText field
      cases fields with
      | nil =>
          rw [joined, reads, readFrom, complete.lineFeed]
          rfl
      | cons next fields =>
          have text : joined (field :: next :: fields) =
              fieldText field ++ ',' :: joined (next :: fields) := rfl
          rw [text, List.append_assoc, reads, List.cons_append, readFrom, complete.comma]
          simpa using ih (String.ofList field :: before) (List.cons_ne_nil next fields)

theorem readFrom_record {fields : List (List Char)} (rest : List Char) (filled : fields ≠ []) :
    readFrom [] (.bare []) (record fields ++ rest) =
      (readFrom [] (.bare []) rest).map (fields.map String.ofList :: ·) := by
  unfold record
  split
  · obtain ⟨place, complete, reads⟩ := readFrom_quotedField []
    rw [List.append_assoc, reads, List.singleton_append, readFrom, complete.lineFeed]
    rfl
  · rw [List.append_assoc, List.singleton_append]
    exact readFrom_joined [] rest filled

/-- A table is read back as it was written. -/
theorem read?_table {records : List (List String)} (filled : ∀ fields ∈ records, fields ≠ []) :
    read? (table records) = some records := by
  rw [read?, table, String.toList_ofList]
  induction records with
  | nil => rfl
  | cons fields records ih =>
      obtain ⟨here, filled⟩ := List.forall_mem_cons.mp filled
      have nonempty : fields.map String.toList ≠ [] := by simpa using here
      rw [List.flatMap_cons, readFrom_record _ nonempty, ih filled]
      simp [Function.comp_def]

example : read? "a,\"b \"\"c\"\"\nd\"\n\"\",\n" = some [["a", "b \"c\"\nd"], ["", ""]] := by
  decide +kernel

end Csv

end BuildingWorkflow
