import BuildingWorkflow.Text.Blank
import BuildingWorkflow.Text.Parts
import Mathlib.Data.List.DropRight

/-!
Texts without the blanks around them, and texts cut in two at a separator.

Blanks are taken off at both ends only. What stands in front of a mark that is not blank has no part
in the end of a text, and what stands behind it has none in the beginning.
-/
namespace BuildingWorkflow

section Trimming

variable (drop : Char → Bool) (chars : List Char)

theorem trimChars_eq : trimChars drop chars = (chars.dropWhile drop).rdropWhile drop := rfl

theorem rdropWhile_trimChars : (trimChars drop chars).rdropWhile drop = trimChars drop chars :=
  List.rdropWhile_idempotent drop _

/-- Nothing is left to drop in front: the first character that is kept was the first before the end
was cut. -/
theorem dropWhile_trimChars : (trimChars drop chars).dropWhile drop = trimChars drop chars := by
  obtain ⟨cut, split⟩ := List.rdropWhile_prefix drop (chars.dropWhile drop)
  rw [← trimChars_eq] at split
  cases kept : trimChars drop chars with
  | nil => rfl
  | cons c rest =>
      apply List.dropWhile_cons_of_neg
      rw [kept, List.cons_append] at split
      have first := List.head?_dropWhile_not drop chars
      rw [← split, List.head?_cons] at first
      simp [first]

variable {drop chars} in
theorem trimChars_of_none (kept : ∀ c ∈ chars, drop c = false) : trimChars drop chars = chars := by
  have front : chars.dropWhile drop = chars :=
    List.dropWhile_eq_self_iff.mpr fun _ => Bool.eq_false_iff.mp (kept _ (List.get_mem _ _))
  rw [trimChars_eq, front]
  exact List.rdropWhile_eq_self_iff.mpr fun _ =>
    Bool.eq_false_iff.mp (kept _ (List.getLast_mem _))

theorem trimChars_trimChars :
    trimChars drop (trimChars drop chars) = trimChars drop chars := by
  rw [trimChars_eq drop (trimChars drop chars), dropWhile_trimChars, rdropWhile_trimChars]

variable {drop} in
theorem trimChars_append_cons {mark : Char} (front : List Char) {back : List Char}
    (kept : drop mark = false) (ended : back.rdropWhile drop = back) :
    trimChars drop (front ++ mark :: back) = front.dropWhile drop ++ mark :: back := by
  have begun : (front ++ mark :: back).dropWhile drop = front.dropWhile drop ++ mark :: back := by
    rw [List.dropWhile_append]
    split
    · rename_i none
      rw [List.isEmpty_iff] at none
      simp [none, kept]
    · rfl
  rw [trimChars_eq, begun, List.rdropWhile_eq_self_iff]
  intro nonempty
  rw [List.getLast_append_of_right_ne_nil _ _ (List.cons_ne_nil mark back)]
  cases back with
  | nil => simp [kept]
  | cons c rest =>
      rw [List.getLast_cons (List.cons_ne_nil c rest)]
      exact List.rdropWhile_eq_self_iff.mp ended _

end Trimming

@[simp] theorem trim_trim (s : String) : trim (trim s) = trim s := by
  simp [trim, trimChars_trimChars]

theorem cutOnce?_eq_none_iff {separator : Char} {s : String} :
    cutOnce? separator s = none ↔ separator ∉ s.toList := by
  have passed : s.toList.dropWhile (· != separator) = [] ↔ separator ∉ s.toList := by
    rw [List.dropWhile_eq_nil_iff]
    exact ⟨fun all member => by simpa using all separator member,
      fun absent c member => by simpa using ne_of_mem_of_not_mem member absent⟩
  rw [← passed, cutOnce?]
  cases s.toList.dropWhile (· != separator) <;> simp

theorem cutOnce?_append_cons {separator : Char} {front : List Char} (back : List Char)
    (h : separator ∉ front) :
    cutOnce? separator (String.ofList (front ++ separator :: back)) =
      some (String.ofList front, String.ofList back) := by
  have passed : ∀ c ∈ front, (c != separator) = true := by
    intro c member
    have other : c ≠ separator := fun e => h (e ▸ member)
    simpa using other
  simp [cutOnce?, List.dropWhile_append_of_pos passed, List.takeWhile_append_of_pos passed]

/-- A name behind a set and a point is read as this name in this set: only blanks in front of the
set do not count. -/
theorem cutOnce?_trim_dotted {set : String} (name : String) (h : '.' ∉ set.toList) :
    cutOnce? '.' (trim (set ++ "." ++ trim name)) =
      some (String.ofList (set.toList.dropWhile isBlank), trim name) := by
  have point : isBlank '.' = false := by decide
  have chars : (set ++ "." ++ trim name).toList =
      set.toList ++ '.' :: trimChars isBlank name.toList := by
    simp [trim]
  have inside : '.' ∉ set.toList.dropWhile isBlank := fun member =>
    h ((List.dropWhile_sublist isBlank).subset member)
  rw [trim, chars, trimChars_append_cons _ point (rdropWhile_trimChars isBlank _),
    cutOnce?_append_cons _ inside]
  rfl

end BuildingWorkflow
