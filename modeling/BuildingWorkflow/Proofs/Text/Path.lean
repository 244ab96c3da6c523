import BuildingWorkflow.Text.Path

/-!
Names of paths.

The names of a path are plain: not empty, not a single dot, and with no slash in them. A path that is
written from a root and plain names has these names again, and it starts at the root.
-/
namespace BuildingWorkflow

/-! ## Parts between separators -/

section Cutting

variable {separator : Char}

theorem cutAt_eq_splitOn (separator : Char) (chars : List Char) :
    cutAt separator chars = chars.splitOn separator := by
  rw [List.splitOn]
  induction chars with
  | nil => rfl
  | cons c rest ih =>
      rw [cutAt, List.splitOnP_cons_eq_if_modifyHead, ← ih]
      by_cases cut : c = separator
      · simp [cut]
      · rw [if_neg cut, if_neg (by simpa using cut)]
        cases parts : cutAt separator rest with
        | nil => exact absurd (ih.symm.trans parts) (List.splitOnP_ne_nil _ _)
        | cons first others => rfl

theorem not_mem_of_mem_cutAt {chars part : List Char} (member : part ∈ cutAt separator chars) :
    separator ∉ part := by
  induction chars generalizing part with
  | nil => simp_all [cutAt]
  | cons c rest ih =>
      rw [cutAt] at member
      split at member
      · obtain rfl | member := List.mem_cons.mp member
        · exact List.not_mem_nil
        · exact ih member
      · rename_i kept
        cases parts : cutAt separator rest with
        | nil =>
            simp only [parts, List.mem_singleton] at member
            simpa [member] using fun e => kept e.symm
        | cons first others =>
            simp only [parts, List.mem_cons] at member
            obtain rfl | member := member
            · have clear : separator ∉ first := ih (by simp [parts])
              simpa [clear] using fun e => kept e.symm
            · exact ih (by simp [parts, member])

end Cutting

namespace Path

/-- A name that counts in a path. -/
structure Plain (name : String) : Prop where
  filled : name ≠ ""
  other : name ≠ "."
  noSlash : '/' ∉ name.toList

theorem plain_of_mem_names {path name : String} (member : name ∈ names path) : Plain name := by
  simp only [names, cutText, List.mem_filter, List.mem_map, Bool.and_eq_true, bne_iff_ne] at member
  obtain ⟨⟨part, cut, rfl⟩, filled, other⟩ := member
  exact ⟨filled, other, by simpa using not_mem_of_mem_cutAt cut⟩

/-! ## Written paths -/

theorem startsWith_slash_iff (s : String) :
    startsWith s "/" = true ↔ ∃ rest, s.toList = '/' :: rest := by
  rw [startsWith, List.isPrefixOf_iff_prefix]
  constructor
  · rintro ⟨rest, split⟩
    exact ⟨rest, split.symm⟩
  · rintro ⟨rest, split⟩
    exact ⟨rest, split.symm⟩

theorem names_slash (path : String) : names ("/" ++ path) = names path := by
  have opened : ("/" ++ path).toList = '/' :: path.toList := by simp
  simp [names, cutText, opened, cutAt]

theorem names_root_append (path rest : String) : names (root path ++ rest) = names rest := by
  rw [root]
  split
  · simp
  · split
    · have twice : "//" ++ rest = "/" ++ ("/" ++ rest) := by
        rw [← String.append_assoc]
        rfl
      rw [twice, names_slash, names_slash]
    · rw [names_slash]

section Listed

variable {listed : List String} (plain : ∀ name ∈ listed, Plain name)
include plain

theorem cutAt_intercalate (filled : listed ≠ []) :
    cutAt '/' (String.intercalate "/" listed).toList = listed.map String.toList := by
  rw [cutAt_eq_splitOn, String.toList_intercalate]
  refine List.splitOn_intercalate '/' (fun part member => ?_) (by simpa using filled)
  obtain ⟨name, inside, rfl⟩ := List.mem_map.mp member
  exact (plain name inside).noSlash

theorem names_intercalate : names (String.intercalate "/" listed) = listed := by
  by_cases filled : listed = []
  · subst filled
    decide
  · have read : (listed.map String.toList).map String.ofList = listed := by simp
    rw [names, cutText, cutAt_intercalate plain filled, read, List.filter_eq_self]
    intro name member
    simp [(plain name member).filled, (plain name member).other]

/-- Names alone lead on from the folder that work is done in: the first of them is not empty. -/
theorem startsWith_intercalate : startsWith (String.intercalate "/" listed) "/" = false := by
  by_cases filled : listed = []
  · subst filled
    decide
  · rw [← Bool.not_eq_true, startsWith_slash_iff]
    rintro ⟨rest, opened⟩
    have blank : [] ∈ listed.map String.toList := by
      rw [← cutAt_intercalate plain filled, opened, cutAt, if_pos rfl]
      exact List.mem_cons_self
    obtain ⟨name, member, empty⟩ := List.mem_map.mp blank
    exact (plain name member).filled (String.toList_eq_nil_iff.mp empty)

theorem names_written (path : String) : names (written (root path) listed) = listed := by
  have read : names (root path ++ String.intercalate "/" listed) = listed := by
    rw [names_root_append, names_intercalate plain]
  rw [written]
  split
  · rename_i blank
    rw [blank] at read
    rw [← read]
    decide
  · exact read

theorem startsWith_written (path : String) :
    startsWith (written (root path) listed) "/" = startsWith path "/" := by
  cases absolute : startsWith path "/" with
  | false =>
      have relative : root path = "" := by simp [root, absolute]
      simp only [written, relative, String.empty_append]
      split
      · decide
      · exact startsWith_intercalate plain
  | true =>
      obtain ⟨rest, opened⟩ : ∃ rest, (root path).toList = '/' :: rest := by
        simp only [root, absolute, Bool.not_true, Bool.false_eq_true, if_false]
        split
        · exact ⟨['/'], rfl⟩
        · exact ⟨[], rfl⟩
      rw [startsWith_slash_iff]
      refine ⟨rest ++ (String.intercalate "/" listed).toList, ?_⟩
      have whole : (root path ++ String.intercalate "/" listed).toList =
          '/' :: (rest ++ (String.intercalate "/" listed).toList) := by
        rw [String.toList_append, opened, List.cons_append]
      rw [written]
      split
      · rename_i blank
        rw [blank] at whole
        cases whole
      · exact whole

end Listed

@[simp] theorem names_normal (path : String) : names (normal path) = names path :=
  names_written (fun _ => plain_of_mem_names) path

@[simp] theorem startsWith_normal (path : String) :
    startsWith (normal path) "/" = startsWith path "/" :=
  startsWith_written (fun _ => plain_of_mem_names) path

section InFolder

variable (folder : String) {name : String} (plain : Plain name)
include plain

theorem names_of_plain : names name = [name] := by
  have alone : String.intercalate "/" [name] = name := by simp
  rw [← alone, names_intercalate (by simpa using plain)]
  simp

theorem plain_names_append : ∀ other ∈ names folder ++ [name], Plain other := by
  intro other member
  obtain member | member := List.mem_append.mp member
  · exact plain_of_mem_names member
  · exact List.mem_singleton.mp member ▸ plain

theorem names_inFolder : names (inFolder folder name) = names folder ++ [name] := by
  rw [inFolder, names_of_plain plain, names_written (plain_names_append folder plain)]

theorem startsWith_inFolder : startsWith (inFolder folder name) "/" = startsWith folder "/" := by
  rw [inFolder, names_of_plain plain, startsWith_written (plain_names_append folder plain)]

theorem fileName_inFolder : fileName (inFolder folder name) = name := by
  rw [fileName, names_inFolder folder plain, List.getLast?_concat, Option.getD_some]

theorem inFolder_ne_empty : inFolder folder name ≠ "" := by
  intro blank
  have read := names_inFolder folder plain
  rw [blank] at read
  exact List.append_ne_nil_of_right_ne_nil _ (List.cons_ne_nil _ _) read.symm

theorem inFolder_inj {other : String} (plain' : Plain other) :
    inFolder folder name = inFolder folder other ↔ name = other := by
  refine ⟨fun same => ?_, congrArg _⟩
  have read := congrArg names same
  rw [names_inFolder folder plain, names_inFolder folder plain'] at read
  simpa using read

end InFolder

/-! ## File names -/

theorem plain_fileName {path : String} (filled : fileName path ≠ "") : Plain (fileName path) := by
  cases last : (names path).getLast? with
  | none => simp [fileName, last] at filled
  | some name =>
      rw [fileName, last, Option.getD_some]
      exact plain_of_mem_names (List.mem_of_getLast? last)

end Path

end BuildingWorkflow
