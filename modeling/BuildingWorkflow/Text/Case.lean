import BuildingWorkflow.Text.CaseTable

/-!
Upper and lower case of texts.

The mappings are those of the Unicode standard for whole texts: one letter may become several, and
the capital sigma becomes the final small sigma at the end of a word and the other one elsewhere.
-/
namespace BuildingWorkflow

/-- The shift that a table of rows `(first, last, step, shift)` gives for a code point. -/
def tableShift? (table : List (Nat × Nat × Nat × Int)) (n : Nat) : Option Int :=
  (table.find? fun (first, last, step, _) =>
    first ≤ n && n ≤ last && (n - first) % step == 0).map fun (_, _, _, shift) => shift

def shiftChar (c : Char) (shift : Int) : Char := Char.ofNat (c.toNat + shift).toNat

def inRanges (ranges : List (Nat × Nat)) (c : Char) : Bool :=
  ranges.any fun (first, last) => first ≤ c.toNat && c.toNat ≤ last

/-- Upper case of one letter. -/
def upperChar (c : Char) : List Char :=
  if c.toNat < 0x80 then [c.toUpper]
  else match CaseTable.upperExpansions.lookup c.toNat with
    | some letters => letters.map Char.ofNat
    | none => [((tableShift? CaseTable.upper c.toNat).map (shiftChar c)).getD c]

/-- Lower case of one letter, the capital sigma aside. -/
def lowerChar (c : Char) : List Char :=
  if c.toNat < 0x80 then [c.toLower]
  else if c.toNat = 0x130 then ['i', Char.ofNat 0x307]
  else [((tableShift? CaseTable.lower c.toNat).map (shiftChar c)).getD c]

/-- Whether the next letter in reading direction, past marks within a word, has case. -/
def meetsCased (chars : List Char) : Bool :=
  match chars.dropWhile (inRanges CaseTable.caseIgnorable) with
  | [] => false
  | c :: _ => inRanges CaseTable.cased c

/-- Lower case of the rest of a text; `before` holds what was read already, the latest first. -/
def lowerChars (before : List Char) : List Char → List Char
  | [] => []
  | c :: rest =>
      (if c.toNat = 0x3a3 then
        [if meetsCased before && !meetsCased rest then Char.ofNat 0x3c2 else Char.ofNat 0x3c3]
      else lowerChar c) ++ lowerChars (c :: before) rest

def upper (s : String) : String := String.ofList (s.toList.flatMap upperChar)

def lower (s : String) : String := String.ofList (lowerChars [] s.toList)

end BuildingWorkflow
