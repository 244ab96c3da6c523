import BuildingWorkflow.Node.Analysis
import BuildingWorkflow.Proofs.Node.Share
import BuildingWorkflow.Proofs.Number.Places
import BuildingWorkflow.Proofs.Options.Rereading
import BuildingWorkflow.Proofs.Random.Source
import Mathlib.Data.List.Forall2
import Mathlib.Data.List.GetD

/-!
Reports on clashes.

Whatever numbers are drawn, a report counts its clashes, names each of them for the position of its
element, and shows that element and one of the reference collection. Its distances go up to half of
the tolerance as it is rounded to three places; whether they stay below half of it depends on the
tolerance alone, and the largest fraction tells.
-/
namespace BuildingWorkflow

open Binary64

/-! ## Distances -/

/-- The distance of a clash for which a fraction is drawn. -/
def clashDistance (fraction tolerance : Binary64) : Binary64 :=
  (fraction * tolerance / 2).roundPlaces 3

/-- From zero to half of a tolerance, the half excluded. The distance is doubled, since that is
exact. -/
def BelowHalf (tolerance distance : Binary64) : Prop :=
  atMost 0 distance ∧ (2 * distance).less tolerance

instance (tolerance distance : Binary64) : Decidable (BelowHalf tolerance distance) :=
  inferInstanceAs (Decidable (_ ∧ _))

/-- From zero to half of a tolerance as it is rounded. For an infinite one it may be no number. -/
def UpToHalf (tolerance distance : Binary64) : Prop :=
  atMost 0 distance ∧ distance.atMost ((tolerance / 2).roundPlaces 3) ∨
    tolerance = .infinite false ∧ distance = .nan ""

/-- The units of the distance for so many units of a fraction and of a tolerance. -/
def distanceUnits (part whole : Nat) : Nat :=
  placesUnits 3
    (quotientUnits (quotientUnits (part * whole) unitsPerOne * unitsPerOne) (2 * unitsPerOne))

theorem two_units_le : unitsPerOne ≤ 2 * unitsPerOne := Nat.le_mul_of_pos_left _ (by decide)

theorem distanceUnits_mono {part part' : Nat} (le : part ≤ part') (whole : Nat) :
    distanceUnits part whole ≤ distanceUnits part' whole := by
  apply placesUnits_mono
  apply quotientUnits_mono (unitsPerOne_pos.trans_le two_units_le)
  apply Nat.mul_le_mul_right
  exact quotientUnits_mono unitsPerOne_pos (Nat.mul_le_mul_right _ le)

section Finite

variable {fraction : Binary64} {part whole : Nat} (h : Representable whole)

/-- The distance for the whole tolerance is half of it, rounded. -/
theorem amounts_half : ((.finite false whole h / 2 : Binary64).roundPlaces 3).Amounts
    (distanceUnits unitsPerOne whole) := by
  have product := quotientUnits_mul unitsPerOne_pos (Nat.dvd_of_mod_eq_zero h.2)
  rw [distanceUnits, Nat.mul_comm unitsPerOne, product, two_eq]
  exact ((amounts_finite h).div _ two_units_le).roundPlaces 3

variable (amounts : fraction.Amounts part) (below : part ≤ unitsPerOne)

include amounts below

theorem amounts_clashDistance :
    (clashDistance fraction (.finite false whole h)).Amounts (distanceUnits part whole) := by
  rw [clashDistance, two_eq]
  exact ((amounts.mul_finite below h).div _ two_units_le).roundPlaces 3

theorem belowHalf_finite_iff :
    BelowHalf (.finite false whole h) (clashDistance fraction (.finite false whole h)) ↔
      2 * distanceUnits part whole < whole := by
  have distance := amounts_clashDistance h amounts below
  exact (and_iff_right distance.atMost_zero).trans (distance.two_mul_less h)

theorem upToHalf_finite :
    UpToHalf (.finite false whole h) (clashDistance fraction (.finite false whole h)) := by
  have distance := amounts_clashDistance h amounts below
  exact .inl ⟨distance.atMost_zero,
    distance.atMost (amounts_half h) (distanceUnits_mono below whole)⟩

end Finite

/-- A tolerance above zero is infinite, or a number of units. -/
theorem cases_of_positive {tolerance : Binary64} (positive : less 0 tolerance) :
    tolerance = .infinite false ∨ ∃ units h, tolerance = .finite false units h := by
  rw [zero_eq] at positive
  cases tolerance with
  | nan label => cases positive
  | infinite negative =>
      cases negative with
      | true => cases positive
      | false => exact .inl rfl
  | finite negative units h =>
      cases negative with
      | true =>
          have below : (0 : Int) < -units := by simpa [less, signedUnits] using positive
          omega
      | false => exact .inr ⟨units, h, rfl⟩

section Distances

variable {fraction tolerance : Binary64} (positive : less 0 tolerance)
  (drawn : fraction.IsFraction)

include positive drawn

theorem upToHalf_clashDistance : UpToHalf tolerance (clashDistance fraction tolerance) := by
  obtain ⟨part, amounts, small⟩ := drawn.exists_amounts
  obtain rfl | ⟨whole, h, rfl⟩ := cases_of_positive positive
  · -- Of an infinite tolerance the fraction zero is no number, and all others are infinite.
    obtain ⟨negative, h, rfl, unsigned⟩ := amounts
    obtain rfl | nonzero := eq_or_ne part 0
    · exact .inr ⟨rfl, rfl⟩
    · have positive : negative = false := Bool.eq_false_of_not_eq_true (nonzero ∘ unsigned)
      have product : (.finite negative part h * .infinite false : Binary64) = .infinite false := by
        rw [positive]
        exact if_neg nonzero
      rw [clashDistance, product]
      exact .inl (by decide +kernel)
  · exact upToHalf_finite h amounts (small.trans largest_le_unitsPerOne)

theorem belowHalf_of_largest
    (largest : BelowHalf tolerance (clashDistance largestFraction tolerance)) :
    BelowHalf tolerance (clashDistance fraction tolerance) := by
  obtain ⟨part, amounts, small⟩ := drawn.exists_amounts
  obtain rfl | ⟨whole, h, rfl⟩ := cases_of_positive positive
  · -- An infinite tolerance makes the largest distance infinite, which is not below its half.
    exact absurd largest (by decide +kernel)
  · have most := (belowHalf_finite_iff h (amounts_finite _) largest_le_unitsPerOne).mp largest
    apply (belowHalf_finite_iff h amounts (small.trans largest_le_unitsPerOne)).mpr
    have := distanceUnits_mono small whole
    omega

end Distances

/-! ## Sampling -/

/-- What is sampled of elements from a position on. Each of them is passed over, or it clashes with
a reference at a distance that was drawn. -/
inductive Samples (references : List Element) (tolerance : Binary64) :
    Nat → List Element → List Clash → Prop
  | nil {position : Nat} : Samples references tolerance position [] []
  | passed {position : Nat} {e : Element} {rest : List Element} {clashes : List Clash}
      (next : Samples references tolerance (position + 1) rest clashes) :
      Samples references tolerance position (e :: rest) clashes
  | met {position : Nat} {e : Element} {c : Clash} {rest : List Element} {clashes : List Clash}
      (place : c.position = position) (own : c.element = e) (partner : c.partner ∈ references)
      (drawn : ∃ fraction : Binary64, fraction.IsFraction ∧
        c.distance = clashDistance fraction tolerance)
      (next : Samples references tolerance (position + 1) rest clashes) :
      Samples references tolerance position (e :: rest) (c :: clashes)

section Sampling

variable {σ : Type} {source : RandomSource σ} {tolerance : Binary64} {first : Element}
  {others : List Element}

theorem samples_sampleClashes (inRange : source.InRange) (position : Nat) (elements : List Element)
    (s : σ) : Samples (first :: others) tolerance position elements
      (sampleClashes source tolerance first others position elements s) := by
  induction elements generalizing position s with
  | nil => exact .nil
  | cons e rest ih =>
      unfold sampleClashes
      dsimp only
      split
      · refine .met rfl rfl ?_ ?_ (ih _ _)
        · have small := inRange.index s (Nat.succ_pos others.length)
          rw [List.getD_eq_getElem _ _ small]
          exact List.getElem_mem small
        · exact ⟨_, inRange.fraction _, rfl⟩
      · exact .passed (ih _ _)

namespace Samples

variable {references elements : List Element} {clashes : List Clash} {position : Nat}
  (samples : Samples references tolerance position elements clashes)

include samples

theorem length_le : clashes.length ≤ elements.length := by
  induction samples with
  | nil => exact le_rfl
  | passed _ ih => exact ih.trans (Nat.le_succ _)
  | met _ _ _ _ _ ih => exact Nat.succ_le_succ ih

theorem exists_place {c : Clash} (member : c ∈ clashes) :
    ∃ i, c.position = position + i ∧ elements[i]? = some c.element := by
  induction samples with
  | nil => cases member
  | passed _ ih =>
      obtain ⟨i, place, own⟩ := ih member
      exact ⟨i + 1, by omega, own⟩
  | met place own _ _ _ ih =>
      obtain rfl | later := List.mem_cons.mp member
      · exact ⟨0, place, congrArg some own.symm⟩
      · obtain ⟨i, place, own⟩ := ih later
        exact ⟨i + 1, by omega, own⟩

theorem exists_drawn {c : Clash} (member : c ∈ clashes) : c.partner ∈ references ∧
    ∃ fraction : Binary64, fraction.IsFraction ∧ c.distance = clashDistance fraction tolerance := by
  induction samples with
  | nil => cases member
  | passed _ ih => exact ih member
  | met _ _ partner drawn _ ih =>
      obtain rfl | later := List.mem_cons.mp member
      · exact ⟨partner, drawn⟩
      · exact ih later

/-- The positions go up: what is sampled later comes from further on. -/
theorem increasing : (clashes.map Clash.position).Pairwise (· < ·) := by
  induction samples with
  | nil => exact .nil
  | passed _ ih => exact ih
  | met place _ _ _ next ih =>
      refine List.pairwise_cons.mpr ⟨fun later listed => ?_, ih⟩
      obtain ⟨c, member, rfl⟩ := List.mem_map.mp listed
      obtain ⟨i, further, -⟩ := next.exists_place member
      omega

end Samples

end Sampling

/-! ## Reports -/

/-- An entry shows the element at a position and one of the references, with a distance. -/
def ShowsClash (elements references : List Element) (Distance : Binary64 → Prop) (position : Nat)
    (entry : Value) : Prop :=
  ∃ element partner distance point, elements[position]? = some element ∧ partner ∈ references ∧
    Distance distance ∧ entry = .map [("id", .text s!"clash-{position}"),
      ("element1", element.summary), ("element2", partner.summary),
      ("distance", .float distance), ("point", point)]

/-- A report that counts its clashes, at most one for each of the first twenty elements, and shows
each one under a position that is further on than that of the clash before it. -/
def WellReported (elements references : List Element) (Distance : Binary64 → Prop)
    (report : Findings) : Prop :=
  ∃ (positions : List Nat) (entries : List Value),
    report.lookup "clashes" = some (.list entries) ∧
    report.lookup "clashCount" = some (.int entries.length) ∧
    entries.length ≤ min 20 elements.length ∧
    positions.Pairwise (· < ·) ∧
    List.Forall₂ (ShowsClash elements references Distance) positions entries

theorem ShowsClash.distance {elements references : List Element} {Distance : Binary64 → Prop}
    {position : Nat} {c : Clash}
    (shows : ShowsClash elements references Distance position c.value) : Distance c.distance := by
  obtain ⟨element, partner, distance, point, -, -, reaches, same⟩ := shows
  simp only [Clash.value, Value.map.injEq, List.cons.injEq, Prod.mk.injEq, Value.float.injEq,
    true_and] at same
  obtain ⟨-, -, -, rfl, -⟩ := same
  exact reaches

/-- A report is as it should be as soon as its distances are. -/
theorem Samples.wellReported_iff {references elements : List Element} {tolerance : Binary64}
    {clashes : List Clash} {Distance : Binary64 → Prop}
    (samples : Samples references tolerance 0 (elements.take 20) clashes) :
    WellReported elements references Distance (clashReport clashes tolerance) ↔
      ∀ c ∈ clashes, Distance c.distance := by
  constructor
  · rintro ⟨positions, entries, listed, -, -, -, shown⟩
    cases listed
    have reached := (List.forall₂_map_right_iff.mp shown).flip.imp
      fun c position shows => And.intro (ShowsClash.distance shows) trivial
    exact ((List.forall₂_and_left _ _).mp reached).1
  · intro reached
    refine ⟨clashes.map Clash.position, clashes.map Clash.value, rfl, ?_, ?_,
      samples.increasing, ?_⟩
    · rw [List.length_map]
      rfl
    · rw [List.length_map, ← List.length_take]
      exact samples.length_le
    · rw [List.forall₂_map_left_iff, List.forall₂_map_right_iff, List.forall₂_same]
      intro c member
      obtain ⟨i, place, own⟩ := samples.exists_place member
      obtain ⟨partner, -⟩ := samples.exists_drawn member
      rw [Nat.zero_add] at place
      rw [← place, List.getElem?_take] at own
      obtain ⟨-, own⟩ := Option.ite_none_right_eq_some.mp own
      exact ⟨c.element, c.partner, c.distance, _, own, partner, reached c member, rfl⟩

section Reports

variable {σ : Type} {source : RandomSource σ} {elements : List Element} {tolerance : Binary64}

theorem samples_findClashes (inRange : source.InRange) (s : σ) (tolerance : Binary64)
    (elements : List Element) (first : Element) (others : List Element) :
    Samples (first :: others) tolerance 0 (elements.take 20)
      (findClashes source s tolerance elements first others) :=
  samples_sampleClashes inRange 0 _ s

/-- What holds of all distances that can be drawn holds of those that are reported. -/
theorem wellReported_of_drawn {Distance : Binary64 → Prop}
    (all : ∀ fraction : Binary64, fraction.IsFraction → Distance (clashDistance fraction tolerance))
    (inRange : source.InRange) (s : σ) (first : Element) (others : List Element) :
    WellReported elements (first :: others) Distance
      (clashReport (findClashes source s tolerance elements first others) tolerance) := by
  have samples := samples_findClashes inRange s tolerance elements first others
  refine samples.wellReported_iff.mpr fun c member => ?_
  obtain ⟨-, fraction, drawn, distance⟩ := samples.exists_drawn member
  rw [distance]
  exact all fraction drawn

theorem AnalysisOptions.less_tolerance {o : AnalysisOptions} {kind : NodeKind} {raw : Value}
    (taken : NodeOptions.ofValue kind raw = .ok (.analysis o)) : less 0 o.tolerance := by
  obtain ⟨bag, read⟩ := NodeOptions.exists_read_of_ofValue taken
  exact ofInt_zero ▸ NodeOptions.bounded_of_read read

/-- A node that was accepted reports so on clashes, whatever its seed. -/
theorem AnalysisOptions.evaluate_clash {o : AnalysisOptions} {kind : NodeKind} {raw : Value}
    (taken : NodeOptions.ofValue kind raw = .ok (.analysis o)) (clash : o.type = .clash)
    {inputs : Inputs} {main references : Collection} (fed : inputs.main = .ok main)
    (some : main.elements ≠ []) (referred : inputs.collection referenceInlet = .ok references)
    (filled : references.elements ≠ []) :
    ∃ report, o.evaluate inputs =
        .ok (.aggregate (.ofList (("analysisType", .text "clash") :: report)) "") ∧
      WellReported main.elements references.elements (UpToHalf o.tolerance) report := by
  have positive := AnalysisOptions.less_tolerance taken
  obtain ⟨first, others, same⟩ := List.exists_cons_of_ne_nil filled
  have present : main.elements.isEmpty = false := List.isEmpty_eq_false_iff.mpr some
  rw [same]
  refine ⟨_, ?_, wellReported_of_drawn (fun _ => upToHalf_clashDistance positive) inRange_twister
    (Twister.ofSeed (o.seed.getD (seedOf (main.elements ++ first :: others)))) first others⟩
  rw [evaluate, bind_of_eq_ok fed]
  dsimp only
  rw [present, if_neg Bool.false_ne_true, report, clash]
  dsimp only
  rw [bind_of_eq_ok referred, same]
  rfl

/-- A source for which the first element clashes, at the distance for a given fraction. -/
def clashSource (fraction : Binary64) : RandomSource Nat :=
  .ofStream fun n => if n = 0 then 0 else fraction

theorem inRange_clashSource {fraction : Binary64} (drawn : fraction.IsFraction) :
    (clashSource fraction).InRange := by
  apply RandomSource.inRange_ofStream
  intro n
  split
  · decide +kernel
  · exact drawn

theorem exists_first_clash (some : elements ≠ []) (first : Element) (others : List Element)
    (fraction tolerance : Binary64) :
    ∃ c ∈ findClashes (clashSource fraction) 0 tolerance elements first others,
      c.distance = clashDistance fraction tolerance := by
  have small : less 0 clashProbability := by decide +kernel
  obtain ⟨e, rest, rfl⟩ := List.exists_cons_of_ne_nil some
  rw [findClashes, maxClashCandidates, List.take_succ_cons, sampleClashes]
  dsimp only [clashSource, RandomSource.ofStream]
  rw [if_pos rfl, if_pos small]
  exact ⟨_, List.mem_cons_self, rfl⟩

/-- Every distance that can be drawn is reported for some source. -/
theorem drawn_of_wellReported {Distance : Binary64 → Prop} (some : elements ≠ []) {first : Element}
    {others : List Element} (all : ∀ (σ : Type) (source : RandomSource σ) (s : σ), source.InRange →
      WellReported elements (first :: others) Distance
        (clashReport (findClashes source s tolerance elements first others) tolerance))
    {fraction : Binary64} (drawn : fraction.IsFraction) :
    Distance (clashDistance fraction tolerance) := by
  have inRange := inRange_clashSource drawn
  obtain ⟨c, member, distance⟩ := exists_first_clash some first others fraction tolerance
  have samples := samples_findClashes inRange 0 tolerance elements first others
  rw [← distance]
  exact samples.wellReported_iff.mp (all _ _ 0 inRange) c member

/-- A report counts its clashes, names each for the position of its element and shows that element
with one of the references, and its distances go up to half of the tolerance as it is rounded. They
are below half of it for all that may be drawn if and only if that of the largest fraction is. -/
theorem wellReported_clashReport (some : elements ≠ []) (first : Element) (others : List Element)
    (positive : less 0 tolerance) :
    (∀ (σ : Type) (source : RandomSource σ) (s : σ), source.InRange →
      WellReported elements (first :: others) (UpToHalf tolerance)
        (clashReport (findClashes source s tolerance elements first others) tolerance)) ∧
    ((∀ (σ : Type) (source : RandomSource σ) (s : σ), source.InRange →
      WellReported elements (first :: others) (BelowHalf tolerance)
        (clashReport (findClashes source s tolerance elements first others) tolerance)) ↔
      BelowHalf tolerance (clashDistance largestFraction tolerance)) := by
  refine ⟨fun σ source s inRange => ?_, fun all => ?_, fun largest σ source s inRange => ?_⟩
  · exact wellReported_of_drawn (fun _ => upToHalf_clashDistance positive) inRange s first others
  · exact drawn_of_wellReported some all isFraction_largestFraction
  · exact wellReported_of_drawn (fun _ drawn => belowHalf_of_largest positive drawn largest) inRange
      s first others

end Reports

/-- With the usual tolerance the largest fraction makes a distance of five, which is half of it. -/
example : clashDistance largestFraction 10 = 5 ∧ ¬ BelowHalf 10 5 := by decide +kernel

/-- The mantissas that the generator draws from the seed thirteen, after an index. -/
def thirteenthMantissa : Nat → Nat
  | 0 => 2618912457733189
  | 1 => 8192409242206200
  | 2 => 7223815744895072
  | 3 => 8016387154783866
  | 4 => 5872781529716622
  | _ => 0

def thirteenthStream : RandomSource Nat :=
  .ofStream fun n => .ofQuotient false (thirteenthMantissa n * unitsPerOne) (2 ^ 53)

theorem inRange_thirteenthStream : thirteenthStream.InRange := by
  apply RandomSource.inRange_ofStream
  intro n
  apply isFraction_ofQuotient
  unfold thirteenthMantissa
  split <;> decide

/-- What this stream makes of a wall and a column. -/
def thirteenthClashes (tolerance : Binary64) : List Clash :=
  findClashes thirteenthStream 0 tolerance [plainWall] plainColumn []

/-- An eighth, the half of which is rounded down. -/
def eighthTolerance : Binary64 := .ofDecimal false 125 (-3)

theorem wellReported_clashReport_eighth :
    [plainWall] ≠ [] ∧ less 0 eighthTolerance ∧ twister.InRange ∧ thirteenthStream.InRange ∧
      WellReported [plainWall] [plainColumn] (UpToHalf eighthTolerance)
        (clashReport
          (findClashes twister (Twister.ofSeed 13) eighthTolerance [plainWall] plainColumn [])
          eighthTolerance) ∧
      BelowHalf eighthTolerance (clashDistance largestFraction eighthTolerance) ∧
      (thirteenthClashes eighthTolerance).map Clash.distance = [.ofDecimal false 57 (-3)] ∧
      WellReported [plainWall] [plainColumn] (BelowHalf eighthTolerance)
        (clashReport (thirteenthClashes eighthTolerance) eighthTolerance) := by
  have some : [plainWall] ≠ [] := List.cons_ne_nil _ _
  have positive : less 0 eighthTolerance := by decide +kernel
  have largest : BelowHalf eighthTolerance (clashDistance largestFraction eighthTolerance) := by
    decide +kernel
  obtain ⟨up, below⟩ := wellReported_clashReport some plainColumn [] positive
  exact ⟨some, positive, inRange_twister, inRange_thirteenthStream, up _ _ _ inRange_twister,
    largest, by decide +kernel, below.mpr largest _ _ 0 inRange_thirteenthStream⟩

/-- A tolerance the half of which is rounded up. -/
def narrowTolerance : Binary64 := .ofDecimal false 12 (-4)

/-- A distance of 0.001 is reported, where half of the tolerance is 0.0006. -/
theorem clashReport_beyond_half :
    less 0 narrowTolerance ∧ thirteenthStream.InRange ∧
      (thirteenthClashes narrowTolerance).map Clash.distance = [.ofDecimal false 1 (-3)] ∧
      narrowTolerance / 2 = .ofDecimal false 6 (-4) ∧
      ¬ BelowHalf narrowTolerance (.ofDecimal false 1 (-3)) ∧
      ¬ WellReported [plainWall] [plainColumn] (BelowHalf narrowTolerance)
        (clashReport (thirteenthClashes narrowTolerance) narrowTolerance) := by
  have distances : (thirteenthClashes narrowTolerance).map Clash.distance =
      [.ofDecimal false 1 (-3)] := by decide +kernel
  have beyond : ¬ BelowHalf narrowTolerance (.ofDecimal false 1 (-3)) := by decide +kernel
  refine ⟨by decide +kernel, inRange_thirteenthStream, distances, by decide +kernel, beyond, ?_⟩
  intro reported
  have samples : Samples [plainColumn] narrowTolerance 0 ([plainWall].take 20)
      (thirteenthClashes narrowTolerance) := samples_findClashes inRange_thirteenthStream _ _ _ _ _
  have reached := List.forall_mem_map.mpr (samples.wellReported_iff.mp reported)
  rw [distances] at reached
  exact beyond (reached _ List.mem_cons_self)

end BuildingWorkflow
