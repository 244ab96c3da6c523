import BuildingWorkflow.Node.Spatial
import BuildingWorkflow.Proofs.Number.Amount

/-!
Whole parts of shares in tenths.

The double nearest to a number of tenths lies a little above them or below. The product with a whole
number is rounded once more, and as a rule this makes up for what was missing: where tenths of a
number are whole, the product is rounded to them. Seven tenths are the exception, since their double
lies furthest below.
-/
namespace BuildingWorkflow

/-! ## Tenths in grains -/

/-- The common part of the units of one and of the doubles nearest to tenths. -/
def grain : Nat := Nat.pow 2 1018

theorem exists_grain_eq : ∃ k, 1018 = k ∧ grain = 2 ^ k := ⟨_, rfl, by decide +kernel⟩

theorem unitsPerOne_eq_grains : unitsPerOne = 2 ^ 56 * grain := by decide +kernel

/-- Numbers of tenths, and the grains of the doubles nearest to them. -/
def tenthsInGrains : List (Nat × Nat) :=
  [(2, 14411518807585588), (3, 21617278211378380), (4, 28823037615171176),
    (5, 36028797018963968), (6, 43234556422756760), (7, 50440315826549552),
    (8, 57646075230342352)]

theorem tenths_eq : ∀ part ∈ tenthsInGrains,
    ∃ h, tenths part.1 = .finite false (part.2 * grain) h := by
  decide +kernel

theorem grains_bounds : ∀ part ∈ tenthsInGrains, 2 ^ 53 ≤ part.2 ∧ part.2 < 2 ^ 56 := by decide

/-! ## Products -/

section Product

variable {n grains : Nat} (few : n < 2 ^ 50) (low : 2 ^ 53 ≤ grains) (high : grains < 2 ^ 56)

include few

include high

theorem mul_grains_lt : n * grains < 2 ^ 106 :=
  calc n * grains < 2 ^ 50 * 2 ^ 56 := Nat.mul_lt_mul'' few high
    _ = 2 ^ 106 := by rw [← pow_add]

theorem spacing_mul_grains_dvd : spacing (n * grains) ∣ 2 ^ 53 := by
  have magnitude := log2_lt_of_lt_pow (mul_grains_lt few high) (by decide)
  exact Nat.pow_dvd_pow 2 (by omega)

include low

/-- Rounding takes place among the grains, of which `2 ^ 56` make one. -/
theorem roundUnits_mul_grain : roundUnits (n * grains * grain) / unitsPerOne =
    (2 * (n * grains) + spacing (n * grains)) / 2 ^ 57 := by
  obtain rfl | pos := Nat.eq_zero_or_pos n
  · rw [Nat.zero_mul, Nat.zero_mul, roundUnits_of_dvd (Nat.dvd_zero _), Nat.zero_div]
    rfl
  obtain ⟨k, -, power⟩ := exists_grain_eq
  have many : 2 ^ 52 ≤ n * grains := by
    have := Nat.mul_le_mul pos low
    omega
  have spread : spacing (n * grains * grain) = spacing (n * grains) * grain := by
    rw [power, spacing_mul_pow many]
  have filled : 0 < grain := by
    rw [power]
    exact Nat.two_pow_pos k
  have above : 2 * (n * grains * grain) + spacing (n * grains) * grain =
      (2 * (n * grains) + spacing (n * grains)) * grain := by ring
  have below : 2 * (2 ^ 56 * grain) = 2 ^ 57 * grain := by ring
  rw [roundUnits_div_unitsPerOne, spread, unitsPerOne_eq_grains]
  · rw [above, below, Nat.mul_div_mul_right _ _ filled]
  · rw [spread, unitsPerOne_eq_grains, ← Nat.mul_assoc]
    apply Nat.mul_dvd_mul_right
    exact (Nat.mul_dvd_mul_left 2 (spacing_mul_grains_dvd few high)).trans (by decide)

/-- The whole part of a product with a share. -/
theorem wholeFloor_mul (h : Representable (grains * grain)) :
    wholeFloor (Binary64.ofInt n * .finite false (grains * grain) h) =
      .ok ((2 * (n * grains) + spacing (n * grains)) / 2 ^ 57 : Nat) := by
  have part : grains * grain ≤ unitsPerOne := by
    rw [unitsPerOne_eq_grains]
    exact Nat.mul_le_mul_right _ high.le
  rw [(Binary64.amounts_finite h).wholeFloor_ofInt_mul part (few.le.trans (by decide)),
    ← Nat.mul_assoc, roundUnits_mul_grain few low high]

end Product

/-! ## Whole parts -/

/-- Seven tenths of the number are found one too few: the number is `10 * k`, and the first binary
digit of `7 * k` stands for less than `4 * k`. -/
def FallsShort (n : Nat) : Prop := 10 ∣ n ∧ 2 ^ (7 * (n / 10)).log2 < 4 * (n / 10)

instance : DecidablePred FallsShort := fun _ => inferInstanceAs (Decidable (_ ∧ _))

/-- The number of elements that are kept of so many as a number of tenths. -/
def keptTenths (p n : Nat) : Nat := if p = 7 ∧ FallsShort n then n * p / 10 - 1 else n * p / 10

theorem fallsShort_mul_iff (k : Nat) : FallsShort (10 * k) ↔ 2 ^ (7 * k).log2 < 4 * k := by
  rw [FallsShort, Nat.mul_div_cancel_left k (by decide)]
  exact and_iff_right (Nat.dvd_mul_right 10 k)

theorem keptTenths_eq_iff {p n : Nat} : keptTenths p n = n * p / 10 ↔ ¬ (p = 7 ∧ FallsShort n) := by
  rw [keptTenths]
  split
  · next short =>
    obtain ⟨rfl, tens, first⟩ := short
    have digit := Nat.two_pow_pos (7 * (n / 10)).log2
    have apart : n * 7 / 10 - 1 ≠ n * 7 / 10 := by omega
    exact iff_of_false apart (not_not_intro ⟨rfl, tens, first⟩)
  · next enough => exact iff_of_true rfl enough

/-- Where the double of a share lies below it, its error is made up for by the rounding. -/
theorem floor_mul_grains {n p grains : Nat} (few : n < 2 ^ 50) (known : (p, grains) ∈ tenthsInGrains)
    (other : p ≠ 7) : (2 * (n * grains) + spacing (n * grains)) / 2 ^ 57 = n * p / 10 := by
  have steps := Nat.lt_log2_self.trans_le (pow_log2_succ_le (n * grains))
  have fine := Nat.le_of_dvd (by decide)
    (spacing_mul_grains_dvd few (grains_bounds _ known).2)
  generalize spacing (n * grains) = step at *
  simp only [tenthsInGrains, List.mem_cons, Prod.mk.injEq, List.not_mem_nil, or_false] at known
  obtain ⟨rfl, rfl⟩ | ⟨rfl, rfl⟩ | ⟨rfl, rfl⟩ | ⟨rfl, rfl⟩ | ⟨rfl, rfl⟩ | ⟨rfl, rfl⟩ | ⟨rfl, rfl⟩ :=
    known
  all_goals omega

section Seven

variable {n k grains : Nat} (seven : (7, grains) ∈ tenthsInGrains)

include seven

theorem grains_of_seven : grains = 50440315826549552 := by
  simpa [tenthsInGrains] using seven

/-- The steps of seven tenths of a multiple of ten go by the magnitude of what they are. -/
theorem spacing_mul_seven (pos : 0 < k) (few : k < 2 ^ 47) :
    spacing (10 * k * grains) = 2 ^ (7 * k).log2 * 2 ^ 4 := by
  obtain rfl := grains_of_seven seven
  have least := Nat.log2_self_le (n := 7 * k) (by omega)
  have next := Nat.lt_log2_self (n := 7 * k)
  -- A multiple of seven is no power of two, so what the double lacks leaves the magnitude alone.
  have apart : 2 ^ (7 * k).log2 ≠ 7 * k := by
    intro same
    have coprime : Nat.Coprime 7 (2 ^ (7 * k).log2) := Nat.Coprime.pow_right _ (by decide)
    have divides : 7 ∣ 2 ^ (7 * k).log2 := ⟨k, same⟩
    exact absurd (coprime.eq_one_of_dvd divides) (by decide)
  have magnitude : (10 * k * 50440315826549552).log2 = (7 * k).log2 + 56 := by
    rw [Nat.log2_eq_iff (by omega), Nat.add_right_comm, pow_add _ _ 56, pow_add _ (_ + 1) 56]
    omega
  change 2 ^ ((10 * k * 50440315826549552).log2 - 52) = _
  rw [magnitude, ← pow_add]
  congr 1

theorem floor_mul_seven (few : n < 2 ^ 50) :
    (2 * (n * grains) + spacing (n * grains)) / 2 ^ 57 =
      if FallsShort n then n * 7 / 10 - 1 else n * 7 / 10 := by
  have steps := Nat.lt_log2_self.trans_le (pow_log2_succ_le (n * grains))
  have fine := Nat.le_of_dvd (by decide)
    (spacing_mul_grains_dvd few (grains_bounds _ seven).2)
  have spread {k : Nat} := spacing_mul_seven (k := k) seven
  obtain rfl := grains_of_seven seven
  by_cases tens : 10 ∣ n
  · obtain ⟨k, rfl⟩ := tens
    obtain rfl | pos := Nat.eq_zero_or_pos k
    · decide
    · have step := spread pos (by omega)
      have falls := fallsShort_mul_iff k
      generalize spacing (10 * k * 50440315826549552) = step' at *
      split
      · next short =>
        rw [falls] at short
        omega
      · next enough =>
        rw [falls] at enough
        omega
  · have part : n * 7 % 10 ≠ 0 := by omega
    rw [if_neg fun short => tens short.1]
    generalize spacing (n * 50440315826549552) = step at *
    omega

end Seven

/-- The whole part of so many tenths of a number, as doubles find it. -/
theorem wholeFloor_mul_tenths {n p : Nat} (few : n < 2 ^ 50) (low : 2 ≤ p) (high : p ≤ 8) :
    wholeFloor (Binary64.ofInt n * tenths p) = .ok (keptTenths p n : Nat) := by
  have listed : ∀ p ≤ 8, 2 ≤ p → ∃ part ∈ tenthsInGrains, part.1 = p := by decide
  obtain ⟨⟨p, grains⟩, known, rfl⟩ := listed p high low
  obtain ⟨h, share⟩ := tenths_eq _ known
  obtain ⟨least, most⟩ := grains_bounds _ known
  rw [share, wholeFloor_mul few least most h]
  refine congrArg (fun whole : Nat => Except.ok (whole : Int)) ?_
  dsimp only
  by_cases seven : p = 7
  · subst seven
    simp only [floor_mul_seven known few, keptTenths, true_and]
  · rw [floor_mul_grains few known seven, keptTenths, if_neg fun short => seven short.1]

end BuildingWorkflow
