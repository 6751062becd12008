import Mathlib.Tactic.GCongr
import Mathlib.Tactic.Ring
import RowRecipe.Number.Reading
import RowRecipe.Number.Shortest
import RowRecipe.Proofs.Rounding

/-!
# Decimals that read back as a float

A float is nearest to every number of its interval. The search for its shortest decimal tries a grid
that is finer than half a unit last, so a point of the interval is found; and whatever digits and
exponent spell that number, the float is read from them.

Main statement: `Decimal.nearestDecimal_of_shortest`.
-/
namespace RowRecipe.Decimal

open Binary64 (Parts minExponent RoundsTo IsExponent zpow_of_nonneg zpow_of_neg)

/-- The number that a decimal is. -/
def value (decimal : Decimal) : ℚ :=
  decimal.digits * 10 ^ decimal.exponent

/-! ### The numbers that round to a float -/

/-- The numbers of an interval. -/
structure Interval.Holds (range : Interval) (value : ℚ) : Prop where
  low : range.low * 2 ^ range.exponent ≤ value
  high : value ≤ range.high * 2 ^ range.exponent
  inside : range.closed = false →
    range.low * 2 ^ range.exponent < value ∧ value < range.high * 2 ^ range.exponent

/-- The distance, in units, from a float to the least number that rounds to it. -/
def gap (units : Nat) (exponent : Int) : ℚ :=
  if units = 2 ^ 52 ∧ minExponent < exponent then 1 / 4 else 1 / 2

section
variable {units : Nat} {exponent : Int} {value : ℚ}

theorem cast_low (hunits : 0 < units) :
    ((interval units exponent).low : ℚ) = 4 * (units - gap units exponent) := by
  simp only [interval, gap, Nat.pow_eq]
  split_ifs <;> (rw [Nat.cast_sub (by omega), Nat.cast_mul]; norm_num; ring)

theorem holds_interval_iff (hunits : 0 < units) :
    (interval units exponent).Holds value ↔
      units - gap units exponent ≤ value / 2 ^ exponent ∧
      value / 2 ^ exponent ≤ units + 1 / 2 ∧
      (units % 2 = 1 → units - gap units exponent < value / 2 ^ exponent ∧
        value / 2 ^ exponent < units + 1 / 2) := by
  have hpos : (0 : ℚ) < 2 ^ exponent := by positivity
  have hquarter (count : ℚ) : 4 * count * 2 ^ (exponent - 2) = count * 2 ^ exponent := by
    rw [zpow_sub₀ two_ne_zero]
    norm_num
    ring
  have hlow : (interval units exponent).low * (2 : ℚ) ^ (interval units exponent).exponent =
      (units - gap units exponent) * 2 ^ exponent := by
    rw [cast_low hunits]
    exact hquarter _
  have hhigh : (interval units exponent).high * (2 : ℚ) ^ (interval units exponent).exponent =
      (units + 1 / 2) * 2 ^ exponent := by
    rw [← hquarter]
    simp only [interval]
    push_cast
    ring
  have hclosed : (interval units exponent).closed = false ↔ units % 2 = 1 := by
    simp [interval]
  rw [le_div_iff₀ hpos, div_le_iff₀ hpos, lt_div_iff₀ hpos, div_lt_iff₀ hpos, ← hlow, ← hhigh,
    ← hclosed]
  exact ⟨fun h => ⟨h.low, h.high, h.inside⟩, fun h => ⟨h.1, h.2.1, h.2.2⟩⟩

theorem gap_le (units : Nat) (exponent : Int) : gap units exponent ≤ 1 / 2 := by
  unfold gap
  split_ifs <;> norm_num

theorem roundsTo_of_holds (hunits : 0 < units) (h : (interval units exponent).Holds value) :
    RoundsTo (value / 2 ^ exponent) units := by
  obtain ⟨hlow, hhigh, hinside⟩ := (holds_interval_iff hunits).mp h
  have hgap := gap_le units exponent
  refine ⟨by linarith, hhigh, ?_⟩
  intro hend
  by_contra hodd
  obtain ⟨hlow, hhigh⟩ := hinside (Nat.mod_two_ne_zero.mp hodd)
  obtain hend | hend := hend <;> linarith

end

theorem isExponent_of_units {exponent : Int} {value : ℚ} (hle : minExponent ≤ exponent)
    (hmost : value / 2 ^ exponent < 2 ^ 53)
    (hleast : exponent = minExponent ∨ 2 ^ 52 ≤ value / 2 ^ exponent) :
    IsExponent value exponent := by
  have hpower : (0 : ℚ) < 2 ^ exponent := by positivity
  rw [div_lt_iff₀ hpower] at hmost
  rw [le_div_iff₀ hpower] at hleast
  refine ⟨hle, ?_, hleast.imp id ?_⟩
  · rwa [zpow_add₀ two_ne_zero, mul_comm]
  · intro hleast
    rwa [zpow_add₀ two_ne_zero, mul_comm]

/-- The exponent and the units of a number that rounds to a float make the bits of the float. Just
below a power of two the exponent is one less, and there are twice as many units. -/
theorem bits_of_holds {parts : Parts} (hfits : parts.Fits) (hunits : 0 < parts.units) {value : ℚ}
    (h : (interval parts.units parts.exponent).Holds value) {exponent : Int} {units : Nat}
    (hexponent : IsExponent value exponent) (hround : RoundsTo (value / 2 ^ exponent) units) :
    (exponent - minExponent).toNat * 2 ^ 52 + units = parts.bits := by
  obtain ⟨hlow, hhigh, -⟩ := (holds_interval_iff hunits).mp h
  have hle := hfits.le_exponent
  by_cases hfull : parts.exponent = minExponent ∨ 2 ^ 52 ≤ value / 2 ^ parts.exponent
  · have hmost : value / 2 ^ parts.exponent < 2 ^ 53 := by
      have hunits : (parts.units : ℚ) + 1 ≤ 2 ^ 53 := by exact_mod_cast hfits.units_lt
      linarith
    obtain rfl := hexponent.unique (isExponent_of_units hle hmost hfull)
    obtain rfl := hround.unique (roundsTo_of_holds hunits h)
    rfl
  · -- The number lies below the power of two that the float is.
    obtain ⟨hmin, hless⟩ := not_or.mp hfull
    rw [not_le] at hless
    have hpower : parts.units = 2 ^ 52 := by
      have hgap := gap_le parts.units parts.exponent
      have hmost : (parts.units : ℚ) < 2 ^ 52 + 1 := by linarith
      exact le_antisymm (Nat.lt_succ_iff.mp (by exact_mod_cast hmost))
        (hfits.full.resolve_left hmin)
    have hquarter : gap parts.units parts.exponent = 1 / 4 :=
      if_pos ⟨hpower, lt_of_le_of_ne hle (Ne.symm hmin)⟩
    rw [hquarter, hpower] at hlow
    push_cast at hlow
    have hdouble : value / 2 ^ (parts.exponent - 1) = 2 * (value / 2 ^ parts.exponent) := by
      rw [zpow_sub₀ two_ne_zero, zpow_one, div_div_eq_mul_div, mul_comm, mul_div_assoc]
    obtain rfl : exponent = parts.exponent - 1 := by
      refine hexponent.unique (isExponent_of_units (by omega) ?_ (.inr ?_)) <;> rw [hdouble]
      · linarith
      · linarith
    obtain rfl : units = 2 ^ 53 := by
      refine hround.unique ⟨?_, ?_, fun _ => by decide⟩ <;> rw [hdouble]
      · push_cast
        linarith
      · push_cast
        linarith
    rw [Parts.bits, hpower]
    omega

/-- The bits of a float are nearest to each number that rounds to it. -/
theorem nearestBits_of_holds {parts : Parts} (hfits : parts.Fits) (hunits : 0 < parts.units)
    {num den : Nat} (hden : 0 < den)
    (h : (interval parts.units parts.exponent).Holds (num / den)) :
    Binary64.nearestBits num den = parts.bits := by
  have hnum : num ≠ 0 := by
    rintro rfl
    have hbelow := (roundsTo_of_holds hunits h).below
    rw [Nat.cast_zero, zero_div, zero_div] at hbelow
    have hone : (1 : ℚ) ≤ parts.units := by exact_mod_cast hunits
    linarith
  have hbits := bits_of_holds hfits hunits h
    (Binary64.isExponent_exponentOf (Nat.pos_of_ne_zero hnum) hden)
    (Binary64.roundsTo_unitsOf num hden _)
  have hmost : parts.bits ≤ Binary64.infinityBits := by
    have hexponent := hfits.exponent_le
    have hunits := hfits.units_lt
    simp only [Parts.bits, Binary64.infinityBits, minExponent, Nat.pow_eq]
    omega
  rw [Binary64.nearestBits, if_neg hnum]
  simp only [Nat.pow_eq] at hbits ⊢
  rw [hbits, min_eq_left hmost]

/-- A float is nearest to each number that rounds to it. -/
theorem nearest_of_holds {x : Float} {parts : Parts} (hx : Binary64.parts? x = some parts)
    (hunits : 0 < parts.units) {num den : Nat} (hden : 0 < den)
    (h : (interval parts.units parts.exponent).Holds (num / den)) :
    Binary64.nearest parts.negative num den = x :=
  Binary64.nearest_eq_of_bits hx
    (nearestBits_of_holds (Binary64.fits_of_parts? hx) hunits hden h)

/-! ### The search -/

section
variable {range : Interval} {grid : Int} {tie : Tie}

theorem zpow_mul_pow_neg {base : ℚ} (hbase : base ≠ 0) (n : ℤ) :
    base ^ n * base ^ (-n).toNat = base ^ n.toNat := by
  by_cases hsign : 0 ≤ n
  · rw [Int.toNat_of_nonpos (show -n ≤ 0 by omega), pow_zero, mul_one, zpow_of_nonneg base hsign]
  · rw [Int.toNat_of_nonpos (show n ≤ 0 by omega), pow_zero, zpow_of_neg base hsign,
      inv_mul_cancel₀ (pow_ne_zero _ hbase)]

/-- What both sides of a comparison are multiplied by. -/
def Interval.factor (range : Interval) (grid : Int) : ℚ :=
  2 ^ (-range.exponent).toNat * 10 ^ (-grid).toNat

theorem Interval.factor_pos (range : Interval) (grid : Int) : 0 < range.factor grid := by
  unfold factor
  positivity

theorem cast_scaled (quarters : Nat) :
    (range.scaled quarters grid : ℚ) = quarters * 2 ^ range.exponent * range.factor grid := by
  unfold Interval.scaled Interval.factor
  simp only [Nat.pow_eq]
  push_cast
  rw [← zpow_mul_pow_neg two_ne_zero]
  ring

theorem cast_step (steps : Nat) :
    ((steps * range.step grid : ℕ) : ℚ) = steps * 10 ^ grid * range.factor grid := by
  unfold Interval.step Interval.factor
  simp only [Nat.pow_eq]
  push_cast
  rw [← zpow_mul_pow_neg (by norm_num : (10 : ℚ) ≠ 0)]
  ring

theorem scaled_le_iff (quarters steps : Nat) :
    range.scaled quarters grid ≤ steps * range.step grid ↔
      quarters * (2 : ℚ) ^ range.exponent ≤ steps * 10 ^ grid := by
  rw [← mul_le_mul_iff_left₀ (range.factor_pos grid), ← cast_scaled, ← cast_step, Nat.cast_le]

theorem le_scaled_iff (quarters steps : Nat) :
    steps * range.step grid ≤ range.scaled quarters grid ↔
      steps * (10 : ℚ) ^ grid ≤ quarters * 2 ^ range.exponent := by
  rw [← mul_le_mul_iff_left₀ (range.factor_pos grid), ← cast_scaled, ← cast_step, Nat.cast_le]

theorem contains_iff (steps : Nat) :
    range.contains grid steps = true ↔ range.Holds (steps * 10 ^ grid) := by
  unfold Interval.contains
  simp only
  split_ifs with hclosed
  · rw [Bool.and_eq_true, decide_eq_true_iff, decide_eq_true_iff, scaled_le_iff, le_scaled_iff]
    exact ⟨fun h => ⟨h.1, h.2, fun hopen => absurd hopen (by simp [hclosed])⟩,
      fun h => ⟨h.low, h.high⟩⟩
  · rw [Bool.and_eq_true, decide_eq_true_iff, decide_eq_true_iff, ← Nat.not_le, ← Nat.not_le,
      le_scaled_iff, scaled_le_iff, not_le, not_le]
    exact ⟨fun h => ⟨h.1.le, h.2.le, fun _ => h⟩, fun h => h.inside (by simpa using hclosed)⟩

/-- A point of a grid that is found lies in the interval. -/
theorem holds_of_nearestPoint? {digits : Nat}
    (h : range.nearestPoint? tie grid = some digits) : range.Holds (digits * 10 ^ grid) := by
  rw [← contains_iff]
  unfold Interval.nearestPoint? at h
  simp only at h
  generalize range.scaled range.value grid / range.step grid = below at h
  split at h
  · next hbelow habove =>
    have hbelow := (Bool.and_eq_true_iff.mp hbelow).1
    split_ifs at h
    · cases h
      exact hbelow
    · cases h
      exact habove
    · cases tie with
      | even =>
        cases h
        obtain heven | hodd := Nat.mod_two_eq_zero_or_one below
        · rwa [heven]
        · rwa [hodd]
      | away =>
        cases h
        exact habove
  · next hbelow _ =>
    cases h
    exact (Bool.and_eq_true_iff.mp hbelow).1
  · next habove =>
    cases h
    exact habove
  · cases h

/-- A grid finer than what is above a value has a point there. -/
theorem exists_nearestPoint? (hlow : range.low ≤ range.value)
    (hfine : (10 : ℚ) ^ grid < (range.high - range.value) * 2 ^ range.exponent) :
    ∃ digits, range.nearestPoint? tie grid = some digits := by
  have hstep : 0 < range.step grid := by
    unfold Interval.step
    simp only [Nat.pow_eq]
    positivity
  have habove :
      range.contains grid (range.scaled range.value grid / range.step grid + 1) = true := by
    have hpower : (0 : ℚ) < 2 ^ range.exponent := by positivity
    generalize hbelow : range.scaled range.value grid / range.step grid = below
    have hvalue : range.value * (2 : ℚ) ^ range.exponent < (below + 1 : ℕ) * 10 ^ grid := by
      rw [← not_le, ← le_scaled_iff, Nat.not_le, ← hbelow]
      exact (Nat.div_lt_iff_lt_mul hstep).mp (Nat.lt_succ_self _)
    have hnext : (below : ℚ) * 10 ^ grid ≤ range.value * (2 : ℚ) ^ range.exponent := by
      rw [← le_scaled_iff, ← hbelow]
      exact Nat.div_mul_le_self _ _
    have hlow : range.low * (2 : ℚ) ^ range.exponent ≤ range.value * 2 ^ range.exponent :=
      mul_le_mul_of_nonneg_right (by exact_mod_cast hlow) hpower.le
    have hhigh : ((below + 1 : ℕ) : ℚ) * 10 ^ grid < range.high * (2 : ℚ) ^ range.exponent := by
      push_cast
      linarith
    rw [contains_iff]
    exact ⟨(hlow.trans_lt hvalue).le, hhigh.le, fun _ => ⟨hlow.trans_lt hvalue, hhigh⟩⟩
  unfold Interval.nearestPoint?
  simp only [habove]
  split
  · split_ifs
    · exact ⟨_, rfl⟩
    · exact ⟨_, rfl⟩
    · cases tie <;> exact ⟨_, rfl⟩
  · next h => cases h
  · exact ⟨_, rfl⟩
  · next h => cases h

/-- A search whose last grid has a point in the interval ends with a point in it. -/
theorem holds_search (tries : Nat) (grid : Int)
    (h : ∃ digits, range.nearestPoint? tie (grid - tries) = some digits) :
    range.Holds (range.search tie (tries + 1) grid).value := by
  induction tries generalizing grid with
  | zero =>
    obtain ⟨digits, hdigits⟩ := h
    rw [Nat.cast_zero, sub_zero] at hdigits
    simp only [Interval.search, hdigits]
    exact holds_of_nearestPoint? hdigits
  | succ tries ih =>
    rw [Interval.search]
    split
    · next digits hdigits => exact holds_of_nearestPoint? hdigits
    · refine ih (grid - 1) ?_
      rwa [sub_sub, add_comm, ← Nat.cast_add_one]

end

/-- A power of ten that is small against a power of two, told by their exponents: two to the tenth
is more than ten to the third, and two to the thirty-third less than ten to the tenth. -/
theorem ten_zpow_lt {grid exponent : Int} (hmost : exponent < 4000) (hleast : -2000 < exponent)
    (h : 100000 * grid ≤ 30103 * exponent - 500000) : (10 : ℚ) ^ grid < 2 ^ (exponent - 1) := by
  obtain hsign | hsign := le_total 0 grid
  · obtain ⟨n, rfl⟩ := Int.eq_ofNat_of_zero_le hsign
    obtain ⟨m, hm⟩ := Int.eq_ofNat_of_zero_le (show 0 ≤ exponent - 1 by omega)
    rw [hm, zpow_natCast, zpow_natCast]
    refine lt_of_pow_lt_pow_left₀ 3 (by positivity) ?_
    calc ((10 : ℚ) ^ n) ^ 3 = 1000 ^ n := by rw [pow_right_comm]; norm_num
      _ ≤ 1024 ^ n := by gcongr; norm_num
      _ = 2 ^ (10 * n) := by rw [pow_mul]; norm_num
      _ < 2 ^ (m * 3) := pow_lt_pow_right₀ one_lt_two (by omega)
      _ = (2 ^ m) ^ 3 := pow_mul 2 m 3
  · obtain ⟨n, hn⟩ := Int.eq_ofNat_of_zero_le (show 0 ≤ -grid by omega)
    rw [← neg_neg grid, hn, zpow_neg, zpow_natCast, inv_lt_iff_one_lt_mul₀ (by positivity)]
    refine lt_of_pow_lt_pow_left₀ 10 (by positivity) ?_
    calc (1 : ℚ) ^ 10 = 1 := one_pow 10
      _ < 2 ^ (33 * (n : ℤ) + (exponent - 1) * 10) := one_lt_zpow₀ one_lt_two (by omega)
      _ = (2 ^ 33) ^ n * (2 ^ (exponent - 1)) ^ 10 := by
        rw [zpow_add₀ two_ne_zero, zpow_mul, zpow_mul]
        rfl
      _ ≤ (10 ^ 10) ^ n * (2 ^ (exponent - 1)) ^ 10 := by gcongr; norm_num
      _ = (2 ^ (exponent - 1) * 10 ^ n) ^ 10 := by rw [mul_pow, pow_right_comm, mul_comm]

/-- The shortest decimal of a float rounds to it: the last grid that is tried is finer than half a
unit. -/
theorem holds_shortest {parts : Parts} (hfits : parts.Fits) (hunits : 0 < parts.units)
    (tie : Tie) :
    (interval parts.units parts.exponent).Holds
      (shortest tie parts.units parts.exponent).value := by
  refine holds_search 23 _ (exists_nearestPoint? ?_ ?_)
  · simp only [interval]
    split_ifs <;> omega
  · have hhalf : (((interval parts.units parts.exponent).high : ℚ) -
        (interval parts.units parts.exponent).value) *
          2 ^ (interval parts.units parts.exponent).exponent = 2 ^ (parts.exponent - 1) := by
      simp only [interval]
      push_cast
      rw [add_sub_cancel_left, show parts.exponent - 2 = parts.exponent - 1 - 1 from by ring,
        zpow_sub_one₀ two_ne_zero]
      ring
    have hlog : parts.units.log2 < 53 := (Nat.log2_lt hunits.ne').mpr hfits.units_lt
    have hle := hfits.le_exponent
    have hmost := hfits.exponent_le
    rw [hhalf]
    simp only [minExponent] at hle
    exact ten_zpow_lt (by omega) (by omega) (by omega)

/-! ### Reading a decimal -/

section
variable {digits : Nat} {exponent : Int}

/-- The digits before the point of a decimal, or the zeros behind it, tell its size. -/
theorem ten_zpow_decimalLength (exponent : Int) (hdigits : digits ≠ 0) :
    (10 : ℚ) ^ (exponent + decimalLength digits - 1) ≤ digits * 10 ^ exponent ∧
      (digits : ℚ) * 10 ^ exponent < 10 ^ (exponent + decimalLength digits) := by
  have hten : (10 : ℚ) ≠ 0 := by norm_num
  have hpower : (0 : ℚ) < 10 ^ exponent := by positivity
  have hlength : 0 < decimalLength digits := Nat.length_toDigits_pos
  obtain ⟨count, hcount⟩ := Nat.exists_eq_add_one.mpr hlength
  constructor
  · rw [hcount, Nat.cast_add_one, ← add_assoc, add_sub_cancel_right, zpow_add₀ hten, mul_comm,
      zpow_natCast]
    gcongr
    have hle : 10 ^ count ≤ digits := by
      by_contra hlt
      obtain rfl | hpos := Nat.eq_zero_or_pos count
      · rw [pow_zero] at hlt
        omega
      · have hshort := (Nat.length_toDigits_le_iff (by decide) hpos).mpr (not_le.mp hlt)
        exact absurd hcount (by unfold decimalLength; omega)
    exact_mod_cast hle
  · rw [zpow_add₀ hten, mul_comm, zpow_natCast]
    gcongr
    exact_mod_cast (Nat.length_toDigits_le_iff (by decide) hlength).mp le_rfl

/-- The sizes of numbers that round to floats. -/
theorem bounds_of_holds {parts : Parts} (hfits : parts.Fits) (hunits : 0 < parts.units) {value : ℚ}
    (h : (interval parts.units parts.exponent).Holds value) :
    (10 : ℚ) ^ (-324 : ℤ) < value ∧ value < 10 ^ (309 : ℤ) := by
  have hpower : (0 : ℚ) < 2 ^ parts.exponent := by positivity
  have hround := roundsTo_of_holds hunits h
  have hone : (1 : ℚ) ≤ parts.units := by exact_mod_cast hunits
  have hmost : (parts.units : ℚ) + 1 ≤ 2 ^ 53 := by exact_mod_cast hfits.units_lt
  have hlow : 1 / 2 ≤ value / 2 ^ parts.exponent := by linarith [hround.below]
  have hhigh : value / 2 ^ parts.exponent ≤ 2 ^ 53 := by linarith [hround.above]
  rw [le_div_iff₀ hpower] at hlow
  rw [div_le_iff₀ hpower] at hhigh
  constructor
  · have hpowers : 2 * 2 ^ 1074 < 10 ^ 324 := by decide +kernel
    calc (10 : ℚ) ^ (-324 : ℤ) < 1 / 2 * 2 ^ (-1074 : ℤ) := by
          rw [zpow_neg, zpow_neg, one_div, ← mul_inv, inv_lt_inv₀ (by positivity) (by positivity)]
          exact_mod_cast hpowers
      _ ≤ 1 / 2 * 2 ^ parts.exponent := by
        gcongr
        · norm_num
        · exact hfits.le_exponent
      _ ≤ value := hlow
  · have hpowers : 2 ^ 53 * 2 ^ 971 < 10 ^ 309 := by decide +kernel
    calc value ≤ 2 ^ 53 * 2 ^ parts.exponent := hhigh
      _ ≤ 2 ^ 53 * 2 ^ (971 : ℤ) := by
        gcongr
        · norm_num
        · exact hfits.exponent_le
      _ < 10 ^ (309 : ℤ) := by exact_mod_cast hpowers

/-- A float is read from every decimal that rounds to it. -/
theorem nearestDecimal_of_holds {x : Float} {parts : Parts}
    (hx : Binary64.parts? x = some parts) (hunits : 0 < parts.units)
    (h : (interval parts.units parts.exponent).Holds (digits * 10 ^ exponent)) :
    nearestDecimal parts.negative digits exponent = x := by
  have hten : (1 : ℚ) < 10 := by norm_num
  obtain ⟨hlow, hhigh⟩ := bounds_of_holds (Binary64.fits_of_parts? hx) hunits h
  have hdigits : digits ≠ 0 := by
    rintro rfl
    rw [Nat.cast_zero, zero_mul] at hlow
    exact absurd hlow (not_lt.mpr (by positivity))
  obtain ⟨hleast, hmost⟩ := ten_zpow_decimalLength exponent hdigits
  have hlow := (zpow_lt_zpow_iff_right₀ hten).mp (hlow.trans hmost)
  have hhigh := (zpow_lt_zpow_iff_right₀ hten).mp (hleast.trans_lt hhigh)
  unfold nearestDecimal
  simp only
  rw [if_neg (by omega), if_neg (by omega)]
  simp only [Nat.pow_eq]
  split_ifs with hsign
  · rw [zpow_of_nonneg 10 hsign] at h
    refine nearest_of_holds hx hunits one_pos ?_
    rw [Nat.cast_one, div_one]
    exact_mod_cast h
  · rw [zpow_of_neg 10 hsign, ← div_eq_mul_inv] at h
    refine nearest_of_holds hx hunits (by positivity) ?_
    exact_mod_cast h

/-- A float is read from whatever spells its shortest decimal. -/
theorem nearestDecimal_of_shortest {x : Float} {parts : Parts}
    (hx : Binary64.parts? x = some parts) (hunits : 0 < parts.units) {tie : Tie}
    (hvalue : digits * 10 ^ exponent = (shortest tie parts.units parts.exponent).value) :
    nearestDecimal parts.negative digits exponent = x := by
  refine nearestDecimal_of_holds hx hunits ?_
  rw [hvalue]
  exact holds_shortest (Binary64.fits_of_parts? hx) hunits tie

theorem nearestDecimal_zero {x : Float} {parts : Parts} (hx : Binary64.parts? x = some parts)
    (hunits : parts.units = 0) (exponent : Int) :
    nearestDecimal parts.negative 0 exponent = x := by
  have hexponent : parts.exponent = minExponent :=
    (Binary64.fits_of_parts? hx).full.resolve_right (by rw [hunits]; decide)
  have hbits : parts.bits = 0 := by
    rw [Parts.bits, hexponent, hunits, sub_self]
    rfl
  rw [nearestDecimal, if_pos (.inl rfl)]
  exact Binary64.nearest_eq_of_bits hx (by rw [hbits]; rfl)

theorem digits_shortest_ne_zero {parts : Parts} (hfits : parts.Fits) (hunits : 0 < parts.units)
    (tie : Tie) : (shortest tie parts.units parts.exponent).digits ≠ 0 := by
  intro hzero
  obtain ⟨hlow, -⟩ := bounds_of_holds hfits hunits (holds_shortest hfits hunits tie)
  rw [value, hzero, Nat.cast_zero, zero_mul] at hlow
  exact absurd hlow (not_lt.mpr (by positivity))

end

end RowRecipe.Decimal
