import Mathlib
import RowRecipe.Number.Binary64

/-!
# Floats and rounding

The bits of a finite float are its sign, its exponent and its units, and they give the float back.
A positive number has one exponent at which it has fifty-three binary digits, or it has the smallest
exponent, and at an exponent one number of units is nearest to it; these are the exponent and the
units that `nearestBits` puts together.
-/
namespace RowRecipe.Binary64

/-! ### Bits -/

namespace Parts

/-- The sizes of finite floats: fifty-three binary digits, and fewer only of the smallest unit. -/
structure Fits (parts : Parts) : Prop where
  units_lt : parts.units < 2 ^ 53
  le_exponent : minExponent ≤ parts.exponent
  exponent_le : parts.exponent ≤ 971
  full : parts.exponent = minExponent ∨ 2 ^ 52 ≤ parts.units

/-- The bits of a finite float without that of the sign. -/
def bits (parts : Parts) : Nat :=
  (parts.exponent - minExponent).toNat * 2 ^ 52 + parts.units

end Parts

variable {x : Float} {parts : Parts}

theorem fits_of_parts? (h : parts? x = some parts) : parts.Fits := by
  simp only [parts?, Nat.pow_eq] at h
  split_ifs at h with hinfinite hsmall
  · cases h
    exact ⟨by simp; omega, by simp, by simp [minExponent], .inl rfl⟩
  · cases h
    exact ⟨by simp; omega, by simp [minExponent]; omega, by simp; omega, .inr (by simp)⟩

theorem toNat_toBits (h : parts? x = some parts) :
    x.toBits.toNat = signBit parts.negative + parts.bits := by
  have hlt := x.toBits.toNat_lt
  simp only [parts?, Nat.pow_eq] at h
  split_ifs at h with hinfinite hsmall
  · cases h
    simp only [signBit, Parts.bits, Nat.pow_eq, beq_iff_eq]
    split <;> omega
  · cases h
    simp only [signBit, Parts.bits, Nat.pow_eq, beq_iff_eq, minExponent]
    split <;> omega

theorem nearest_eq_of_bits (h : parts? x = some parts) {num den : Nat}
    (hbits : nearestBits num den = parts.bits) : nearest parts.negative num den = x := by
  rw [nearest, hbits, ← toNat_toBits h, UInt64.ofNat_toNat, Float.ofBits_toBits]

/-! ### Rounding -/

/-- The nearest whole number to a ratio, which is even if the ratio is a half away from it. -/
structure RoundsTo (ratio : ℚ) (n : ℕ) : Prop where
  below : n - 1 / 2 ≤ ratio
  above : ratio ≤ n + 1 / 2
  even : ratio = n - 1 / 2 ∨ ratio = n + 1 / 2 → n % 2 = 0

/-- Rounding keeps the order: numbers that come to stand the other way round would be a half away
from both, and neighbours are not both even. -/
theorem RoundsTo.mono {ratio other : ℚ} {m n : ℕ} (hm : RoundsTo ratio m) (hn : RoundsTo other n)
    (hle : ratio ≤ other) : m ≤ n := by
  by_contra hlt
  have hnext : (n : ℚ) + 1 ≤ m := by exact_mod_cast not_le.mp hlt
  have hbelow := hm.below
  have habove := hn.above
  have hsucc : m = n + 1 := by
    have hle : (m : ℚ) ≤ n + 1 := by linarith
    exact le_antisymm (by exact_mod_cast hle) (by exact_mod_cast hnext)
  have hneven := hn.even (.inr (by linarith))
  have hmeven := hm.even (.inl (by linarith))
  omega

theorem RoundsTo.unique {ratio : ℚ} {m n : ℕ} (hm : RoundsTo ratio m) (hn : RoundsTo ratio n) :
    m = n :=
  le_antisymm (hm.mono hn le_rfl) (hn.mono hm le_rfl)

theorem roundsTo_natCast (n : ℕ) : RoundsTo n n :=
  ⟨by linarith, by linarith, by rintro (h | h) <;> linarith⟩

/-- Rounding a quotient is rounding the ratio: the remainder tells on which side of a half it is. -/
theorem roundsTo_roundDiv (num : Nat) {den : Nat} (hden : 0 < den) :
    RoundsTo (num / den) (roundDiv num den) := by
  have hpos : (0 : ℚ) < den := by exact_mod_cast hden
  have hratio : (num : ℚ) / den = (num / den : ℕ) + (num % den : ℕ) / den := by
    rw [eq_comm, ← eq_sub_iff_add_eq', div_eq_iff hpos.ne', sub_mul, div_mul_cancel₀ _ hpos.ne',
      eq_sub_iff_add_eq']
    exact_mod_cast Nat.div_add_mod' num den
  have hhalf : 2 * (num % den) < den ↔ ((num % den : ℕ) : ℚ) / den < 1 / 2 := by
    rw [div_lt_div_iff₀ hpos two_pos, one_mul, mul_comm]
    exact_mod_cast Iff.rfl
  have hmore : den < 2 * (num % den) ↔ 1 / 2 < ((num % den : ℕ) : ℚ) / den := by
    rw [div_lt_div_iff₀ two_pos hpos, one_mul, mul_comm]
    exact_mod_cast Iff.rfl
  have hnonneg : 0 ≤ ((num % den : ℕ) : ℚ) / den := by positivity
  have hone : ((num % den : ℕ) : ℚ) / den < 1 := by
    rw [div_lt_one hpos]
    exact_mod_cast Nat.mod_lt num hden
  simp only [hratio, roundDiv, hhalf, hmore]
  generalize num / den = quotient at *
  generalize ((num % den : ℕ) : ℚ) / den = rest at *
  have hsucc : ((quotient + 1 : ℕ) : ℚ) = quotient + 1 := Nat.cast_succ quotient
  split_ifs with hlow hhigh
  · exact ⟨by linarith, by linarith, by rintro (h | h) <;> linarith⟩
  · refine ⟨?_, ?_, ?_⟩
    · linarith
    · linarith
    · rintro (h | h) <;> exact absurd h (by linarith)
  · have hrest : rest = 1 / 2 := le_antisymm (not_lt.mp hhigh) (not_lt.mp hlow)
    obtain heven | hodd := Nat.mod_two_eq_zero_or_one quotient
    · rw [heven, Nat.add_zero]
      exact ⟨by linarith, by linarith, fun _ => heven⟩
    · rw [hodd]
      exact ⟨by linarith, by linarith, fun _ => by omega⟩

/-- The exponent at which a number has fifty-three binary digits, or the smallest one. -/
structure IsExponent (value : ℚ) (exponent : ℤ) : Prop where
  le_exponent : minExponent ≤ exponent
  lt_power : value < 2 ^ (exponent + 53)
  full : exponent = minExponent ∨ 2 ^ (exponent + 52) ≤ value

theorem IsExponent.mono {value other : ℚ} {d e : ℤ} (hd : IsExponent value d)
    (he : IsExponent other e) (hle : value ≤ other) : d ≤ e := by
  by_contra hlt
  obtain hmin | hfull := hd.full
  · have hleast := he.le_exponent
    omega
  · have hpower : (2 : ℚ) ^ (e + 53) ≤ 2 ^ (d + 52) := zpow_le_zpow_right₀ one_le_two (by omega)
    exact absurd (he.lt_power.trans_le (hpower.trans hfull)) (not_lt.mpr hle)

theorem IsExponent.unique {value : ℚ} {d e : ℤ} (hd : IsExponent value d)
    (he : IsExponent value e) : d = e :=
  le_antisymm (hd.mono he le_rfl) (he.mono hd le_rfl)

/-! ### Powers

An exponent that is not negative is told apart, since the ratios and the powers of the algorithms
are made of natural numbers. -/

theorem zpow_of_nonneg (base : ℚ) {n : ℤ} (h : 0 ≤ n) : base ^ n = base ^ n.toNat := by
  rw [← zpow_natCast, Int.toNat_of_nonneg h]

theorem zpow_of_neg (base : ℚ) {n : ℤ} (h : ¬0 ≤ n) : base ^ n = (base ^ (-n).toNat)⁻¹ := by
  rw [← zpow_natCast, Int.toNat_of_nonneg (by omega), zpow_neg, inv_inv]

section
variable {num den : Nat}

theorem isBelowPower_iff (hden : 0 < den) (exponent : Int) :
    isBelowPower num den exponent = true ↔ (num : ℚ) / den < 2 ^ exponent := by
  have hpos : (0 : ℚ) < den := by exact_mod_cast hden
  rw [div_lt_iff₀ hpos]
  unfold isBelowPower
  simp only [Nat.pow_eq]
  split_ifs with hsign
  · rw [decide_eq_true_iff, zpow_of_nonneg 2 hsign, mul_comm]
    exact_mod_cast Iff.rfl
  · rw [decide_eq_true_iff, zpow_of_neg 2 hsign, ← div_eq_inv_mul, lt_div_iff₀ (by positivity)]
    exact_mod_cast Iff.rfl

theorem two_zpow_log2_le {n : Nat} (hn : 0 < n) : (2 : ℚ) ^ (n.log2 : ℤ) ≤ n := by
  exact_mod_cast Nat.log2_self_le hn.ne'

theorem lt_two_zpow_log2 (n : Nat) : (n : ℚ) < 2 ^ ((n.log2 : ℤ) + 1) := by
  exact_mod_cast Nat.lt_log2_self

/-- The lengths of numerator and denominator leave two exponents open, between which a comparison
with a power decides. -/
theorem isExponent_exponentOf (hnum : 0 < num) (hden : 0 < den) :
    IsExponent (num / den) (exponentOf num den) := by
  have hpos : (0 : ℚ) < den := by exact_mod_cast hden
  have hlow : (2 : ℚ) ^ ((num.log2 : ℤ) - den.log2 - 1) ≤ num / den := by
    rw [sub_sub, zpow_sub₀ two_ne_zero]
    exact div_le_div₀ (Nat.cast_nonneg num) (two_zpow_log2_le hnum) hpos (lt_two_zpow_log2 den).le
  have hhigh : (num : ℚ) / den < 2 ^ ((num.log2 : ℤ) - den.log2 + 1) := by
    rw [sub_add_eq_add_sub, zpow_sub₀ two_ne_zero]
    exact div_lt_div₀ (lt_two_zpow_log2 num) (two_zpow_log2_le hden) (by positivity) (by positivity)
  unfold exponentOf
  simp only [isBelowPower_iff hden]
  generalize (num.log2 : ℤ) - den.log2 = size at *
  generalize (num : ℚ) / den = value at *
  obtain ⟨exponent, hexponent, hpower, hfull⟩ : ∃ exponent,
      (if value < 2 ^ size then size - 53 else size - 52) = exponent ∧
        value < 2 ^ (exponent + 53) ∧ 2 ^ (exponent + 52) ≤ value := by
    refine ⟨_, rfl, ?_⟩
    split_ifs with hbelow
    · exact ⟨by rwa [sub_add_cancel], by rwa [sub_add, show (53 - 52 : ℤ) = 1 from rfl]⟩
    · refine ⟨by rwa [sub_add, show (52 - 53 : ℤ) = -1 from rfl, sub_neg_eq_add], ?_⟩
      rw [sub_add_cancel]
      exact not_lt.mp hbelow
  rw [hexponent]
  obtain hle | hlt := le_or_gt minExponent exponent
  · rw [max_eq_left hle]
    exact ⟨hle, hpower, .inr hfull⟩
  · rw [max_eq_right hlt.le]
    refine ⟨le_rfl, hpower.trans ?_, .inl rfl⟩
    exact zpow_lt_zpow_right₀ one_lt_two (by omega)

theorem roundsTo_unitsOf (num : Nat) (hden : 0 < den) (exponent : Int) :
    RoundsTo (num / den / 2 ^ exponent) (unitsOf num den exponent) := by
  unfold unitsOf
  simp only [Nat.pow_eq]
  split_ifs with hsign
  · have hround := roundsTo_roundDiv num (Nat.mul_pos hden (Nat.two_pow_pos exponent.toNat))
    rw [zpow_of_nonneg 2 hsign, div_div]
    exact_mod_cast hround
  · have hround := roundsTo_roundDiv (num * 2 ^ (-exponent).toNat) hden
    rw [zpow_of_neg 2 hsign, div_inv_eq_mul, div_mul_eq_mul_div]
    exact_mod_cast hround

end

end RowRecipe.Binary64
