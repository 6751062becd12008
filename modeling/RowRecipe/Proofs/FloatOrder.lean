import RowRecipe.Proofs.Rounding

/-!
# The order of floats

Floats that are not negative are ordered as their bits and as their sizes, and rounding keeps the
order. So a number between two others rounds to a float between theirs, and whether a float is below
some bound is told by the bits of the two, even where a number has more digits than a float has.

Main statements: `lt_iff_bits_lt`, `le_iff_bits_le`, `Parts.Fits.size_le` and `nearestBits_mono`.
-/
namespace RowRecipe.Binary64

open Float.Model (UnpackedFloat)
open Float.Model.Format (binary64)
open Float.Model.UnpackedFloat (unpackExponent unpackMantissa unpackSign Sign)

variable {x y : Float} {parts others : Parts}

/-! ### The bits of finite floats -/

namespace Parts.Fits

theorem bits_lt (h : parts.Fits) : parts.bits < infinityBits := by
  have hunits := h.units_lt
  have hexponent := h.exponent_le
  simp only [Parts.bits, infinityBits, minExponent, Nat.pow_eq]
  omega

/-- The exponent is compared first: only floats of the smallest exponent have few units. -/
theorem bits_lt_iff (h : parts.Fits) (hothers : others.Fits) :
    parts.bits < others.bits ↔ parts.exponent < others.exponent ∨
      parts.exponent = others.exponent ∧ parts.units < others.units := by
  have hunits := h.units_lt
  have hleast := h.le_exponent
  have hfull := h.full
  have hunits' := hothers.units_lt
  have hleast' := hothers.le_exponent
  have hfull' := hothers.full
  simp only [Parts.bits, minExponent] at *
  omega

theorem eq_of_bits (h : parts.Fits) (hothers : others.Fits) (hbits : parts.bits = others.bits) :
    parts.exponent = others.exponent ∧ parts.units = others.units := by
  have hless := (h.bits_lt_iff hothers).not.mp hbits.not_lt
  have hmore := (hothers.bits_lt_iff h).not.mp hbits.not_gt
  omega

theorem compare_bits (h : parts.Fits) (hothers : others.Fits) :
    compare parts.bits others.bits =
      (compare parts.exponent others.exponent).then (compare parts.units others.units) := by
  obtain hlt | heq | hgt := lt_trichotomy parts.bits others.bits
  · rw [compare_lt_iff_lt.mpr hlt, eq_comm, Ordering.then_eq_lt, compare_lt_iff_lt,
      compare_eq_iff_eq, compare_lt_iff_lt]
    exact (h.bits_lt_iff hothers).mp hlt
  · obtain ⟨hexponent, hunits⟩ := h.eq_of_bits hothers heq
    rw [compare_eq_iff_eq.mpr heq, compare_eq_iff_eq.mpr hexponent, compare_eq_iff_eq.mpr hunits]
    rfl
  · rw [compare_gt_iff_gt.mpr hgt, eq_comm, Ordering.then_eq_gt, compare_gt_iff_gt,
      compare_eq_iff_eq, compare_gt_iff_gt, eq_comm (a := parts.exponent)]
    exact (hothers.bits_lt_iff h).mp hgt

end Parts.Fits

theorem signBit_false : signBit false = 0 := rfl

theorem signBit_true : signBit true = 2 ^ 63 := rfl

section
variable (bits : BitVec binary64.numBits)

theorem toNat_unpackExponent : (unpackExponent bits).toNat = bits.toNat / 2 ^ 52 % 2048 := by
  rw [UnpackedFloat.unpackExponent_def, BitVec.extractLsb'_toNat, Nat.shiftRight_eq_div_pow]
  rfl

theorem toNat_unpackMantissa : (unpackMantissa bits).toNat = bits.toNat % 2 ^ 52 := by
  rw [UnpackedFloat.unpackMantissa_def, BitVec.extractLsb'_toNat, Nat.shiftRight_eq_div_pow,
    pow_zero, Nat.div_one]

theorem toNat_unpackSign : (unpackSign bits).toNat = bits.toNat / 2 ^ 63 := by
  have hlt : bits.toNat < 2 ^ 64 := bits.isLt
  have hsign : bits.toNat / 2 ^ 63 % 2 ^ 1 = bits.toNat / 2 ^ 63 := Nat.mod_eq_of_lt (by omega)
  rw [UnpackedFloat.unpackSign_def, BitVec.extractLsb'_toNat, Nat.shiftRight_eq_div_pow]
  exact hsign

theorem toNat_one_append (fraction : BitVec 52) :
    (1#1 ++ fraction).toNat = 2 ^ 52 + fraction.toNat := by
  rw [BitVec.toNat_append, ← Nat.shiftLeft_add_eq_or_of_lt fraction.isLt]
  rfl

end

/-- A float has the bits it is made of, unless they are those of what is not a number. -/
theorem toBits_ofBits {bits : UInt64} (h : bits.toNat % 2 ^ 63 ≤ infinityBits) :
    (Float.ofBits bits).toBits = bits := by
  have hbits : bits.toBitVec.toNat = bits.toNat := rfl
  have hones : (-1#11 : BitVec 11).toNat = 2047 := rfl
  have hnumber : @UnpackedFloat.isNaNBits binary64 bits.toBitVec = false := by
    simp only [UnpackedFloat.isNaNBits, decide_eq_false_iff_not, not_and, not_not,
      ← BitVec.toNat_inj, toNat_unpackExponent, toNat_unpackMantissa, hbits, hones,
      BitVec.toNat_zero]
    simp only [infinityBits, Nat.pow_eq] at h
    omega
  have hpack := @UnpackedFloat.pack_unpack binary64 bits.toBitVec
  rw [hnumber, if_neg Bool.false_ne_true] at hpack
  exact UInt64.toBitVec_inj.mp hpack

theorem toNat_toBits_ofBits (negative : Bool) {bits : Nat} (h : bits ≤ infinityBits) :
    (Float.ofBits (UInt64.ofNat (signBit negative + bits))).toBits.toNat =
      signBit negative + bits := by
  have hlt : bits < 2 ^ 63 := lt_of_le_of_lt h (by decide)
  obtain ⟨hmod, hword⟩ : (signBit negative + bits) % 2 ^ 63 = bits ∧
      signBit negative + bits < 2 ^ 64 := by
    cases negative <;> simp only [signBit_false, signBit_true] <;> omega
  have hword := UInt64.toNat_ofNat_of_lt' hword
  rw [toBits_ofBits (by rwa [hword, hmod]), hword]

theorem isSome_parts?_iff : (parts? x).isSome ↔ x.toBits.toNat / 2 ^ 52 % 2048 ≠ 2047 := by
  simp only [parts?, Nat.pow_eq]
  split_ifs <;> simp_all

/-- Bits below those of infinity are those of a finite float. -/
theorem exists_parts?_ofBits (negative : Bool) {bits : Nat} (h : bits < infinityBits) :
    ∃ parts, parts? (Float.ofBits (UInt64.ofNat (signBit negative + bits))) = some parts ∧
      parts.negative = negative ∧ parts.bits = bits := by
  have hword := toNat_toBits_ofBits negative h.le
  have hsome : (parts? (Float.ofBits (UInt64.ofNat (signBit negative + bits)))).isSome := by
    rw [isSome_parts?_iff, hword]
    simp only [infinityBits, Nat.pow_eq] at h
    cases negative <;> simp only [signBit_false, signBit_true] <;> omega
  obtain ⟨parts, hparts⟩ := Option.isSome_iff_exists.mp hsome
  have hlt := (fits_of_parts? hparts).bits_lt
  have hlimit : infinityBits < 2 ^ 63 := by decide
  have hbits := toNat_toBits hparts
  rw [hword] at hbits
  refine ⟨parts, hparts, ?_⟩
  cases negative <;> cases hnegative : parts.negative <;>
    simp only [hnegative, signBit_false, signBit_true] at hbits <;>
    simp only [reduceCtorEq, true_and, false_and] <;> omega

theorem parts?_infinity (negative : Bool) : parts? (infinity negative) = none := by
  cases negative <;> decide +kernel

/-! ### Comparison

The library defines the comparison of floats on what their bits are unpacked to. -/

/-- The sign of a float as it is unpacked. -/
def Parts.sign (parts : Parts) : Sign :=
  if parts.negative then .negative else .positive

/-- A finite float as it is unpacked. -/
def Parts.unpacked (parts : Parts) : UnpackedFloat :=
  if h : 0 < parts.units then .finite parts.sign parts.units parts.exponent h else .zero parts.sign

theorem unpack_toModel (h : parts? x = some parts) : x.toModel.unpack = parts.unpacked := by
  have hlt := x.toBits.toNat_lt
  have hbits : x.toModel.toBits.toBitVec.toNat = x.toBits.toNat := rfl
  have hones : (-1#11 : BitVec 11).toNat = 2047 := rfl
  have hbias : binary64.exponentBias = 1023 := rfl
  have hsign : Sign.ofBitVec (@unpackSign binary64 x.toModel.toBits.toBitVec) =
      if x.toBits.toNat / 2 ^ 63 == 1 then .negative else .positive := by
    simp only [Sign.ofBitVec, ← BitVec.toNat_inj, toNat_unpackSign, hbits, BitVec.toNat_ofNat,
      beq_iff_eq]
    by_cases hsigned : x.toBits.toNat / 2 ^ 63 = 1
    · rw [if_pos hsigned, if_neg (by omega)]
    · rw [if_neg hsigned, if_pos (by omega)]
  unfold Float.Model.unpack UnpackedFloat.unpack
  simp only [← BitVec.toNat_inj, toNat_unpackExponent, toNat_unpackMantissa, toNat_one_append,
    hbits, hsign, hones, hbias, BitVec.toNat_zero]
  simp only [parts?, Nat.pow_eq] at h
  unfold Parts.unpacked Parts.sign
  split_ifs at h with hinfinite hsmall
  · cases h
    simp only [if_neg hinfinite, if_pos hsmall]
    by_cases hzero : x.toBits.toNat % 2 ^ 52 = 0
    · rw [dif_pos hzero, dif_neg (by rw [hzero]; exact lt_irrefl 0)]
    · rw [dif_neg hzero, dif_pos (Nat.pos_of_ne_zero hzero), hsmall]
      rfl
  · cases h
    simp only [if_neg hinfinite, if_neg hsmall]
    rw [dif_pos (by positivity)]
    rfl

theorem parts?_abs (h : parts? x = some parts) :
    parts? x.abs = some { parts with negative := false } := by
  obtain ⟨others, hothers, hnegative, hbits⟩ :=
    exists_parts?_ofBits false (fits_of_parts? h).bits_lt
  obtain ⟨hexponent, hunits⟩ := (fits_of_parts? hothers).eq_of_bits (fits_of_parts? h) hbits
  obtain rfl : others = { parts with negative := false } := by
    rw [← hnegative, ← hexponent, ← hunits]
  have habs : x.toModel.unpack.abs = Parts.unpacked { parts with negative := false } := by
    rw [unpack_toModel h]
    unfold Parts.unpacked
    split_ifs <;> rfl
  rw [← unpack_toModel hothers] at habs
  rw [← hothers, ← Float.ofBits_toBits (Float.ofBits _), Float.abs, Float.Model.abs, habs]
  rfl

/-- A float that is not negative, which both zeros are. -/
def Parts.Nonneg (parts : Parts) : Prop :=
  parts.negative = false ∨ parts.units = 0

theorem Parts.Fits.bits_eq_zero (h : parts.Fits) (hunits : parts.units = 0) : parts.bits = 0 := by
  have hexponent := h.full.resolve_right (by omega)
  simp [Parts.bits, hexponent, hunits]

theorem compare_unpacked (h : parts.Fits) (hothers : others.Fits) (hsign : parts.Nonneg)
    (hsign' : others.Nonneg) :
    UnpackedFloat.compare parts.unpacked others.unpacked =
      some (compare parts.bits others.bits) := by
  have hpos : ∀ {parts : Parts}, 0 < parts.units → 0 < parts.bits :=
    fun hunits => Nat.add_pos_right _ hunits
  unfold Parts.unpacked
  by_cases hunits : 0 < parts.units <;> by_cases hunits' : 0 < others.units
  · have hnegative := hsign.resolve_right hunits.ne'
    have hnegative' := hsign'.resolve_right hunits'.ne'
    simp [hunits, hunits', Parts.sign, hnegative, hnegative', UnpackedFloat.compare,
      h.compare_bits hothers]
  · have hnegative := hsign.resolve_right hunits.ne'
    rw [hothers.bits_eq_zero (by omega), compare_gt_iff_gt.mpr (hpos hunits)]
    simp [hunits, hunits', Parts.sign, hnegative, UnpackedFloat.compare]
  · have hnegative' := hsign'.resolve_right hunits'.ne'
    rw [h.bits_eq_zero (by omega), compare_lt_iff_lt.mpr (hpos hunits')]
    simp [hunits, hunits', Parts.sign, hnegative', UnpackedFloat.compare]
  · rw [h.bits_eq_zero (by omega), hothers.bits_eq_zero (by omega)]
    simp [hunits, hunits', UnpackedFloat.compare]

section
variable (hx : parts? x = some parts) (hy : parts? y = some others) (hsign : parts.Nonneg)
variable (hsign' : others.Nonneg)
include hx hy hsign hsign'

/-- Floats that are not negative are ordered as their bits. -/
theorem lt_iff_bits_lt : x < y ↔ parts.bits < others.bits := by
  have hcompare : x < y ↔ UnpackedFloat.compare parts.unpacked others.unpacked = some .lt := by
    rw [← unpack_toModel hx, ← unpack_toModel hy]
    exact decide_eq_true_iff.trans beq_iff_eq
  rw [hcompare, compare_unpacked (fits_of_parts? hx) (fits_of_parts? hy) hsign hsign',
    Option.some.injEq, compare_lt_iff_lt]

theorem le_iff_bits_le : x ≤ y ↔ parts.bits ≤ others.bits := by
  have hcompare : x ≤ y ↔
      (UnpackedFloat.compare parts.unpacked others.unpacked).any Ordering.isLE = true := by
    rw [← unpack_toModel hx, ← unpack_toModel hy]
    exact decide_eq_true_iff
  rw [hcompare, compare_unpacked (fits_of_parts? hx) (fits_of_parts? hy) hsign hsign',
    Option.any_some, Nat.isLE_compare]

end

/-! ### Rounding -/

section
variable {num den num' den' : Nat} {negative : Bool}

/-- Rounding to a float keeps the order. -/
theorem nearestBits_mono (hden : 0 < den) (hden' : 0 < den')
    (hle : (num : ℚ) / den ≤ num' / den') : nearestBits num den ≤ nearestBits num' den' := by
  obtain rfl | hnum := Nat.eq_zero_or_pos num
  · exact Nat.zero_le _
  have hnum' : 0 < num' := by
    have hpos : (0 : ℚ) < num' / den' := lt_of_lt_of_le (by positivity) hle
    by_contra hzero
    simp [Nat.eq_zero_of_not_pos hzero] at hpos
  have hexponent := isExponent_exponentOf hnum hden
  have hexponent' := isExponent_exponentOf hnum' hden'
  have hround := roundsTo_unitsOf num hden (exponentOf num den)
  have hround' := roundsTo_unitsOf num' hden' (exponentOf num' den')
  have hexponents := hexponent.mono hexponent' hle
  unfold nearestBits
  rw [if_neg hnum.ne', if_neg hnum'.ne']
  refine min_le_min_right _ ?_
  simp only [Nat.pow_eq]
  generalize exponentOf num den = d at *
  generalize exponentOf num' den' = e at *
  have hleast := hexponent.le_exponent
  obtain rfl | hlt := hexponents.eq_or_lt
  · have hunits := hround.mono hround' (by gcongr)
    omega
  · -- The smaller number has fewer binary digits, or is rounded up to the least with as many.
    have hunits : unitsOf num den d ≤ 2 ^ 53 := by
      refine hround.mono (roundsTo_natCast _) ?_
      rw [div_le_iff₀ (by positivity), Nat.cast_pow, Nat.cast_ofNat, ← zpow_natCast,
        ← zpow_add₀ two_ne_zero, add_comm]
      exact hexponent.lt_power.le
    have hunits' : 2 ^ 52 ≤ unitsOf num' den' e := by
      refine (roundsTo_natCast _).mono hround' ?_
      rw [le_div_iff₀ (by positivity), Nat.cast_pow, Nat.cast_ofNat, ← zpow_natCast,
        ← zpow_add₀ two_ne_zero, add_comm]
      exact hexponent'.full.resolve_left (by omega)
    omega

theorem nearestBits_le (num den : Nat) : nearestBits num den ≤ infinityBits := by
  unfold nearestBits
  split_ifs
  · exact Nat.zero_le _
  · exact min_le_right _ _

theorem nearest_eq_infinity (h : nearestBits num den = infinityBits) :
    nearest negative num den = infinity negative := by
  rw [nearest, h, infinity]

theorem exists_parts?_nearest (h : nearestBits num den < infinityBits) (negative : Bool) :
    ∃ parts, parts? (nearest negative num den) = some parts ∧ parts.negative = negative ∧
      parts.bits = nearestBits num den :=
  exists_parts?_ofBits negative h

theorem of_parts?_nearest (h : parts? (nearest negative num den) = some parts) :
    parts.negative = negative ∧ parts.bits = nearestBits num den := by
  obtain hfinite | hinfinite := (nearestBits_le num den).lt_or_eq
  · obtain ⟨others, hothers, hsame⟩ := exists_parts?_nearest hfinite negative
    obtain rfl := Option.some.inj (hothers.symm.trans h)
    exact hsame
  · rw [nearest_eq_infinity hinfinite, parts?_infinity] at h
    cases h

theorem nearestBits_mono_whole {m n : Nat} (h : m ≤ n) : nearestBits m 1 ≤ nearestBits n 1 :=
  nearestBits_mono one_pos one_pos (by gcongr)

end

/-! ### Sizes -/

namespace Parts

/-- The size of a finite float. -/
def size (parts : Parts) : ℚ :=
  parts.units * 2 ^ parts.exponent

/-- The least float of a larger exponent is not below the largest of a smaller one. -/
theorem Fits.size_le (h : parts.Fits) (hothers : others.Fits) (hle : parts.bits ≤ others.bits) :
    parts.size ≤ others.size := by
  obtain hlt | ⟨hexponent, hunits⟩ : parts.exponent < others.exponent ∨
      parts.exponent = others.exponent ∧ parts.units ≤ others.units := by
    have hless := (hothers.bits_lt_iff h).not.mp hle.not_gt
    omega
  · have hleast := h.le_exponent
    have hunits : (2 : ℚ) ^ 52 ≤ others.units := by
      exact_mod_cast hothers.full.resolve_left (by omega)
    have hunits' : (parts.units : ℚ) ≤ 2 ^ 53 := by exact_mod_cast h.units_lt.le
    calc parts.size
        ≤ 2 ^ 53 * 2 ^ parts.exponent := by unfold size; gcongr
      _ = 2 ^ 52 * 2 ^ (parts.exponent + 1) := by rw [zpow_add_one₀ two_ne_zero]; ring
      _ ≤ others.units * 2 ^ others.exponent := by gcongr; exacts [one_le_two, hlt]
  · unfold size
    rw [hexponent]
    gcongr

theorem scaledFloor_eq_floor (parts : Parts) (power : Nat) :
    parts.scaledFloor power = ⌊parts.size * 2 ^ power⌋₊ := by
  have hsize : parts.size * 2 ^ power = parts.units * 2 ^ (parts.exponent + power) := by
    rw [size, mul_assoc, zpow_add₀ two_ne_zero, zpow_natCast]
  rw [hsize, scaledFloor]
  simp only [Nat.pow_eq]
  split_ifs with hsign
  · rw [zpow_of_nonneg 2 hsign, ← Nat.floor_natCast (R := ℚ) (_ * _)]
    push_cast
    rfl
  · rw [zpow_of_neg 2 hsign, ← div_eq_mul_inv, ← Nat.floor_div_eq_div (K := ℚ)]
    push_cast
    rfl

theorem Fits.scaledFloor_le (h : parts.Fits) (hothers : others.Fits)
    (hle : parts.bits ≤ others.bits) (power : Nat) :
    parts.scaledFloor power ≤ others.scaledFloor power := by
  have hsize := h.size_le hothers hle
  rw [scaledFloor_eq_floor, scaledFloor_eq_floor]
  gcongr

theorem truncate_eq (parts : Parts) :
    parts.truncate = if parts.negative then -(parts.scaledFloor 0 : Int)
      else parts.scaledFloor 0 := by
  rw [truncate, scaledFloor, Nat.cast_zero, add_zero]

end Parts

end RowRecipe.Binary64
