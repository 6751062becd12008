import RowRecipe.Number.Layout
import RowRecipe.Proofs.Decimals

/-!
# What numbers are written as

Decimal digits are read as the number they were written from. A layout writes a decimal as digits,
perhaps with a point and digits behind it, and perhaps with an exponent; whatever its form, these
spell the decimal.
-/
namespace RowRecipe

/-! ### Digits -/

theorem digitsValue_eq (read : Nat) (cs : List Char) :
    digitsValue read cs = Nat.ofDigitChars 10 cs read := by
  rw [Nat.ofDigitChars_eq_foldl]
  induction cs generalizing read with
  | nil => rfl
  | cons c cs ih =>
    rw [List.foldl_cons, ← ih, Nat.mul_comm 10]
    rfl

theorem digitsValue_append (read : Nat) (cs ds : List Char) :
    digitsValue read (cs ++ ds) = digitsValue (digitsValue read cs) ds := by
  simp only [digitsValue_eq, Nat.ofDigitChars_append]

theorem digitsValue_zeros (read count : Nat) :
    digitsValue read (List.replicate count '0') = read * 10 ^ count := by
  rw [digitsValue_eq, Nat.ofDigitChars_replicate_zero, mul_comm]

theorem isDigit_zeros (count : Nat) : ∀ c ∈ List.replicate count '0', c.isDigit = true := by
  intro c hc
  rw [List.eq_of_mem_replicate hc]
  rfl

theorem digitsValue_toDigits (n : Nat) : digitsValue 0 (Nat.toDigits 10 n) = n := by
  rw [digitsValue_eq, Nat.ofDigitChars_ten_toDigits]

theorem isDigit_of_mem_toDigits {n : Nat} {c : Char} (h : c ∈ Nat.toDigits 10 n) :
    c.isDigit = true :=
  Nat.isDigit_of_mem_toDigits (by decide) (by decide) h

/-- A run of digits goes up to what is no digit. -/
theorem span_isDigit_append {digits rest : List Char} (hdigits : ∀ c ∈ digits, c.isDigit = true)
    (hrest : ∀ c ∈ rest.head?, c.isDigit = false) :
    (digits ++ rest).span Char.isDigit = (digits, rest) := by
  have hstop : rest.takeWhile Char.isDigit = [] ∧ rest.dropWhile Char.isDigit = rest := by
    cases rest with
    | nil => exact ⟨rfl, rfl⟩
    | cons c cs =>
      have hc := hrest c rfl
      constructor
      · rw [List.takeWhile_cons, hc, if_neg Bool.false_ne_true]
      · rw [List.dropWhile_cons, hc, if_neg Bool.false_ne_true]
  rw [List.span_eq_takeWhile_dropWhile, List.takeWhile_append_of_pos hdigits,
    List.dropWhile_append_of_pos hdigits, hstop.1, hstop.2, List.append_nil]

/-- The digits of a positive number do not begin with zero. -/
theorem head?_toDigits_ne {n : Nat} (hn : n ≠ 0) : (Nat.toDigits 10 n).head? ≠ some '0' := by
  induction n using Nat.strong_induction_on with
  | _ n ih =>
    obtain hlt | hle := Nat.lt_or_ge n 10
    · have hdigit : ∀ n < 10, n ≠ 0 → [Nat.digitChar n].head? ≠ some '0' := by decide
      rw [Nat.toDigits_of_lt_base hlt]
      exact hdigit n hlt hn
    · rw [Nat.toDigits_of_base_le (by decide) hle,
        List.head?_append_of_ne_nil _ Nat.toDigits_ne_nil]
      exact ih (n / 10) (Nat.div_lt_self (by omega) (by decide)) (by omega)

/-! ### Layouts -/

/-- Digits, and behind a point those behind it unless there are none. -/
def pointed (before after : List Char) : List Char :=
  before ++ if after = [] then [] else '.' :: after

theorem pointed_of_ne_nil (before : List Char) {after : List Char} (h : after ≠ []) :
    pointed before after = before ++ '.' :: after := by
  rw [pointed, if_neg h]

/-- Digits before and behind a point. No zero stands in front of other digits before it. -/
structure IsNumeral (before after : List Char) : Prop where
  digits : ∀ c ∈ before ++ after, c.isDigit = true
  begins : ∃ c cs, before = c :: cs ∧ (c = '0' → cs = [])

/-- A numeral that spells a number, with a power of ten. -/
structure Spells (before after : List Char) (exponent : Int) (value : ℚ) : Prop
    extends IsNumeral before after where
  value_eq : digitsValue 0 (before ++ after) * 10 ^ (exponent - after.length) = value

namespace FloatLayout

variable (layout : FloatLayout) {decimal : Decimal}

theorem begins_digitChars (h : decimal.digits ≠ 0) :
    ∃ c cs, decimal.digitChars = c :: cs ∧ c ≠ '0' := by
  obtain ⟨c, cs, hchars⟩ := List.exists_cons_of_ne_nil
    (show decimal.digitChars ≠ [] from Nat.toDigits_ne_nil)
  refine ⟨c, cs, hchars, ?_⟩
  rintro rfl
  exact head?_toDigits_ne h (by rw [← Decimal.digitChars, hchars]; rfl)

theorem isDigit_of_mem_digitChars : ∀ c ∈ decimal.digitChars, c.isDigit = true :=
  fun _ h => isDigit_of_mem_toDigits h

theorem digitsValue_digitChars : digitsValue 0 decimal.digitChars = decimal.digits :=
  digitsValue_toDigits decimal.digits

theorem digitsValue_digitChars_append (cs : List Char) :
    digitsValue 0 (decimal.digitChars ++ cs) = digitsValue decimal.digits cs := by
  rw [digitsValue_append, digitsValue_digitChars]

theorem spells_zeros (h : decimal.digits ≠ 0) {n : Nat} (hn : decimal.exponent = n) (count : Nat) :
    Spells (decimal.digitChars ++ List.replicate n '0') (List.replicate count '0') 0
      decimal.value := by
  obtain ⟨c, cs, hchars, hc⟩ := begins_digitChars h
  refine ⟨⟨?_, c, cs ++ List.replicate n '0', ?_, fun hzero => absurd hzero hc⟩, ?_⟩
  · simp only [List.forall_mem_append]
    exact ⟨⟨isDigit_of_mem_digitChars, isDigit_zeros n⟩, isDigit_zeros count⟩
  · rw [hchars, List.cons_append]
  · rw [digitsValue_append, digitsValue_digitChars_append, digitsValue_zeros, digitsValue_zeros,
      List.length_replicate, Decimal.value, hn, zero_sub, zpow_neg, zpow_natCast, zpow_natCast,
      Nat.cast_mul, Nat.cast_mul, Nat.cast_pow, Nat.cast_pow]
    exact mul_inv_cancel_right₀ (by positivity) _

theorem spells_small {n : Nat} (hn : -decimal.exponent = n)
    (hlength : decimal.digitChars.length ≤ n) :
    Spells ['0'] (List.replicate (n - decimal.digitChars.length) '0' ++ decimal.digitChars) 0
      decimal.value := by
  refine ⟨⟨?_, '0', [], rfl, fun _ => rfl⟩, ?_⟩
  · simp only [List.forall_mem_append]
    exact ⟨isDigit_zeros 1, isDigit_zeros _, isDigit_of_mem_digitChars⟩
  · have hdigits : digitsValue 0 (List.replicate (n - decimal.digitChars.length + 1) '0' ++
        decimal.digitChars) = decimal.digits := by
      rw [digitsValue_append, digitsValue_zeros, Nat.zero_mul, digitsValue_digitChars]
    rw [← List.append_assoc, List.singleton_append, ← List.replicate_succ, hdigits,
      List.length_append, List.length_replicate, Nat.sub_add_cancel hlength, zero_sub, ← hn,
      neg_neg]
    rfl

theorem spells_between (h : decimal.digits ≠ 0) {n : Nat} (hn : -decimal.exponent = n)
    (hlength : n < decimal.digitChars.length) :
    Spells (decimal.digitChars.take (decimal.digitChars.length - n))
      (decimal.digitChars.drop (decimal.digitChars.length - n)) 0 decimal.value := by
  obtain ⟨c, cs, hchars, hc⟩ := begins_digitChars h
  refine ⟨⟨?_, ?_⟩, ?_⟩
  · rw [List.take_append_drop]
    exact isDigit_of_mem_digitChars
  · obtain ⟨k, hk⟩ := Nat.exists_eq_add_one.mpr (Nat.sub_pos_of_lt hlength)
    exact ⟨c, cs.take k, by rw [hk, hchars, List.take_succ_cons], fun hzero => absurd hzero hc⟩
  · rw [List.take_append_drop, digitsValue_digitChars, List.length_drop,
      Nat.sub_sub_self hlength.le, zero_sub, ← hn, neg_neg]
    rfl

/-- A decimal without an exponent: zeros stand behind the digits, or the point stands in front of
them or between them. -/
theorem exists_positional (h : decimal.digits ≠ 0) :
    ∃ before after, layout.positional decimal = pointed before after ∧
      Spells before after 0 decimal.value ∧ (layout.pointZero = true → after ≠ []) := by
  unfold positional
  simp only
  obtain hsign | hsign := le_or_gt 0 decimal.exponent
  · obtain ⟨n, hn⟩ := Int.eq_ofNat_of_zero_le hsign
    refine ⟨_, _, ?_, spells_zeros h hn (if layout.pointZero then 1 else 0), ?_⟩
    · rw [if_pos hsign, hn]
      split_ifs <;> simp [pointed]
    · intro hpoint
      simp [hpoint]
  · obtain ⟨n, hn⟩ := Int.eq_ofNat_of_zero_le (show 0 ≤ -decimal.exponent by omega)
    rw [if_neg (not_le.mpr hsign), hn, Int.toNat_natCast]
    split_ifs with hlength
    · have hafter : List.replicate (n - decimal.digitChars.length) '0' ++ decimal.digitChars ≠ [] :=
        List.append_ne_nil_of_right_ne_nil _ Nat.toDigits_ne_nil
      exact ⟨['0'], _, (pointed_of_ne_nil ['0'] hafter).symm, spells_small hn hlength,
        fun _ => hafter⟩
    · have hlength := not_le.mp hlength
      have hafter : decimal.digitChars.drop (decimal.digitChars.length - n) ≠ [] := by
        rw [Ne, List.drop_eq_nil_iff]
        omega
      exact ⟨_, _, (pointed_of_ne_nil _ hafter).symm, spells_between h hn hlength, fun _ => hafter⟩

/-- An exponent behind its letter; it may be missing. -/
def exponentChars : Option Int → List Char
  | none => []
  | some exponent =>
    'e' :: ((if layout.plusExponent && 0 ≤ exponent then ['+'] else []) ++ integerChars exponent)

/-- A decimal with an exponent: one digit stands before the point. -/
theorem exists_scientific (h : decimal.digits ≠ 0) :
    ∃ before after, layout.scientific decimal =
        pointed before after ++ layout.exponentChars (some decimal.leading) ∧
      Spells before after decimal.leading decimal.value := by
  obtain ⟨c, cs, hchars, hc⟩ := begins_digitChars h
  refine ⟨[c], cs, ?_, ⟨?_, c, [], rfl, fun _ => rfl⟩, ?_⟩
  · unfold scientific
    rw [hchars]
    cases cs <;> simp [pointed, exponentChars]
  · rw [List.singleton_append, ← hchars]
    exact isDigit_of_mem_digitChars
  · have hexponent : decimal.leading - cs.length = decimal.exponent := by
      rw [Decimal.leading, hchars, List.length_cons]
      push_cast
      ring
    rw [List.singleton_append, ← hchars, digitsValue_digitChars, hexponent]
    rfl

/-- What is written of a finite float, its sign apart, spells a decimal that the float is nearest
to. It has a point or an exponent if whole floats get a point. -/
theorem exists_numeral {x : Float} {parts : Binary64.Parts} (hx : Binary64.parts? x = some parts)
    (hsign : layout.signedZero = true) :
    ∃ before after exponent,
      layout.chars x = (if parts.negative then ['-'] else []) ++
        (pointed before after ++ layout.exponentChars exponent) ∧
      IsNumeral before after ∧ (layout.pointZero = true → after = [] → exponent ≠ none) ∧
      nearestDecimal parts.negative (digitsValue 0 (before ++ after))
        (exponent.getD 0 - after.length) = x := by
  simp only [chars, hx, hsign, Bool.and_true]
  obtain hunits | hunits := Nat.eq_zero_or_pos parts.units
  · refine ⟨['0'], if layout.pointZero then ['0'] else [], none, ?_,
      ⟨?_, '0', [], rfl, fun _ => rfl⟩, ?_, ?_⟩
    · rw [if_pos hunits]
      split_ifs <;> rfl
    · split_ifs
      · exact isDigit_zeros 2
      · exact isDigit_zeros 1
    · intro hpoint
      simp [hpoint]
    · have hzero : digitsValue 0 (['0'] ++ if layout.pointZero then ['0'] else []) = 0 := by
        split_ifs <;> rfl
      rw [hzero]
      exact Decimal.nearestDecimal_zero hx hunits _
  · have hdigits := Decimal.digits_shortest_ne_zero (Binary64.fits_of_parts? hx) hunits layout.tie
    rw [if_neg hunits.ne']
    by_cases hform :
        layout.isPositional (Decimal.shortest layout.tie parts.units parts.exponent) = true
    · obtain ⟨before, after, hchars, hspells, hafter⟩ := layout.exists_positional hdigits
      refine ⟨before, after, none, ?_, hspells.toIsNumeral, ?_, ?_⟩
      · rw [if_pos hform, hchars, exponentChars, List.append_nil]
      · exact fun hpoint hnil => absurd hnil (hafter hpoint)
      · exact Decimal.nearestDecimal_of_shortest hx hunits hspells.value_eq
    · obtain ⟨before, after, hchars, hspells⟩ := layout.exists_scientific hdigits
      refine ⟨before, after, some (Decimal.shortest layout.tie parts.units parts.exponent).leading,
        ?_, hspells.toIsNumeral, ?_, ?_⟩
      · rw [if_neg hform, hchars]
      · exact fun _ _ => Option.some_ne_none _
      · exact Decimal.nearestDecimal_of_shortest hx hunits hspells.value_eq

end FloatLayout

end RowRecipe
