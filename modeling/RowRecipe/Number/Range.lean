/-!
# Whole numbers in 64 bits

Whole numbers are signed and have 64 bits. Arithmetic on them is that of the integers, and has no
result where the integer result does not fit.
-/
namespace RowRecipe

def minWhole : Int := -9223372036854775808

def maxWhole : Int := 9223372036854775807

/-- The whole number of an integer that fits in 64 bits. -/
def whole? (n : Int) : Option Int64 :=
  if minWhole ≤ n ∧ n ≤ maxWhole then some (Int64.ofInt n) else none

/-- The sum of two whole numbers, if it fits. -/
def addWhole? (a b : Int64) : Option Int64 :=
  whole? (a.toInt + b.toInt)

/-- The integer is the one that the whole number stands for. -/
theorem toInt_of_whole? {n : Int} {w : Int64} (h : whole? n = some w) : w.toInt = n := by
  unfold whole? at h
  split at h
  · rename_i hn
    obtain ⟨hlo, hhi⟩ := hn
    unfold minWhole at hlo
    unfold maxWhole at hhi
    cases h
    exact Int64.toInt_ofInt_of_le (by simpa using hlo) (by omega)
  · cases h

/-- Every whole number is in range. -/
theorem whole?_toInt (w : Int64) : whole? w.toInt = some w := by
  have hlo : minWhole ≤ w.toInt := w.minValue_le_toInt
  have hhi : w.toInt ≤ maxWhole := w.toInt_le
  simp [whole?, hlo, hhi]

theorem whole?_eq_some_iff {n : Int} {w : Int64} : whole? n = some w ↔ w.toInt = n := by
  constructor
  · exact toInt_of_whole?
  · rintro rfl
    exact whole?_toInt w

theorem whole?_eq_none_iff {n : Int} : whole? n = none ↔ n < minWhole ∨ maxWhole < n := by
  simp only [whole?, ite_eq_right_iff, reduceCtorEq, imp_false]
  omega

end RowRecipe
