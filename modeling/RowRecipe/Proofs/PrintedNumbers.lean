import RowRecipe.Proofs.Trimming
import RowRecipe.Proofs.WholeTexts

/-!
# Reading what numbers are written as

An integer is read from its digits, and a finite float from any layout that writes the sign of the
negative zero. No blank is written, so there is nothing to trim in front of reading.

Main statement: `FloatLayout.readFloat?_chars`.
-/
namespace RowRecipe

/-! ### The characters of numbers -/

/-- A character that numbers are written with. -/
def IsNumberChar (c : Char) : Prop :=
  c.isDigit = true ∨ c ∈ ['-', '+', '.', 'e']

theorem isBlank_of_isDigit {c : Char} (h : c.isDigit = true) : Text.isBlank c = false := by
  simp only [Char.isDigit, Bool.and_eq_true, decide_eq_true_iff, ge_iff_le, UInt32.le_iff_toNat_le]
    at h
  have hlow : 48 ≤ c.toNat := h.1
  have hhigh : c.toNat ≤ 57 := h.2
  simp only [Text.isBlank, Bool.or_eq_false_iff, Bool.and_eq_false_imp, decide_eq_true_iff,
    decide_eq_false_iff_not, beq_eq_false_iff_ne]
  omega

theorem isBlank_of_isNumberChar {c : Char} (h : IsNumberChar c) : Text.isBlank c = false := by
  cases h with
  | inl hdigit => exact isBlank_of_isDigit hdigit
  | inr hmark =>
    have hmarks : (['-', '+', '.', 'e'].all fun mark => !Text.isBlank mark) = true := rfl
    simpa using List.all_eq_true.mp hmarks c hmark

theorem trimChars_of_isNumberChar {cs : List Char} (h : ∀ c ∈ cs, IsNumberChar c) :
    Text.trimChars cs = cs := by
  apply Text.trimChars_eq_self_iff.mpr
  constructor
  · intro c hc
    exact isBlank_of_isNumberChar (h c (List.mem_of_mem_head? hc))
  · intro c hc
    exact isBlank_of_isNumberChar (h c (List.mem_of_mem_getLast? hc))

theorem isNumberChar_of_mem_integerChars {n : Int} : ∀ c ∈ integerChars n, IsNumberChar c := by
  have hdigits : ∀ c ∈ Nat.toDigits 10 n.natAbs, IsNumberChar c :=
    fun c hc => .inl (isDigit_of_mem_toDigits hc)
  unfold integerChars
  split
  · rw [List.forall_mem_cons]
    exact ⟨.inr (by decide), hdigits⟩
  · exact hdigits

theorem isNumberChar_of_mem_pointed {before after : List Char} (h : IsNumeral before after) :
    ∀ c ∈ pointed before after, IsNumberChar c := by
  have hbefore : ∀ c ∈ before, IsNumberChar c :=
    fun c hc => .inl (h.digits c (List.mem_append_left _ hc))
  have hafter : ∀ c ∈ after, IsNumberChar c :=
    fun c hc => .inl (h.digits c (List.mem_append_right _ hc))
  rw [pointed, List.forall_mem_append]
  constructor
  · exact hbefore
  · split
    · exact List.forall_mem_nil _
    · rw [List.forall_mem_cons]
      exact ⟨.inr (by decide), hafter⟩

theorem FloatLayout.isNumberChar_of_mem_exponentChars (layout : FloatLayout)
    (exponent : Option Int) :
    ∀ c ∈ layout.exponentChars exponent, IsNumberChar c := by
  cases exponent with
  | none => exact List.forall_mem_nil _
  | some exponent =>
    rw [exponentChars, List.forall_mem_cons, List.forall_mem_append]
    constructor
    · exact .inr (by decide)
    constructor
    · split
      · exact List.forall_mem_singleton.mpr (.inr (by decide))
      · exact List.forall_mem_nil _
    · exact isNumberChar_of_mem_integerChars

/-! ### Integers -/

/-- An integer is denoted by its digits, and one that is not negative also by these behind a plus
sign. -/
theorem denotes_integerChars (n : Int) :
    Denotes (integerChars n) n ∧ (0 ≤ n → Denotes ('+' :: integerChars n) n) := by
  have hdigits : ∀ c ∈ Nat.toDigits 10 n.natAbs, c.isDigit = true :=
    fun _ hc => isDigit_of_mem_toDigits hc
  have hminus := Denotes.minus Nat.toDigits_ne_nil hdigits
  have hplus := Denotes.plus Nat.toDigits_ne_nil hdigits
  have hunsigned := Denotes.unsigned Nat.toDigits_ne_nil hdigits
  rw [Nat.ofDigitChars_ten_toDigits] at hminus hplus hunsigned
  unfold integerChars
  split
  · next hneg =>
    have hvalue : -(n.natAbs : Int) = n := by omega
    rw [hvalue] at hminus
    exact ⟨hminus, fun hle => absurd hneg (not_lt.mpr hle)⟩
  · next hnonneg =>
    have hvalue : (n.natAbs : Int) = n := by omega
    rw [hvalue] at hplus hunsigned
    exact ⟨hunsigned, fun _ => hplus⟩

theorem readWhole?_integerChars (value : Int64) :
    readWhole? (integerChars value.toInt) = some value := by
  rw [readWhole?_of_denotes (denotes_integerChars _).1, whole?_toInt]

/-! ### Floats -/

theorem FloatLayout.readExponent?_exponentChars (layout : FloatLayout) (exponent : Option Int) :
    readExponent? (layout.exponentChars exponent) = some (exponent.getD 0) := by
  cases exponent with
  | none => rfl
  | some exponent =>
    have hread : readInteger? ((if layout.plusExponent && 0 ≤ exponent then ['+'] else []) ++
        integerChars exponent) = some exponent := by
      rw [readInteger?_eq_some_iff]
      split
      · next hplus =>
        have hle : 0 ≤ exponent := of_decide_eq_true (Bool.and_eq_true_iff.mp hplus).2
        exact (denotes_integerChars exponent).2 hle
      · exact (denotes_integerChars exponent).1
    exact hread

section
variable {before after : List Char} (h : IsNumeral before after) (layout : FloatLayout)
  (negative : Bool) (exponent : Option Int)
include h

/-- Digits, a point and digits, and an exponent are read one after another. -/
theorem readDecimal?_numeral :
    readDecimal? negative (pointed before after ++ layout.exponentChars exponent) =
      some (nearestDecimal negative (digitsValue 0 (before ++ after))
        (exponent.getD 0 - after.length)) := by
  obtain ⟨first, rest, hfirst, -⟩ := h.begins
  have hbefore : ∀ c ∈ before, c.isDigit = true :=
    fun c hc => h.digits c (List.mem_append_left _ hc)
  have hafter : ∀ c ∈ after, c.isDigit = true :=
    fun c hc => h.digits c (List.mem_append_right _ hc)
  have hexponent : ∀ c ∈ (layout.exponentChars exponent).head?, c.isDigit = false := by
    cases exponent <;> simp [FloatLayout.exponentChars]
  have hletter : ∀ rest, layout.exponentChars exponent ≠ '.' :: rest := by
    cases exponent <;> simp [FloatLayout.exponentChars]
  have hread := layout.readExponent?_exponentChars exponent
  have hne : before ≠ [] := by
    rw [hfirst]
    exact List.cons_ne_nil first rest
  unfold readDecimal?
  by_cases hnil : after = []
  · subst hnil
    rw [pointed, if_pos rfl, List.append_nil, span_isDigit_append hbefore hexponent]
    simp only [and_true, if_neg hne, hread, List.append_nil]
    rfl
  · have hpoint : ∀ c ∈ ('.' :: (after ++ layout.exponentChars exponent)).head?,
        c.isDigit = false := by simp
    rw [pointed_of_ne_nil before hnil, List.append_assoc, List.cons_append,
      span_isDigit_append hbefore hpoint]
    simp only [span_isDigit_append hafter hexponent]
    simp [hne, hread]

theorem readFloat?_numeral :
    readFloat? ((if negative then ['-'] else []) ++
        (pointed before after ++ layout.exponentChars exponent)) =
      some (nearestDecimal negative (digitsValue 0 (before ++ after))
        (exponent.getD 0 - after.length)) := by
  obtain ⟨c, cs, hbefore, -⟩ := h.begins
  have hc : c.isDigit = true := h.digits c (by rw [hbefore]; exact List.mem_cons_self)
  have hfirst : ∃ rest, pointed before after ++ layout.exponentChars exponent = c :: rest := by
    rw [hbefore, pointed, List.cons_append, List.cons_append]
    exact ⟨_, rfl⟩
  obtain ⟨rest, hrest⟩ := hfirst
  have hsign :
      takeSign ((if negative then ['-'] else []) ++ (c :: rest)) = (negative, c :: rest) := by
    cases negative with
    | false => exact takeSign_of_isDigit hc rest
    | true => rfl
  have hdecimal := readDecimal?_numeral h layout negative exponent
  rw [hrest] at hdecimal ⊢
  unfold readFloat?
  rw [hsign]
  simp only [List.map_cons, toLower_of_isDigit hc]
  split
  · next heq =>
    obtain rfl : c = 'i' := (List.cons.inj heq).1
    exact absurd hc (by decide)
  · next heq =>
    obtain rfl : c = 'i' := (List.cons.inj heq).1
    exact absurd hc (by decide)
  · next heq =>
    obtain rfl : c = 'n' := (List.cons.inj heq).1
    exact absurd hc (by decide)
  · exact hdecimal

end

/-- A finite float is read from what is written of it. -/
theorem FloatLayout.readFloat?_chars (layout : FloatLayout) (hsign : layout.signedZero = true)
    {x : Float} (hx : Binary64.isFinite x = true) : readFloat? (layout.chars x) = some x := by
  obtain ⟨parts, hparts⟩ := Option.isSome_iff_exists.mp hx
  obtain ⟨before, after, exponent, hchars, hnumeral, -, hvalue⟩ :=
    layout.exists_numeral hparts hsign
  rw [hchars, readFloat?_numeral hnumeral, hvalue]

theorem FloatLayout.trimChars_chars (layout : FloatLayout) (hsign : layout.signedZero = true)
    {x : Float} (hx : Binary64.isFinite x = true) :
    Text.trimChars (layout.chars x) = layout.chars x := by
  obtain ⟨parts, hparts⟩ := Option.isSome_iff_exists.mp hx
  obtain ⟨before, after, exponent, hchars, hnumeral, -, -⟩ :=
    layout.exists_numeral hparts hsign
  apply trimChars_of_isNumberChar
  rw [hchars, List.forall_mem_append, List.forall_mem_append]
  constructor
  · split
    · exact List.forall_mem_singleton.mpr (.inr (by decide))
    · exact List.forall_mem_nil _
  · exact ⟨isNumberChar_of_mem_pointed hnumeral, layout.isNumberChar_of_mem_exponentChars exponent⟩

end RowRecipe
