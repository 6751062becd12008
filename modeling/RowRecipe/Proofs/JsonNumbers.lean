import RowRecipe.Proofs.JsonText
import RowRecipe.Proofs.Numerals

/-!
# Reading numbers in JSON

A numeral with its exponent is read up to its end, whatever value it is given, if what comes behind
does not go on with it. Given the float nearest to its decimal, or the whole number that it is, a
numeral is read as the number that it was written from.
-/
namespace RowRecipe.Json

section
variable {rest : List Char} (offset : Nat)

theorem digits_append {digits : List Char} (hdigits : ∀ c ∈ digits, c.isDigit = true)
    (hrest : ∀ c ∈ rest.head?, c.isDigit = false) :
    Place.digits ⟨digits ++ rest, offset⟩ = (digits, ⟨rest, offset + digits.length⟩) := by
  simp only [Place.digits, span_isDigit_append hdigits hrest]

theorem readFraction_stop (hrest : ∀ c ∈ rest.head?, c ≠ '.') :
    readFraction ⟨rest, offset⟩ = .ok ([], ⟨rest, offset⟩) := by
  unfold readFraction
  simp only
  split
  · next h => exact absurd rfl (hrest '.' (by simp))
  · rfl

theorem readFraction_digits {after : List Char} (hafter : ∀ c ∈ after, c.isDigit = true)
    (hne : after ≠ []) (hrest : ∀ c ∈ rest.head?, c.isDigit = false) :
    readFraction ⟨'.' :: (after ++ rest), offset⟩ =
      .ok (after, ⟨rest, offset + 1 + after.length⟩) := by
  obtain ⟨c, cs, rfl⟩ := List.exists_cons_of_ne_nil hne
  simp only [readFraction, Place.drop_one_cons, digits_append _ hafter hrest]

/-- The digits of an exponent behind its sign, which may be missing. -/
theorem readExponent_digits {digits : List Char} (hdigits : ∀ c ∈ digits, c.isDigit = true)
    (hne : digits ≠ []) (hrest : ∀ c ∈ rest.head?, c.isDigit = false) {text : List Char}
    {there : Nat} {negative : Bool}
    (hsign : text = digits ++ rest ∧ negative = false ∧ there = offset ∨
      text = '+' :: (digits ++ rest) ∧ negative = false ∧ there = offset + 1 ∨
      text = '-' :: (digits ++ rest) ∧ negative = true ∧ there = offset + 1) :
    readExponent ⟨text, offset⟩ =
      .ok (⟨if negative then -(digitsValue 0 digits : Int) else digitsValue 0 digits,
        there + countedDigits 0 digits⟩, ⟨rest, there + digits.length⟩) := by
  obtain ⟨c, cs, rfl⟩ := List.exists_cons_of_ne_nil hne
  have hplus : c ≠ '+' := by
    rintro rfl
    exact absurd (hdigits '+' List.mem_cons_self) (by decide)
  have hminus : c ≠ '-' := by
    rintro rfl
    exact absurd (hdigits '-' List.mem_cons_self) (by decide)
  obtain ⟨rfl, rfl, rfl⟩ | ⟨rfl, rfl, rfl⟩ | ⟨rfl, rfl, rfl⟩ := hsign
  · have hread : Place.digits ⟨c :: (cs ++ rest), there⟩ =
        (c :: cs, ⟨rest, there + (c :: cs).length⟩) := digits_append there hdigits hrest
    simp [readExponent, hplus, hminus, hread]
  · simp only [readExponent, Place.drop_one_cons, digits_append _ hdigits hrest]
  · simp only [readExponent, Place.drop_one_cons, digits_append _ hdigits hrest]

theorem readExponent_integerChars (layout : FloatLayout) (exponent : Int)
    (hrest : ∀ c ∈ rest.head?, c.isDigit = false) :
    ∃ counted behind,
      readExponent ⟨(if layout.plusExponent && 0 ≤ exponent then ['+'] else []) ++
          integerChars exponent ++ rest, offset⟩ =
        .ok (⟨exponent, counted⟩, ⟨rest, behind⟩) := by
  have hdigits : ∀ c ∈ Nat.toDigits 10 exponent.natAbs, c.isDigit = true :=
    fun _ hc => isDigit_of_mem_toDigits hc
  have hread := @readExponent_digits rest offset _ hdigits Nat.toDigits_ne_nil hrest
  simp only [digitsValue_toDigits] at hread
  obtain hsign | hsign := lt_or_ge exponent 0
  · have hvalue : -(exponent.natAbs : Int) = exponent := by omega
    rw [if_neg (by simp [hsign]), integerChars, if_pos hsign, List.nil_append, List.cons_append,
      hread (.inr (.inr ⟨rfl, rfl, rfl⟩)), if_pos rfl, hvalue]
    exact ⟨_, _, rfl⟩
  · have hvalue : (exponent.natAbs : Int) = exponent := by omega
    rw [integerChars, if_neg (not_lt.mpr hsign)]
    split_ifs
    · rw [List.singleton_append, List.cons_append, hread (.inr (.inl ⟨rfl, rfl, rfl⟩)),
        if_neg Bool.false_ne_true, hvalue]
      exact ⟨_, _, rfl⟩
    · rw [List.nil_append, hread (.inl ⟨rfl, rfl, rfl⟩), if_neg Bool.false_ne_true, hvalue]
      exact ⟨_, _, rfl⟩

/-- A numeral is read up to its end. -/
theorem readNumeral_of_isNumeral {α : Type} {value? : List Char → List Char → Option Int → Option α}
    (layout : FloatLayout) {before after : List Char} (hnumeral : IsNumeral before after)
    {exponent : Option Int} {value : α} (hvalue : value? before after exponent = some value)
    (hrest : Stops rest) :
    ∃ behind, readNumeral value?
        ⟨pointed before after ++ layout.exponentChars exponent ++ rest, offset⟩ =
      .ok (value, ⟨rest, behind⟩) := by
  obtain ⟨c, cs, rfl, hzero⟩ := hnumeral.begins
  have hbefore : ∀ d ∈ c :: cs, d.isDigit = true :=
    fun d hd => hnumeral.digits d (List.mem_append_left _ hd)
  have hafter : ∀ d ∈ after, d.isDigit = true :=
    fun d hd => hnumeral.digits d (List.mem_append_right _ hd)
  have hexponent : ∀ d ∈ (layout.exponentChars exponent ++ rest).head?,
      d.isDigit = false ∧ d ≠ '.' := by
    cases exponent with
    | none => exact fun d hd => ⟨(hrest d hd).1, (hrest d hd).2.1⟩
    | some exponent =>
      intro d hd
      cases hd
      decide
  have hpoint : ∀ d ∈ ((if after = [] then [] else '.' :: after) ++
      (layout.exponentChars exponent ++ rest)).head?, d.isDigit = false := by
    split_ifs
    · exact fun d hd => (hexponent d hd).1
    · intro d hd
      cases hd
      decide
  have hfraction : ∃ behind, readFraction
      ⟨(if after = [] then [] else '.' :: after) ++ (layout.exponentChars exponent ++ rest),
        offset + (c :: cs).length⟩ =
      .ok (after, ⟨layout.exponentChars exponent ++ rest, behind⟩) := by
    split_ifs with hnil
    · subst hnil
      exact ⟨_, readFraction_stop _ fun d hd => (hexponent d hd).2⟩
    · exact ⟨_, readFraction_digits _ hafter hnil fun d hd => (hexponent d hd).1⟩
  obtain ⟨behind, hfraction⟩ := hfraction
  have hdigits := digits_append offset hbefore hpoint
  simp only [pointed, List.append_assoc, readNumeral, hdigits]
  have hbegins : ∀ d ds, c :: cs = '0' :: d :: ds → False := by
    intro d ds h
    cases h
    exact absurd (hzero rfl) (List.cons_ne_nil _ _)
  split
  · next h _ => cases h
  · next h _ => cases h
  · next h => exact (hbegins _ _ h).elim
  · rw [hfraction, ok_bind]
    cases exponent with
    | none =>
      simp only [FloatLayout.exponentChars, List.nil_append]
      split
      · next h => exact absurd rfl (hrest 'e' (by simp)).2.2.1
      · next h => exact absurd rfl (hrest 'E' (by simp)).2.2.2
      · rw [hvalue]
        exact ⟨_, rfl⟩
    | some exponent =>
      obtain ⟨counted, behind, hexponent⟩ :=
        readExponent_integerChars (behind + 1) layout exponent fun d hd => (hrest d hd).1
      simp only [FloatLayout.exponentChars, List.cons_append, Place.drop_one_cons]
      rw [hexponent, ok_bind, hvalue]
      exact ⟨_, rfl⟩

end

/-! ### Numbers as they are meant -/

/-- The value of a number: the whole number that it is, or the float nearest to its decimal. -/
def nearestNumber? (negative : Bool) (before after : List Char) (exponent : Option Int) :
    Option Number :=
  if after = [] ∧ exponent = none then some (wholeNumber negative (digitsValue 0 before))
  else
    some (.float (nearestDecimal negative (digitsValue 0 (before ++ after))
      (exponent.getD 0 - after.length)))

/-- A reader of documents that gives every number the value it is meant to have. -/
def readExactly (depth : Nat) : Reader Json :=
  readValue (fun negative => readNumeral (nearestNumber? negative)) depth

theorem ne_of_isDigit {c d : Char} (hc : c.isDigit = true) (hd : d.isDigit = false) : c ≠ d := by
  rintro rfl
  exact absurd hc (by rw [hd]; exact Bool.false_ne_true)

theorem isGap_of_isDigit {c : Char} (hc : c.isDigit = true) : isGap c = false := by
  simp only [isGap, Bool.or_eq_false_iff, beq_eq_false_iff_ne]
  exact ⟨⟨⟨ne_of_isDigit hc rfl, ne_of_isDigit hc rfl⟩, ne_of_isDigit hc rfl⟩, ne_of_isDigit hc rfl⟩

theorem readValue_digit (number : Bool → Reader Number) (depth : Nat) {c : Char}
    (hc : c.isDigit = true) (cs : List Char) (offset : Nat) :
    readValue number depth ⟨c :: cs, offset⟩ = do
      let (value, place) ← number false ⟨c :: cs, offset⟩
      return (ofNumber value, place) := by
  rw [readValue, skip_cons (isGap_of_isDigit hc)]
  simp only
  split
  case h_1 h => cases h
  case h_9 h =>
    cases h
    rw [if_pos hc]
  all_goals
    next h =>
      cases h
      exact absurd hc (by decide)

section
variable (depth offset : Nat) {rest : List Char}

theorem readExactly_numeral (layout : FloatLayout) {negative : Bool} {before after : List Char}
    (hnumeral : IsNumeral before after) {exponent : Option Int} {value : Number}
    (hvalue : nearestNumber? negative before after exponent = some value) (hrest : Stops rest) :
    ∃ behind, readExactly depth ⟨(if negative then ['-'] else []) ++
        (pointed before after ++ layout.exponentChars exponent) ++ rest, offset⟩ =
      .ok (ofNumber value, ⟨rest, behind⟩) := by
  cases negative with
  | true =>
    obtain ⟨behind, hread⟩ := readNumeral_of_isNumeral (offset + 1) layout hnumeral hvalue hrest
    refine ⟨behind, ?_⟩
    rw [if_pos rfl, List.append_assoc, List.singleton_append, readExactly, readValue,
      skip_cons rfl]
    simp only [Place.drop_one_cons]
    rw [hread]
    rfl
  | false =>
    obtain ⟨behind, hread⟩ := readNumeral_of_isNumeral offset layout hnumeral hvalue hrest
    refine ⟨behind, ?_⟩
    obtain ⟨c, cs, rfl, -⟩ := hnumeral.begins
    have hc := hnumeral.digits c List.mem_cons_self
    rw [if_neg Bool.false_ne_true, List.nil_append]
    simp only [pointed, List.cons_append] at hread ⊢
    rw [readExactly, readValue_digit _ _ hc, hread]
    rfl

/-- A float is read from what is written of it. -/
theorem readExactly_float {value : Float} (h : Binary64.isFinite value = true)
    (hrest : Stops rest) :
    ∃ behind, readExactly depth ⟨FloatLayout.json.chars value ++ rest, offset⟩ =
      .ok (.float value, ⟨rest, behind⟩) := by
  obtain ⟨parts, hparts⟩ := Option.isSome_iff_exists.mp h
  obtain ⟨before, after, exponent, hchars, hnumeral, hform, hvalue⟩ :=
    FloatLayout.json.exists_numeral hparts rfl
  have hnumber : nearestNumber? parts.negative before after exponent = some (.float value) := by
    rw [nearestNumber?, if_neg fun hwhole => hform rfl hwhole.1 hwhole.2, hvalue]
  rw [hchars]
  exact readExactly_numeral depth offset _ hnumeral hnumber hrest

theorem isNumeral_toDigits (n : Nat) : IsNumeral (Nat.toDigits 10 n) [] where
  digits c hc := isDigit_of_mem_toDigits (by rwa [List.append_nil] at hc)
  begins := by
    obtain rfl | hn := Nat.eq_zero_or_pos n
    · exact ⟨'0', [], rfl, fun _ => rfl⟩
    · obtain ⟨c, cs, hchars⟩ := List.exists_cons_of_ne_nil
        (show Nat.toDigits 10 n ≠ [] from Nat.toDigits_ne_nil)
      refine ⟨c, cs, hchars, ?_⟩
      rintro rfl
      exact absurd (congrArg List.head? hchars) (head?_toDigits_ne hn.ne')

theorem ofNumber_wholeNumber (value : Int64) :
    ofNumber (wholeNumber (value.toInt < 0) value.toInt.natAbs) = .whole value := by
  have hleast : minWhole ≤ value.toInt := value.minValue_le_toInt
  simp only [minWhole] at hleast
  have hvalue : wholeNumber (value.toInt < 0) value.toInt.natAbs = .whole value.toInt := by
    obtain hsign | hsign := lt_or_ge value.toInt 0
    · rw [wholeNumber, if_neg (by simp [hsign]), if_neg (by omega)]
      congr 1
      omega
    · rw [wholeNumber, if_pos (by simp [hsign])]
      congr 1
      omega
  rw [hvalue]
  simp only [ofNumber, whole?_toInt]

/-- An integer of 64 bits is read from its digits. -/
theorem readExactly_whole (value : Int64) (hrest : Stops rest) :
    ∃ behind, readExactly depth ⟨integerChars value.toInt ++ rest, offset⟩ =
      .ok (.whole value, ⟨rest, behind⟩) := by
  have hchars : integerChars value.toInt = (if decide (value.toInt < 0) then ['-'] else []) ++
      (pointed (Nat.toDigits 10 value.toInt.natAbs) [] ++
        FloatLayout.json.exponentChars none) := by
    rw [integerChars, pointed, FloatLayout.exponentChars, if_pos rfl, List.append_nil,
      List.append_nil]
    simp only [decide_eq_true_eq]
    split_ifs <;> rfl
  rw [hchars, ← ofNumber_wholeNumber value]
  refine readExactly_numeral depth offset _ (isNumeral_toDigits _) ?_ hrest
  rw [nearestNumber?, if_pos ⟨rfl, rfl⟩, digitsValue_toDigits]

end

end RowRecipe.Json
