import RowRecipe.Proofs.Execution
import RowRecipe.Proofs.FloatOrder
import RowRecipe.Proofs.Numerals

/-!
# Whole numbers in texts

A sign and digits denote an integer, however many digits there are. What is read from them is that
integer if it is a whole number, else the float nearest to it. As rounding keeps the order, such a
float is on the same side of the least and of the largest whole number as the integer, or on one of
them. A number that an argument should be whole for is then refused; the conversion of cells takes
the integers that round to the least whole number for that one.

Main statements: `Cell.convert?_whole_of_denotes` and `Arguments.wholeFrom_of_denotes`.
-/
namespace RowRecipe

/-- A sign, which may be missing, and digits, and the integer that they denote. -/
inductive Denotes : List Char → Int → Prop where
  | unsigned {digits : List Char} : digits ≠ [] → (∀ c ∈ digits, c.isDigit = true) →
      Denotes digits (Nat.ofDigitChars 10 digits 0)
  | plus {digits : List Char} : digits ≠ [] → (∀ c ∈ digits, c.isDigit = true) →
      Denotes ('+' :: digits) (Nat.ofDigitChars 10 digits 0)
  | minus {digits : List Char} : digits ≠ [] → (∀ c ∈ digits, c.isDigit = true) →
      Denotes ('-' :: digits) (-(Nat.ofDigitChars 10 digits 0 : Int))

/-! ### Reading -/

section
variable {cs digits : List Char} {negative : Bool} {n : Int}

theorem takeSign_of_isDigit {c : Char} (h : c.isDigit = true) (cs : List Char) :
    takeSign (c :: cs) = (false, c :: cs) := by
  unfold takeSign
  split
  · next heq =>
    cases heq
    exact absurd h (by decide)
  · next heq =>
    cases heq
    exact absurd h (by decide)
  · rfl

theorem takeSign_digits (h : ∀ c ∈ digits, c.isDigit = true) :
    takeSign digits = (false, digits) := by
  cases digits with
  | nil => rfl
  | cons c cs => exact takeSign_of_isDigit (h c List.mem_cons_self) cs

theorem exists_takeSign_of_denotes (h : Denotes cs n) :
    ∃ negative digits, takeSign cs = (negative, digits) ∧ digits ≠ [] ∧
      (∀ c ∈ digits, c.isDigit = true) ∧
      n = if negative then -(digitsValue 0 digits : Int) else digitsValue 0 digits := by
  simp only [digitsValue_eq]
  cases h with
  | unsigned hne hdigits => exact ⟨false, cs, takeSign_digits hdigits, hne, hdigits, rfl⟩
  | plus hne hdigits => exact ⟨false, _, rfl, hne, hdigits, rfl⟩
  | minus hne hdigits => exact ⟨true, _, rfl, hne, hdigits, rfl⟩

theorem denotes_of_takeSign (hsign : takeSign cs = (negative, digits)) (hne : digits ≠ [])
    (hdigits : ∀ c ∈ digits, c.isDigit = true) :
    Denotes cs (if negative then -(digitsValue 0 digits : Int) else digitsValue 0 digits) := by
  simp only [digitsValue_eq]
  unfold takeSign at hsign
  split at hsign
  · cases hsign
    exact .minus hne hdigits
  · cases hsign
    exact .plus hne hdigits
  · cases hsign
    exact .unsigned hne hdigits

theorem readInteger?_eq_some_iff : readInteger? cs = some n ↔ Denotes cs n := by
  constructor
  · intro h
    unfold readInteger? at h
    split at h
    next negative digits hsign =>
    simp only [Option.ite_none_left_eq_some, Bool.not_eq_true', not_or, Bool.not_eq_false,
      List.all_eq_true] at h
    obtain ⟨⟨hne, hdigits⟩, h⟩ := h
    cases h
    exact denotes_of_takeSign hsign hne hdigits
  · intro h
    obtain ⟨negative, digits, hsign, hne, hdigits, rfl⟩ := exists_takeSign_of_denotes h
    have hall : digits.all Char.isDigit = true := List.all_eq_true.mpr hdigits
    simp [readInteger?, hsign, hne, hall]

theorem readWhole?_of_denotes (h : Denotes cs n) : readWhole? cs = whole? n := by
  rw [readWhole?, readInteger?_eq_some_iff.mpr h, Option.bind_some]

theorem toLower_of_isDigit {c : Char} (h : c.isDigit = true) : c.toLower = c := by
  refine Char.toLower_eq_of_not_isUpper ?_
  simp only [Char.isDigit, Bool.and_eq_true, decide_eq_true_iff] at h
  simp only [Char.isUpper, decide_eq_true_iff, not_and]
  intro hle
  exact absurd (UInt32.le_trans hle h.2) (by decide)

/-- Digits are no word for a float, and have neither a point nor an exponent. -/
theorem readFloat?_of_digits (hsign : takeSign cs = (negative, digits)) (hne : digits ≠ [])
    (hdigits : ∀ c ∈ digits, c.isDigit = true) :
    readFloat? cs = some (nearestDecimal negative (digitsValue 0 digits) 0) := by
  have hlower : digits.map Char.toLower = digits := by
    rw [List.map_congr_left fun c hc => toLower_of_isDigit (hdigits c hc), List.map_id']
  have hspan : digits.span Char.isDigit = (digits, []) := by
    rw [List.span_eq_takeWhile_dropWhile, List.takeWhile_eq_self_iff.mpr hdigits,
      List.dropWhile_eq_nil_iff.mpr hdigits]
  have hdecimal : readDecimal? negative digits =
      some (nearestDecimal negative (digitsValue 0 digits) 0) := by
    unfold readDecimal?
    rw [hspan]
    simp [readExponent?, hne]
  unfold readFloat?
  simp only [hsign, hlower]
  split
  · exact absurd (hdigits 'i' (by simp)) (by decide)
  · exact absurd (hdigits 'i' (by simp)) (by decide)
  · exact absurd (hdigits 'n' (by simp)) (by decide)
  · exact hdecimal

/-- A number that is infinite because of its length also rounds to infinity. -/
theorem nearestDecimal_whole (negative : Bool) (value : Nat) :
    nearestDecimal negative value 0 = Binary64.nearest negative value 1 := by
  have hpos : 0 < decimalLength value := Nat.length_toDigits_pos
  unfold nearestDecimal
  simp only
  split_ifs with hsmall hlong hsign
  · obtain rfl : value = 0 := by omega
    rfl
  · have hlarge : 10 ^ 309 ≤ value := by
      by_contra hlt
      have hlength := (Nat.length_toDigits_le_iff (by decide) (by decide)).mpr (not_le.mp hlt)
      unfold decimalLength at hlong
      omega
    have hinfinite : Binary64.nearestBits (10 ^ 309) 1 = Binary64.infinityBits := by
      decide +kernel
    refine (Binary64.nearest_eq_infinity (le_antisymm (Binary64.nearestBits_le _ _) ?_)).symm
    rw [← hinfinite]
    exact Binary64.nearestBits_mono_whole hlarge
  · simp
  · exact absurd le_rfl hsign

theorem ofInt_natCast (value : Nat) :
    Binary64.ofInt value = Binary64.nearest false value 1 := by
  rw [Binary64.ofInt, Int.natAbs_natCast, decide_eq_false (not_lt.mpr (Int.natCast_nonneg value))]

theorem ofInt_neg_natCast {value : Nat} (h : value ≠ 0) :
    Binary64.ofInt (-value) = Binary64.nearest true value 1 := by
  rw [Binary64.ofInt, Int.natAbs_neg, Int.natAbs_natCast, decide_eq_true (by omega)]

/-- A text is read as the float nearest to the integer that it denotes; only a zero may have a sign
of its own. -/
theorem readFloat?_of_denotes (h : Denotes cs n) (hzero : n ≠ 0) :
    readFloat? cs = some (Binary64.ofInt n) := by
  obtain ⟨negative, digits, hsign, hne, hdigits, rfl⟩ := exists_takeSign_of_denotes h
  rw [readFloat?_of_digits hsign hne hdigits, nearestDecimal_whole]
  cases negative with
  | false => rw [if_neg Bool.false_ne_true, ofInt_natCast]
  | true =>
    rw [if_pos rfl] at hzero ⊢
    rw [ofInt_neg_natCast (by omega)]

theorem readFloat?_of_beyond (h : Denotes cs n) (hrange : n < minWhole ∨ maxWhole < n) :
    readFloat? cs = some (Binary64.ofInt n) := by
  refine readFloat?_of_denotes h ?_
  simp only [minWhole, maxWhole] at hrange
  omega

end

/-! ### Integers that are no whole numbers -/

namespace Binary64

variable {n : Int} {parts : Parts}

theorem two_pow_le_natAbs (h : n < minWhole ∨ maxWhole < n) : 2 ^ 63 ≤ n.natAbs := by
  simp only [minWhole, maxWhole] at h
  omega

/-- What an integer beyond the range rounds to is not smaller than the limits of the range. -/
theorem not_abs_lt_limit (h : n < minWhole ∨ maxWhole < n)
    (hparts : parts? (ofInt n) = some parts) : ¬(ofInt n).abs < ofInt (Int.pow 2 63) := by
  have hlimit : ofInt (Int.pow 2 63) = nearest false (2 ^ 63) 1 := ofInt_natCast (2 ^ 63)
  obtain ⟨limit, hlimitParts, hnegative, hlimitBits⟩ :=
    exists_parts?_nearest (show nearestBits (2 ^ 63) 1 < infinityBits by decide +kernel) false
  rw [hlimit, lt_iff_bits_lt (parts?_abs hparts) hlimitParts (.inl rfl) (.inl hnegative), not_lt,
    hlimitBits]
  exact (nearestBits_mono_whole (two_pow_le_natAbs h)).trans (of_parts?_nearest hparts).2.ge

/-- Integers from the middle between the largest float and twice the largest power of two on are
infinite. -/
theorem nearestBits_lt_infinity_iff {m : Nat} :
    nearestBits m 1 < infinityBits ↔ m < 2 ^ 1024 - 2 ^ 970 := by
  constructor
  · intro hfinite
    by_contra hlarge
    have hinfinite : nearestBits (2 ^ 1024 - 2 ^ 970) 1 = infinityBits := by decide +kernel
    have hle := nearestBits_mono_whole (not_lt.mp hlarge)
    rw [hinfinite] at hle
    exact absurd hle (not_le.mpr hfinite)
  · intro hsmall
    have hfinite : nearestBits (2 ^ 1024 - 2 ^ 970 - 1) 1 < infinityBits := by decide +kernel
    exact (nearestBits_mono_whole (Nat.le_sub_one_of_lt hsmall)).trans_lt hfinite

theorem exists_parts?_ofInt (h : n.natAbs < 2 ^ 1024 - 2 ^ 970) :
    ∃ parts, parts? (ofInt n) = some parts := by
  obtain ⟨parts, hparts, -⟩ := exists_parts?_nearest (nearestBits_lt_infinity_iff.mpr h) (n < 0)
  exact ⟨parts, hparts⟩

theorem parts?_ofInt_eq_none (h : 2 ^ 1024 - 2 ^ 970 ≤ n.natAbs) : parts? (ofInt n) = none := by
  have hinfinite : nearestBits n.natAbs 1 = infinityBits :=
    (nearestBits_le _ _).eq_of_not_lt (nearestBits_lt_infinity_iff.not.mpr (not_lt.mpr h))
  rw [ofInt, nearest_eq_infinity hinfinite, parts?_infinity]

/-- Truncating the float nearest to a number gives no less than truncating that of a smaller one. -/
theorem scaledFloor_ofInt_ge (least : Parts) (m : Nat) (hfits : least.Fits)
    (hbits : nearestBits m 1 = least.bits) (hle : m ≤ n.natAbs)
    (hparts : parts? (ofInt n) = some parts) : least.scaledFloor 0 ≤ parts.scaledFloor 0 := by
  refine hfits.scaledFloor_le (fits_of_parts? hparts) ?_ 0
  rw [← hbits, (of_parts?_nearest hparts).2]
  exact nearestBits_mono_whole hle

/-- The integers just below the range round to the least whole number. That one ends in eleven zeros
as a binary number, so the next float is 2048 below it, and what is in the middle between the two
rounds to the even one. -/
theorem ofInt_of_rounds (hlow : minWhole - 1024 ≤ n) (hhigh : n < minWhole) :
    ofInt n = ofInt minWhole := by
  have hmiddle : nearestBits (2 ^ 63 + 1024) 1 = nearestBits (2 ^ 63) 1 := by decide +kernel
  have hbits : nearestBits n.natAbs 1 = nearestBits (2 ^ 63) 1 := by
    refine le_antisymm ?_ (nearestBits_mono_whole (two_pow_le_natAbs (.inl hhigh)))
    rw [← hmiddle]
    refine nearestBits_mono_whole ?_
    simp only [minWhole] at hlow hhigh
    omega
  have hnegative : decide (n < 0) = true := by
    simp only [minWhole] at hhigh
    exact decide_eq_true (by omega)
  rw [ofInt, ofInt, nearest, nearest, hbits, hnegative]
  rfl

/-- The other integers beyond the range have no whole number to be truncated to. -/
theorem truncated?_ofInt_eq_none (h : n < minWhole - 1024 ∨ maxWhole < n) :
    truncated? (ofInt n) = none := by
  rw [truncated?, Option.bind_eq_none_iff]
  intro parts hparts
  have hnegative : parts.negative = decide (n < 0) := (of_parts?_nearest hparts).1
  rw [whole?_eq_none_iff, Parts.truncate_eq, hnegative]
  simp only [minWhole, maxWhole] at h ⊢
  obtain hbelow | habove := h
  · have hsize := scaledFloor_ofInt_ge ⟨true, 2 ^ 52 + 1, 11⟩ (2 ^ 63 + 1025)
      ⟨by decide, by decide, by decide, .inr (by decide)⟩ (by decide +kernel) (by omega) hparts
    have hleast : Parts.scaledFloor ⟨true, 2 ^ 52 + 1, 11⟩ 0 = 2 ^ 63 + 2048 := by decide
    rw [hleast] at hsize
    rw [if_pos (decide_eq_true (by omega))]
    omega
  · have hsize := scaledFloor_ofInt_ge ⟨false, 2 ^ 52, 11⟩ (2 ^ 63)
      ⟨by decide, by decide, by decide, .inr (by decide)⟩ (by decide +kernel) (by omega) hparts
    have hleast : Parts.scaledFloor ⟨false, 2 ^ 52, 11⟩ 0 = 2 ^ 63 := by decide
    rw [hleast] at hsize
    rw [if_neg (by simp; omega)]
    omega

end Binary64

/-! ### Conversion of cells -/

theorem wholeOfText?_of_denotes {cs : List Char} {n : Int} (h : Denotes cs n) :
    wholeOfText? cs =
      if minWhole - 1024 ≤ n ∧ n < minWhole then some Int64.minValue else whole? n := by
  unfold wholeOfText?
  rw [readWhole?_of_denotes h]
  split
  · next w hw =>
    have hn : w.toInt = n := toInt_of_whole? hw
    have hle : minWhole ≤ w.toInt := w.minValue_le_toInt
    rw [if_neg (by omega), hw]
  · next hnone =>
    have hrange := whole?_eq_none_iff.mp hnone
    rw [readFloat?_of_beyond h hrange, hnone]
    split_ifs with hrounds
    · rw [Binary64.ofInt_of_rounds hrounds.1 hrounds.2]
      decide +kernel
    · have htruncated : Binary64.truncated? (Binary64.ofInt n) = none :=
        Binary64.truncated?_ofInt_eq_none (by omega)
      rw [Option.bind_eq_none_iff]
      intro value hvalue
      obtain ⟨hvalue, -⟩ := Option.filter_eq_some_iff.mp hvalue
      rwa [← Option.some.inj hvalue]

namespace Cell

/-- The whole number that an integer in a text becomes: the integer itself, or the least whole
number if it rounds to that. -/
def Becomes (n : Int) (value : Int64) : Prop :=
  value.toInt = n ∨ minWhole - 1024 ≤ n ∧ n < minWhole ∧ value = Int64.minValue

variable {text column : String} {n : Int}

theorem convert?_whole_text (text : String) :
    (Cell.text text).convert? .whole = (wholeOfText? (Text.trimChars text.toList)).map .whole := rfl

theorem convert?_whole_eq_some_iff (h : Denotes (Text.trimChars text.toList) n) {cell : Cell} :
    (Cell.text text).convert? .whole = some cell ↔
      ∃ value, cell = .whole value ∧ Becomes n value := by
  rw [convert?_whole_text, wholeOfText?_of_denotes h, Option.map_eq_some_iff]
  refine exists_congr fun value => ?_
  rw [and_comm, eq_comm (a := cell)]
  refine and_congr_right fun _ => ?_
  unfold Becomes
  split_ifs with hrounds
  · have hle : minWhole ≤ value.toInt := value.minValue_le_toInt
    rw [Option.some_inj, or_iff_right (by omega), eq_comm]
    simp [hrounds]
  · rw [whole?_eq_some_iff]
    tauto

theorem convert?_whole_eq_none_iff (h : Denotes (Text.trimChars text.toList) n) :
    (Cell.text text).convert? .whole = none ↔ n < minWhole - 1024 ∨ maxWhole < n := by
  have hleast : minWhole ≤ maxWhole := by decide
  rw [convert?_whole_text, wholeOfText?_of_denotes h, Option.map_eq_none_iff]
  split_ifs with hrounds
  · rw [false_iff]
    omega
  · rw [whole?_eq_none_iff]
    omega

/-- What a batch that comes out has for such a text. -/
theorem exists_of_execute_setType (h : Denotes (Text.trimChars text.toList) n) {rows : List Row}
    {store after : Store} {i : Nat} {row : Row} {outcomes : List Outcome}
    (hrow : rows[i]? = some row) (hcell : row.get? column = some (.text text))
    (hx : (Directive.builtin (.row (.setType column .whole))).execute rows store =
      (.ok outcomes, after)) :
    ∃ position value, row.find? column = some position ∧ Becomes n value ∧
      outcomes[i]? = some (.keep (row.setAt position (.whole value))) := by
  obtain ⟨changed, hchanged, houtcome⟩ := RowDirective.exists_outcome_of_applyAll_setType
    (Directive.execute_row_eq_ok.mp hx).1 hrow
  obtain ⟨position, found, converted, hrequire, hconverted, rfl⟩ :=
    row.convertColumn_eq_ok.mp hchanged
  obtain ⟨hposition, hfound⟩ := Row.require_eq_ok.mp hrequire
  obtain rfl : found = .text text := Option.some.inj (hfound.symm.trans hcell)
  obtain ⟨value, rfl, hvalue⟩ := (convert?_whole_eq_some_iff h).mp hconverted
  exact ⟨position, value, hposition, hvalue, houtcome⟩

/-- A text of a sign and digits becomes the very integer that it denotes, or is refused and the
batch with it, unless it is below the least whole number and rounds to that. -/
theorem convert?_whole_of_denotes (h : Denotes (Text.trimChars text.toList) n) :
    (∀ cell, (Cell.text text).convert? .whole = some cell ↔
      ∃ value, cell = .whole value ∧ Becomes n value) ∧
    ((Cell.text text).convert? .whole = none ↔ n < minWhole - 1024 ∨ maxWhole < n) ∧
    ∀ (column : String) (rows : List Row) (store : Store) (i : Nat) (row : Row),
      rows[i]? = some row → row.get? column = some (.text text) →
      (n < minWhole - 1024 ∨ maxWhole < n →
        ∃ fault, (Directive.builtin (.row (.setType column .whole))).execute rows store =
          (.error fault, store)) ∧
      ∀ outcomes after, (Directive.builtin (.row (.setType column .whole))).execute rows store =
          (.ok outcomes, after) →
        ∃ position value, row.find? column = some position ∧ Becomes n value ∧
          outcomes[i]? = some (.keep (row.setAt position (.whole value))) := by
  refine ⟨fun cell => convert?_whole_eq_some_iff h, convert?_whole_eq_none_iff h, ?_⟩
  intro column rows store i row hrow hcell
  refine ⟨?_, fun outcomes after hx => exists_of_execute_setType h hrow hcell hx⟩
  intro hrange
  rcases hx : (Directive.builtin (.row (.setType column .whole))).execute rows store with
    ⟨_ | outcomes, after⟩
  · next fault =>
    obtain ⟨-, -, -, rfl⟩ := Directive.execute_row_eq_error.mp hx
    exact ⟨fault, rfl⟩
  · obtain ⟨-, value, -, hvalue, -⟩ := exists_of_execute_setType h hrow hcell hx
    have hsome := (convert?_whole_eq_some_iff h).mpr ⟨value, rfl, hvalue⟩
    rw [(convert?_whole_eq_none_iff h).mpr hrange] at hsome
    cases hsome

/-- A text of an integer too large by one ends the batch. -/
theorem convert?_whole_of_denotes_above :
    Denotes (Text.trimChars " +9223372036854775808".toList) 9223372036854775808 ∧
      (Cell.text " +9223372036854775808").convert? .whole = none ∧
      ∃ fault, (Directive.builtin (.row (.setType "n" .whole))).execute
        [[("n", .text "7")], [("n", .text " +9223372036854775808")]] .empty =
          (.error fault, .empty) := by
  have hdenotes : Denotes (Text.trimChars " +9223372036854775808".toList) 9223372036854775808 :=
    readInteger?_eq_some_iff.mp rfl
  have habove : (9223372036854775808 : Int) < minWhole - 1024 ∨
      maxWhole < (9223372036854775808 : Int) := .inr (by decide)
  obtain ⟨-, hnone, hbatch⟩ := convert?_whole_of_denotes hdenotes
  exact ⟨hdenotes, hnone.mpr habove, (hbatch "n" _ _ 1 _ rfl rfl).1 habove⟩

/-- The integer below the least whole number rounds to it, and its text is converted to that. -/
theorem convert?_whole_below_least :
    Denotes (Text.trimChars "-9223372036854775809".toList) (-9223372036854775809) ∧
      -9223372036854775809 < minWhole ∧
      (Cell.text "-9223372036854775809").convert? .whole = some (.whole Int64.minValue) := by
  have hdenotes : Denotes (Text.trimChars "-9223372036854775809".toList) (-9223372036854775809) :=
    readInteger?_eq_some_iff.mp rfl
  refine ⟨hdenotes, by decide, (convert?_whole_eq_some_iff hdenotes).mpr ⟨_, rfl, .inr ?_⟩⟩
  exact ⟨by decide, by decide, rfl⟩

end Cell

/-! ### Arguments -/

namespace Arguments

/-- The whole number that a directive gets of a parameter which a token is given to. -/
def wholeFrom (arguments : Arguments) (name token : String) : Except ArgumentError Int64 := do
  let argument ← Argument.read .number name token
  { arguments with values := arguments.values.insert name argument }.whole name

variable {token : String} {n : Int}

theorem wholeFrom_eq (arguments : Arguments) (name token : String) :
    arguments.wholeFrom name token =
    match Argument.readNumber? token with
    | none => .error (.invalidNumber name token)
    | some argument =>
      match argument.whole? with
      | some value => .ok value
      | none => .error (.wrongKind name .integer) := by
  unfold wholeFrom
  rw [Argument.read]
  cases Argument.readNumber? token with
  | none => rfl
  | some argument =>
    simp only [ok_bind, whole, view, require, SortedMap.get?_insert, if_true]
    cases argument.whole? <;> rfl

theorem readNumber?_of_denotes (h : Denotes (Text.trimChars token.toList) n) :
    Argument.readNumber? token =
      match whole? n with
      | some value => some (.whole value)
      | none =>
        if Binary64.isFinite (Binary64.ofInt n) then some (.float (Binary64.ofInt n))
        else none := by
  unfold Argument.readNumber? readFinite?
  simp only
  rw [readWhole?_of_denotes h]
  cases hwhole : whole? n with
  | some value => rfl
  | none =>
    have hrange := whole?_eq_none_iff.mp hwhole
    simp only [readFloat?_of_beyond h hrange, Option.filter_some,
      apply_ite (Option.map Argument.float), Option.map_some, Option.map_none]

theorem isFinite_ofInt : Binary64.isFinite (Binary64.ofInt n) = true ↔
    n.natAbs < 2 ^ 1024 - 2 ^ 970 := by
  rw [Binary64.isFinite, Option.isSome_iff_exists]
  refine ⟨fun ⟨parts, hparts⟩ => ?_, Binary64.exists_parts?_ofInt⟩
  by_contra hlarge
  rw [Binary64.parts?_ofInt_eq_none (not_lt.mp hlarge)] at hparts
  cases hparts

theorem wholeFrom_of_beyond (h : Denotes (Text.trimChars token.toList) n)
    (hrange : n < minWhole ∨ maxWhole < n) (arguments : Arguments) (name : String) :
    arguments.wholeFrom name token =
      .error (if n.natAbs < 2 ^ 1024 - 2 ^ 970 then .wrongKind name .integer
        else .invalidNumber name token) := by
  rw [wholeFrom_eq, readNumber?_of_denotes h, whole?_eq_none_iff.mpr hrange]
  by_cases hfinite : n.natAbs < 2 ^ 1024 - 2 ^ 970
  · obtain ⟨parts, hparts⟩ := Binary64.exists_parts?_ofInt hfinite
    have hkind : Argument.whole? (.float (Binary64.ofInt n)) = none :=
      if_neg fun hwhole => Binary64.not_abs_lt_limit hrange hparts hwhole.2
    simp only [if_pos hfinite, if_pos (isFinite_ofInt.mpr hfinite), hkind]
  · simp only [if_neg hfinite, if_neg (isFinite_ofInt.not.mpr hfinite)]

/-- What a parameter is given as digits is read as the very integer that they denote, or refused:
because it is no whole number, or because not even a float is as large. -/
theorem wholeFrom_of_denotes (h : Denotes (Text.trimChars token.toList) n) (arguments : Arguments)
    (name : String) :
    (∀ value, arguments.wholeFrom name token = .ok value ↔ value.toInt = n) ∧
      (n < minWhole ∨ maxWhole < n → arguments.wholeFrom name token =
        .error (if n.natAbs < 2 ^ 1024 - 2 ^ 970 then .wrongKind name .integer
          else .invalidNumber name token)) := by
  refine ⟨?_, fun hrange => wholeFrom_of_beyond h hrange arguments name⟩
  intro value
  cases hwhole : whole? n with
  | some found =>
    rw [wholeFrom_eq, readNumber?_of_denotes h, hwhole, ← toInt_of_whole? hwhole]
    simp [Argument.whole?, Int64.toInt_inj, eq_comm]
  | none =>
    have hrange := whole?_eq_none_iff.mp hwhole
    rw [wholeFrom_of_beyond h hrange, ← whole?_eq_some_iff, hwhole]
    simp only [reduceCtorEq]

/-- The least whole number is read, and the number below it is no whole number. -/
theorem wholeFrom_of_denotes_least :
    (Denotes (Text.trimChars " -9223372036854775808".toList) (-9223372036854775808) ∧
      wholeFrom ⟨.empty, ""⟩ "value" " -9223372036854775808" = .ok Int64.minValue) ∧
    (Denotes (Text.trimChars "-9223372036854775809".toList) (-9223372036854775809) ∧
      wholeFrom ⟨.empty, ""⟩ "value" "-9223372036854775809" =
        .error (.wrongKind "value" .integer)) := by
  have hleast : Denotes (Text.trimChars " -9223372036854775808".toList) (-9223372036854775808) :=
    readInteger?_eq_some_iff.mp rfl
  have hbelow : Denotes (Text.trimChars "-9223372036854775809".toList) (-9223372036854775809) :=
    readInteger?_eq_some_iff.mp rfl
  refine ⟨⟨hleast, ((wholeFrom_of_denotes hleast _ _).1 _).mpr (by decide)⟩, hbelow, ?_⟩
  exact ((wholeFrom_of_denotes hbelow _ _).2 (.inl (by decide))).trans
    (congrArg Except.error (if_pos (by decide +kernel)))

end Arguments

end RowRecipe
