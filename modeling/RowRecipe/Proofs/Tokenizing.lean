import Mathlib.Data.List.Basic
import RowRecipe.Proofs.Fallible
import RowRecipe.Recipe.Token
import RowRecipe.Text.Utf8

/-!
# Tokens of a line in parts

A line is read character by character, but for a backslash and the quote behind it, which are read
together (`escapeInduction`). What follows a part of a line is read in the state that the part
leaves (`exists_tokenizeFrom_append`). Where the part is read completely and a blank follows it, no
token is begun and no quote is open, so the rest is read as it is alone, further right.

Main statements: `tokenize_append_gap`, `tokenize_append_blanks`.
-/
namespace RowRecipe

/-- The error when there are some more bytes in front of the line. -/
def TokenError.raise (count : Nat) : TokenError → TokenError
  | .unterminatedQuote quote offset => .unterminatedQuote quote (offset + count)

/-- What a character of a line does that is no part of an escape: the tokens that it ends, the quote
that is open behind it and the token that has begun. -/
structure TokenStep where
  done : List (List Char)
  quote : Option (Char × Nat)
  token : Option (List Char)

def tokenStep (offset : Nat) (quote : Option (Char × Nat)) (token : Option (List Char)) (c : Char) :
    TokenStep :=
  match quote with
  | some (opening, start) =>
    if c = opening then ⟨[], none, token⟩ else ⟨[], some (opening, start), extendToken token c⟩
  | none =>
    if isQuote c then ⟨[], some (c, offset), some (token.getD [])⟩
    else if Text.isBlank c then ⟨token.toList, none, none⟩
    else ⟨[], none, extendToken token c⟩

/-- A character that is no backslash in front of a quote. -/
def IsPlain (c : Char) (cs : List Char) : Prop :=
  c = '\\' → ∀ q ∈ cs.head?, isQuote q = false

/-- A place between two texts where no backslash stands in front of a quote. -/
def IsCut (a b : List Char) : Prop :=
  a.getLast? = some '\\' → ∀ q ∈ b.head?, isQuote q = false

section
variable {offset : Nat} {quote : Option (Char × Nat)} {token : Option (List Char)}
variable {a b cs gap : List Char} {c d q : Char} {tokens : List (List Char)}

theorem isQuote_eq_false_iff : isQuote c = false ↔ c ≠ '\'' ∧ c ≠ '"' := by
  simp [isQuote]

theorem isQuote_of_isBlank (hc : Text.isBlank c = true) : isQuote c = false := by
  rw [isQuote_eq_false_iff]
  constructor <;>
  · rintro rfl
    exact absurd hc (by decide)

/-- A text is read by escapes and single characters. -/
theorem escapeInduction {motive : List Char → Prop} (nil : motive [])
    (escape : ∀ q cs, isQuote q = true → motive cs → motive ('\\' :: q :: cs))
    (plain : ∀ c cs, IsPlain c cs → motive cs → motive (c :: cs)) : ∀ cs, motive cs
  | [] => nil
  | [c] => plain c [] (fun _ q hq => nomatch hq) nil
  | c :: q :: cs => by
    by_cases hescape : c = '\\' ∧ isQuote q = true
    · obtain ⟨rfl, hq⟩ := hescape
      exact escape q cs hq (escapeInduction nil escape plain cs)
    · refine plain c (q :: cs) ?_ (escapeInduction nil escape plain (q :: cs))
      rintro hback _ ⟨⟩
      simpa [hback] using hescape

theorem tokenizeFrom_escape (hq : isQuote q = true) (offset : Nat) (quote : Option (Char × Nat))
    (token : Option (List Char)) (cs : List Char) :
    tokenizeFrom offset quote token ('\\' :: q :: cs) =
      tokenizeFrom (offset + 2) quote (extendToken token q) cs := by
  rw [isQuote, Bool.or_eq_true, beq_iff_eq, beq_iff_eq] at hq
  rcases hq with rfl | rfl
  · rw [tokenizeFrom]
  · rw [tokenizeFrom]

theorem width_escape (hq : isQuote q = true) (cs : List Char) :
    Utf8.width ('\\' :: q :: cs) = 2 + Utf8.width cs := by
  rw [Utf8.width_cons, Utf8.width_cons, ← Nat.add_assoc]
  rw [isQuote, Bool.or_eq_true, beq_iff_eq, beq_iff_eq] at hq
  rcases hq with rfl | rfl <;> rfl

theorem map_nil_append {ε α : Type} (x : Except ε (List α)) : x.map ([] ++ ·) = x := by
  cases x <;> rfl

theorem tokenizeFrom_plain (h : IsPlain c cs) (offset : Nat) (quote : Option (Char × Nat))
    (token : Option (List Char)) :
    tokenizeFrom offset quote token (c :: cs) =
      (tokenizeFrom (offset + c.utf8Size) (tokenStep offset quote token c).quote
        (tokenStep offset quote token c).token cs).map
          ((tokenStep offset quote token c).done ++ ·) := by
  have hsingle : ∀ rest, c = '\\' → cs = '\'' :: rest → False := by
    rintro rest hback rfl
    exact absurd (h hback _ rfl) (by decide)
  have hdouble : ∀ rest, c = '\\' → cs = '"' :: rest → False := by
    rintro rest hback rfl
    exact absurd (h hback _ rfl) (by decide)
  cases quote with
  | some opened =>
    rw [tokenizeFrom, tokenStep]
    · split <;> exact (map_nil_append _).symm
    · exact hsingle
    · exact hdouble
  | none =>
    rw [tokenizeFrom, tokenStep]
    · split
      · exact (map_nil_append _).symm
      · split
        · rfl
        · exact (map_nil_append _).symm
    · exact hsingle
    · exact hdouble

theorem isPlain_of_isQuote (hq : isQuote q = true) (cs : List Char) : IsPlain q cs := by
  rintro rfl
  exact absurd hq (by decide)

/-- Outside of quotes a quote begins a token, or belongs to the one that has begun. -/
theorem tokenizeFrom_opening (hq : isQuote q = true) (offset : Nat) (token : Option (List Char))
    (cs : List Char) :
    tokenizeFrom offset none token (q :: cs) =
      tokenizeFrom (offset + q.utf8Size) (some (q, offset)) (some (token.getD [])) cs := by
  have hstep : tokenStep offset none token q = ⟨[], some (q, offset), some (token.getD [])⟩ := by
    simp only [tokenStep, if_pos hq]
  rw [tokenizeFrom_plain (isPlain_of_isQuote hq cs), hstep, map_nil_append]

theorem tokenizeFrom_closing (hq : isQuote q = true) (offset start : Nat)
    (token : Option (List Char)) (cs : List Char) :
    tokenizeFrom offset (some (q, start)) token (q :: cs) =
      tokenizeFrom (offset + q.utf8Size) none token cs := by
  have hstep : tokenStep offset (some (q, start)) token q = ⟨[], none, token⟩ := by
    simp only [tokenStep, if_true]
  rw [tokenizeFrom_plain (isPlain_of_isQuote hq cs), hstep, map_nil_append]

/-- In quotes all other characters belong to the token. -/
theorem tokenizeFrom_inside (h : IsPlain c cs) (hc : c ≠ q) (offset start : Nat)
    (token : Option (List Char)) :
    tokenizeFrom offset (some (q, start)) token (c :: cs) =
      tokenizeFrom (offset + c.utf8Size) (some (q, start)) (extendToken token c) cs := by
  have hstep : tokenStep offset (some (q, start)) token c =
      ⟨[], some (q, start), extendToken token c⟩ := by
    simp only [tokenStep, if_neg hc]
  rw [tokenizeFrom_plain h, hstep, map_nil_append]

theorem tokenStep_word (hblank : Text.isBlank c = false) (hquote : isQuote c = false)
    (offset : Nat) (token : Option (List Char)) :
    tokenStep offset none token c = ⟨[], none, extendToken token c⟩ := by
  simp [tokenStep, hquote, hblank]

theorem tokenStep_raise (count offset : Nat) (quote : Option (Char × Nat))
    (token : Option (List Char)) (c : Char) :
    tokenStep (offset + count) (quote.map fun opened => (opened.1, opened.2 + count)) token c =
      ⟨(tokenStep offset quote token c).done,
        (tokenStep offset quote token c).quote.map fun opened => (opened.1, opened.2 + count),
        (tokenStep offset quote token c).token⟩ := by
  cases quote with
  | some opened =>
    simp only [tokenStep, Option.map_some]
    split <;> rfl
  | none =>
    simp only [tokenStep, Option.map_none]
    split
    · rfl
    · split <;> rfl

/-- Only the offsets of errors depend on the offset that a line is read from. -/
theorem tokenizeFrom_raise (count offset : Nat) (quote : Option (Char × Nat))
    (token : Option (List Char)) (cs : List Char) :
    tokenizeFrom (offset + count) (quote.map fun opened => (opened.1, opened.2 + count)) token cs =
      mapBoth id (·.raise count) (tokenizeFrom offset quote token cs) := by
  induction cs using escapeInduction generalizing offset quote token with
  | nil => cases quote <;> rfl
  | escape q cs hq ih =>
    rw [tokenizeFrom_escape hq, tokenizeFrom_escape hq, Nat.add_right_comm, ih]
  | plain c cs hplain ih =>
    rw [tokenizeFrom_plain hplain, tokenizeFrom_plain hplain, tokenStep_raise, Nat.add_right_comm,
      ih]
    cases tokenizeFrom (offset + c.utf8Size) (tokenStep offset quote token c).quote
      (tokenStep offset quote token c).token cs <;> rfl

/-- A blank ends a token that has begun, outside of quotes. -/
theorem tokenizeFrom_blank_cons (hc : Text.isBlank c = true) (offset : Nat)
    (token : Option (List Char)) (cs : List Char) :
    tokenizeFrom offset none token (c :: cs) =
      (tokenizeFrom (offset + c.utf8Size) none none cs).map (token.toList ++ ·) := by
  have hplain : IsPlain c cs := by
    rintro rfl
    exact absurd hc (by decide)
  have hstep : tokenStep offset none token c = ⟨token.toList, none, none⟩ := by
    simp [tokenStep, isQuote_of_isBlank hc, hc]
  rw [tokenizeFrom_plain hplain, hstep]

theorem isCut_nil (a : List Char) : IsCut a [] :=
  fun _ _ hq => nomatch hq

theorem isCut_of_not_quote (hd : isQuote d = false) (a b : List Char) : IsCut a (d :: b) := by
  rintro - _ ⟨⟩
  exact hd

theorem isCut_of_getLast?_ne (h : a.getLast? ≠ some '\\') (b : List Char) : IsCut a b :=
  fun hback => absurd hback h

theorem IsCut.tail (h : IsCut (c :: a) b) : IsCut a b :=
  fun hback => h (List.mem_getLast?_cons hback)

theorem IsPlain.append (h : IsPlain c a) (hcut : IsCut (c :: a) b) : IsPlain c (a ++ b) := by
  cases a with
  | nil => exact fun hback => hcut (congrArg some hback)
  | cons first a => exact h

theorem isCut_quote_iff (hq : isQuote q = true) : IsCut a (q :: b) ↔ a.getLast? ≠ some '\\' := by
  constructor
  · intro hcut hback
    have hnot : isQuote q = false := hcut hback q rfl
    rw [hq] at hnot
    cases hnot
  · exact fun h => isCut_of_getLast?_ne h (q :: b)

theorem IsPlain.of_append (h : IsPlain c (a ++ b)) : IsPlain c a :=
  fun hback q hq => h hback q (List.mem_head?_append_of_mem_head? hq)

theorem IsCut.cons (h : IsCut a b) (hplain : IsPlain c (a ++ b)) : IsCut (c :: a) b := by
  cases a with
  | nil => exact fun hback => hplain (Option.some.inj hback)
  | cons d a => rwa [IsCut, List.getLast?_cons_cons]

theorem IsCut.escape (h : IsCut a b) (hq : isQuote q = true) : IsCut ('\\' :: q :: a) b := by
  have hquote : IsCut (q :: a) b := h.cons (isPlain_of_isQuote hq (a ++ b))
  rwa [IsCut, List.getLast?_cons_cons]

/-- What stands behind a text is read from where the text ends, in the state that the text leaves.
A backslash at the end of the text is the only character that can depend on what follows. -/
theorem exists_tokenizeFrom_append (offset : Nat) (quote : Option (Char × Nat))
    (token : Option (List Char)) (a : List Char) :
    ∃ behind : TokenStep, ∀ b, IsCut a b →
      tokenizeFrom offset quote token (a ++ b) =
        (tokenizeFrom (offset + Utf8.width a) behind.quote behind.token b).map
          (behind.done ++ ·) := by
  induction a using escapeInduction generalizing offset quote token with
  | nil => exact ⟨⟨[], quote, token⟩, fun b _ => (map_nil_append _).symm⟩
  | escape q a hq ih =>
    obtain ⟨behind, hbehind⟩ := ih (offset + 2) quote (extendToken token q)
    refine ⟨behind, fun b hcut => ?_⟩
    rw [List.cons_append, List.cons_append, tokenizeFrom_escape hq, hbehind b hcut.tail.tail,
      width_escape hq, Nat.add_assoc]
  | plain c a hplain ih =>
    obtain ⟨behind, hbehind⟩ := ih (offset + c.utf8Size) (tokenStep offset quote token c).quote
      (tokenStep offset quote token c).token
    refine ⟨⟨(tokenStep offset quote token c).done ++ behind.done, behind.quote, behind.token⟩,
      fun b hcut => ?_⟩
    rw [List.cons_append, tokenizeFrom_plain (hplain.append hcut), hbehind b hcut.tail,
      Utf8.width_cons, ← Nat.add_assoc]
    cases tokenizeFrom (offset + c.utf8Size + Utf8.width a) behind.quote behind.token b with
    | error fault => rfl
    | ok rest => simp [Except.map]

/-- A text that is read to its end leaves no quote open. -/
theorem exists_tokenizeFrom_append_of_ok (h : tokenizeFrom offset quote token a = .ok tokens) :
    ∃ done begun, tokens = done ++ Option.toList begun ∧ ∀ b, IsCut a b →
      tokenizeFrom offset quote token (a ++ b) =
        (tokenizeFrom (offset + Utf8.width a) none begun b).map (done ++ ·) := by
  obtain ⟨⟨done, opened, begun⟩, hbehind⟩ := exists_tokenizeFrom_append offset quote token a
  have hend := hbehind [] (isCut_nil a)
  rw [List.append_nil, h] at hend
  cases opened with
  | some opened => cases hend
  | none => exact ⟨done, begun, Except.ok.inj hend, hbehind⟩

/-- Blanks behind a token that has begun end it, and are no part of what follows. -/
theorem tokenizeFrom_gap_append (hne : gap ≠ []) (hgap : ∀ c ∈ gap, Text.isBlank c = true)
    (offset : Nat) (token : Option (List Char)) (b : List Char) :
    tokenizeFrom offset none token (gap ++ b) =
      (tokenizeFrom (offset + Utf8.width gap) none none b).map (token.toList ++ ·) := by
  induction gap generalizing offset token with
  | nil => exact absurd rfl hne
  | cons c gap ih =>
    obtain ⟨hc, hgap⟩ := List.forall_mem_cons.mp hgap
    rw [List.cons_append, tokenizeFrom_blank_cons hc, Utf8.width_cons, ← Nat.add_assoc]
    cases gap with
    | nil => rfl
    | cons d gap =>
      rw [ih (List.cons_ne_nil d gap) hgap, Option.toList_none, map_nil_append]

end

/-- What follows a line and some blanks is read as it is alone, further right. -/
theorem tokenize_append_gap {a gap : String} {tokens : List String} (h : tokenize a = .ok tokens)
    (hne : gap ≠ "") (hgap : Text.isBlankText gap = true) (b : String) :
    tokenize (a ++ gap ++ b) =
      mapBoth (tokens ++ ·) (·.raise (Utf8.width (a ++ gap).toList)) (tokenize b) := by
  obtain ⟨whole, hwhole, rfl⟩ := map_eq_ok.mp h
  obtain ⟨done, begun, rfl, hbehind⟩ := exists_tokenizeFrom_append_of_ok hwhole
  rw [Text.isBlankText, List.all_eq_true] at hgap
  have hchars : gap.toList ≠ [] := fun hnil => hne (String.toList_eq_nil_iff.mp hnil)
  have hcut : IsCut a.toList (gap.toList ++ b.toList) := by
    obtain ⟨d, rest, hrest⟩ := List.exists_cons_of_ne_nil hchars
    have hd : Text.isBlank d = true := hgap d (by simp [hrest])
    rw [hrest, List.cons_append]
    exact isCut_of_not_quote (isQuote_of_isBlank hd) _ _
  have hraise := tokenizeFrom_raise (Utf8.width (a ++ gap).toList) 0 none none b.toList
  rw [Option.map_none] at hraise
  rw [tokenize, tokenize, String.toList_append, String.toList_append, List.append_assoc,
    hbehind _ hcut, tokenizeFrom_gap_append hchars hgap, Nat.add_assoc, ← Utf8.width_append,
    ← String.toList_append, hraise]
  cases tokenizeFrom 0 none none b.toList <;> simp [Except.map]

/-- Tokens of lines with blanks between them are the tokens of the one and then those of the other.
A quote that the second leaves open is told where it stands in the whole. -/
theorem tokenize_append_blanks {a blanks : String} {tokens : List String}
    (h : tokenize a = .ok tokens) (hne : blanks ≠ "")
    (hblank : ∀ c ∈ blanks.toList, Text.isBlank c = true) (b : String) :
    (∀ others, tokenize b = .ok others → tokenize (a ++ blanks ++ b) = .ok (tokens ++ others)) ∧
      ∀ quote offset, tokenize b = .error (.unterminatedQuote quote offset) →
        tokenize (a ++ blanks ++ b) =
          .error (.unterminatedQuote quote (offset + (a ++ blanks).utf8ByteSize)) := by
  have hgap : Text.isBlankText blanks = true := List.all_eq_true.mpr hblank
  have happend := tokenize_append_gap h hne hgap b
  rw [Utf8.width_toList] at happend
  constructor
  · intro others hothers
    rw [happend, hothers]
    rfl
  · intro quote offset hfault
    rw [happend, hfault]
    rfl

/-- The backslash in front of the blanks, the first of which has three bytes, escapes nothing. -/
theorem tokenize_append_blanks_backslash :
    tokenize "say \\\"hi\\\" \"\"\\" = .ok ["say", "\"hi\"", "\\"] ∧
      tokenize "say \\\"hi\\\" \"\"\\\u2003\t'' x" =
        .ok ["say", "\"hi\"", "\\", "", "x"] ∧
      tokenize "say \\\"hi\\\" \"\"\\\u2003\tit's" = .error (.unterminatedQuote '\'' 20) := by
  have hfirst : tokenize "say \\\"hi\\\" \"\"\\" = .ok ["say", "\"hi\"", "\\"] := rfl
  have hblank : ∀ c ∈ "\u2003\t".toList, Text.isBlank c = true := List.all_eq_true.mp rfl
  have hne : "\u2003\t" ≠ "" := by decide
  have hothers : tokenize "'' x" = .ok ["", "x"] := rfl
  have hfault : tokenize "it's" = .error (.unterminatedQuote '\'' 2) := rfl
  exact ⟨hfirst, (tokenize_append_blanks hfirst hne hblank "'' x").1 _ hothers,
    (tokenize_append_blanks hfirst hne hblank "it's").2 _ _ hfault⟩

end RowRecipe
