import RowRecipe.Proofs.Tokenizing

/-!
# Quotes that are never closed

A line fails only where a quote is open at its end. Which one that is can be seen without reading
the tokens: what stands before it is read completely, and behind it there is no quote of its kind
but behind a backslash. One more quote at the end of a line closes what is open, or, where nothing
is, is open itself, unless a backslash stands in front of it.

Main statement: `tokenize_eq_error_iff_unclosed`.
-/
namespace RowRecipe

/-- Each quote of a kind has a backslash in front of it. -/
def Unclosed (q : Char) (cs : List Char) : Prop :=
  ∀ before after, cs = before ++ q :: after → before.getLast? = some '\\'

section
variable {offset start : Nat} {quote : Option (Char × Nat)} {token : Option (List Char)}
variable {a cs : List Char} {c q other : Char} {tokens : List (List Char)}

theorem unclosed_nil (q : Char) : Unclosed q [] := by
  intro before after h
  cases before <;> cases h

theorem unclosed_escape_iff (hq : isQuote q = true) (hother : isQuote other = true) :
    Unclosed q ('\\' :: other :: cs) ↔ Unclosed q cs := by
  constructor
  · rintro h before after rfl
    have hlast := h ('\\' :: other :: before) after rfl
    cases before with
    | nil =>
      obtain rfl := Option.some.inj hlast
      cases hother
    | cons d before => simpa only [List.getLast?_cons_cons] using hlast
  · intro h before after hcs
    match before with
    | [] =>
      obtain ⟨rfl, -⟩ := List.cons.inj hcs
      cases hq
    | [d] =>
      obtain ⟨rfl, -⟩ := List.cons.inj hcs
      rfl
    | d :: e :: before =>
      simp only [List.cons_append, List.cons.injEq] at hcs
      exact List.mem_getLast?_cons (List.mem_getLast?_cons (h before after hcs.2.2))

theorem unclosed_cons_iff (hq : isQuote q = true) (hplain : IsPlain c cs) :
    Unclosed q (c :: cs) ↔ c ≠ q ∧ Unclosed q cs := by
  constructor
  · intro h
    constructor
    · rintro rfl
      cases h [] cs rfl
    · rintro before after rfl
      have hlast := h (c :: before) after rfl
      cases before with
      | nil =>
        have hnot : isQuote q = false := hplain (Option.some.inj hlast) q rfl
        rw [hq] at hnot
        cases hnot
      | cons d before => rwa [List.getLast?_cons_cons] at hlast
  · rintro ⟨hne, h⟩ before after hcs
    cases before with
    | nil => exact absurd (List.cons.inj hcs).1 hne
    | cons d before => exact List.mem_getLast?_cons (h before after (List.cons.inj hcs).2)

theorem tokenizeFrom_of_unclosed (hq : isQuote q = true) (h : Unclosed q cs) (offset start : Nat)
    (token : Option (List Char)) :
    tokenizeFrom offset (some (q, start)) token cs = .error (.unterminatedQuote q start) := by
  induction cs using escapeInduction generalizing offset token with
  | nil => rfl
  | escape other cs hother ih =>
    rw [unclosed_escape_iff hq hother] at h
    rw [tokenizeFrom_escape hother, ih h]
  | plain c cs hplain ih =>
    obtain ⟨hne, hrest⟩ := (unclosed_cons_iff hq hplain).mp h
    rw [tokenizeFrom_inside hplain hne, ih hrest]

theorem isQuote_of_mem_tokenStep (hopening : ∀ opened ∈ quote, isQuote opened.1 = true) :
    ∀ opened ∈ (tokenStep offset quote token c).quote, isQuote opened.1 = true := by
  unfold tokenStep
  split
  · split
    · simp
    · simpa using hopening
  · split
    · next hc => simpa using hc
    · split <;> simp

/-- A quote that is open behind a character was open before it, and is not this character, or is
this character. -/
theorem quote_eq_of_tokenStep (h : (tokenStep offset quote token c).quote = some (q, start)) :
    quote = some (q, start) ∧ c ≠ q ∨ quote = none ∧ c = q ∧ offset = start := by
  cases quote with
  | some opened =>
    obtain ⟨opening, begin⟩ := opened
    rw [tokenStep] at h
    split at h
    · cases h
    · next hne =>
      cases h
      exact .inl ⟨rfl, hne⟩
  | none =>
    rw [tokenStep] at h
    split at h
    · cases h
      exact .inr ⟨rfl, rfl, rfl⟩
    · split at h <;> cases h

/-- The quote that a text fails with was open from the start, or stands behind a part of the text
that is read completely. Nothing behind it closes it. -/
theorem exists_opening_of_tokenizeFrom_eq_error
    (hopening : ∀ opened ∈ quote, isQuote opened.1 = true)
    (h : tokenizeFrom offset quote token cs = .error (.unterminatedQuote q start)) :
    isQuote q = true ∧ (quote = some (q, start) ∧ Unclosed q cs ∨
      ∃ before after, cs = before ++ q :: after ∧ offset + Utf8.width before = start ∧
        (∃ tokens, tokenizeFrom offset quote token before = .ok tokens) ∧
        IsCut before (q :: after) ∧ Unclosed q after) := by
  induction cs using escapeInduction generalizing offset quote token with
  | nil =>
    cases quote with
    | none => cases h
    | some opened =>
      cases h
      exact ⟨hopening opened rfl, .inl ⟨rfl, unclosed_nil _⟩⟩
  | escape other cs hother ih =>
    rw [tokenizeFrom_escape hother] at h
    obtain ⟨hq, ⟨hquote, hcs⟩ | ⟨before, after, rfl, hstart, ⟨tokens, hbefore⟩, hcut, hafter⟩⟩ :=
      ih hopening h
    · exact ⟨hq, .inl ⟨hquote, (unclosed_escape_iff hq hother).mpr hcs⟩⟩
    · refine ⟨hq, .inr ⟨'\\' :: other :: before, after, rfl, ?_, ⟨tokens, ?_⟩,
        hcut.escape hother, hafter⟩⟩
      · rw [width_escape hother, ← Nat.add_assoc, hstart]
      · rw [tokenizeFrom_escape hother, hbefore]
  | plain c cs hplain ih =>
    rw [tokenizeFrom_plain hplain, map_eq_error] at h
    obtain ⟨hq, ⟨hquote, hcs⟩ | ⟨before, after, rfl, hstart, ⟨tokens, hbefore⟩, hcut, hafter⟩⟩ :=
      ih (isQuote_of_mem_tokenStep hopening) h
    · obtain ⟨hopen, hne⟩ | ⟨rfl, rfl, rfl⟩ := quote_eq_of_tokenStep hquote
      · exact ⟨hq, .inl ⟨hopen, (unclosed_cons_iff hq hplain).mpr ⟨hne, hcs⟩⟩⟩
      · have hcut : IsCut [] (c :: cs) := fun hback => nomatch hback
        exact ⟨hq, .inr ⟨[], cs, rfl, rfl, ⟨token.toList, rfl⟩, hcut, hcs⟩⟩
    · refine ⟨hq, .inr ⟨c :: before, after, rfl, ?_, ?_, hcut.cons hplain, hafter⟩⟩
      · rw [Utf8.width_cons, ← Nat.add_assoc, hstart]
      · rw [tokenizeFrom_plain hplain.of_append, hbefore]
        exact ⟨_, rfl⟩

theorem tokenizeFrom_eq_error_iff :
    tokenizeFrom offset none token cs = .error (.unterminatedQuote q start) ↔
      isQuote q = true ∧ ∃ before after, cs = before ++ q :: after ∧
        offset + Utf8.width before = start ∧
        (∃ tokens, tokenizeFrom offset none token before = .ok tokens) ∧
        IsCut before (q :: after) ∧ Unclosed q after := by
  constructor
  · intro h
    obtain ⟨hq, ⟨⟨⟩, -⟩ | hopening⟩ := exists_opening_of_tokenizeFrom_eq_error (by simp) h
    exact ⟨hq, hopening⟩
  · rintro ⟨hq, before, after, rfl, rfl, ⟨tokens, htokens⟩, hcut, hafter⟩
    obtain ⟨done, begun, -, hbehind⟩ := exists_tokenizeFrom_append_of_ok htokens
    rw [hbehind _ hcut, tokenizeFrom_opening hq, tokenizeFrom_of_unclosed hq hafter]
    rfl

theorem exists_tokenizeFrom_append_quote (hcut : IsCut a [q]) (hq : isQuote q = true)
    (h : tokenizeFrom offset quote token a = .error (.unterminatedQuote q start)) :
    ∃ tokens, tokenizeFrom offset quote token (a ++ [q]) = .ok tokens := by
  obtain ⟨⟨done, opened, begun⟩, hbehind⟩ := exists_tokenizeFrom_append offset quote token a
  have hend := hbehind [] (isCut_nil a)
  rw [List.append_nil, h] at hend
  have hopen : opened = some (q, start) := by
    cases opened with
    | none => cases hend
    | some opened =>
      cases hend
      rfl
  rw [hbehind [q] hcut, hopen, tokenizeFrom_closing hq]
  exact ⟨_, rfl⟩

end

/-- A line fails with a quote where the quote stands behind a part that is read completely, with no
backslash in front of it, and behind it each of its kind has a backslash in front. -/
theorem tokenize_eq_error_iff_unclosed (line : String) :
    (∀ q offset, tokenize line = .error (.unterminatedQuote q offset) ↔
      isQuote q = true ∧ ∃ before after : String, line = before ++ String.singleton q ++ after ∧
        before.utf8ByteSize = offset ∧ (∃ tokens, tokenize before = .ok tokens) ∧
        before.toList.getLast? ≠ some '\\' ∧ Unclosed q after.toList) ∧
      (∀ q offset, tokenize line = .error (.unterminatedQuote q offset) →
        line.toList.getLast? ≠ some '\\' → ∃ tokens, tokenize (line.push q) = .ok tokens) ∧
      ∀ tokens, tokenize line = .ok tokens → line.toList.getLast? ≠ some '\\' →
        ∀ q, isQuote q = true →
          tokenize (line.push q) = .error (.unterminatedQuote q line.utf8ByteSize) := by
  refine ⟨?_, ?_, ?_⟩
  · intro q offset
    rw [tokenize, map_eq_error, tokenizeFrom_eq_error_iff]
    constructor
    · rintro ⟨hq, before, after, hline, hoffset, ⟨tokens, htokens⟩, hcut, hafter⟩
      refine ⟨hq, String.ofList before, String.ofList after, ?_, ?_, ?_, ?_, ?_⟩
      · rw [← String.toList_inj, hline]
        simp
      · rw [Utf8.utf8ByteSize_ofList, ← hoffset, Nat.zero_add]
      · rw [tokenize, String.toList_ofList, htokens]
        exact ⟨_, rfl⟩
      · rwa [String.toList_ofList, ← isCut_quote_iff hq]
      · rwa [String.toList_ofList]
    · rintro ⟨hq, before, after, rfl, hoffset, ⟨tokens, htokens⟩, hlast, hafter⟩
      obtain ⟨own, hown, -⟩ := map_eq_ok.mp htokens
      refine ⟨hq, before.toList, after.toList, by simp, ?_, ⟨own, hown⟩,
        (isCut_quote_iff hq).mpr hlast, hafter⟩
      rw [Nat.zero_add, Utf8.width_toList, hoffset]
  · intro q offset h hlast
    rw [tokenize, map_eq_error] at h
    obtain ⟨hq, -⟩ := tokenizeFrom_eq_error_iff.mp h
    have hcut : IsCut line.toList [q] := (isCut_quote_iff hq).mpr hlast
    obtain ⟨tokens, htokens⟩ := exists_tokenizeFrom_append_quote hcut hq h
    rw [tokenize, String.toList_push, htokens]
    exact ⟨_, rfl⟩
  · intro tokens h hlast q hq
    obtain ⟨own, hown, -⟩ := map_eq_ok.mp h
    have hcut : IsCut line.toList [q] := (isCut_quote_iff hq).mpr hlast
    rw [tokenize, map_eq_error, String.toList_push, tokenizeFrom_eq_error_iff]
    refine ⟨hq, line.toList, [], rfl, ?_, ⟨own, hown⟩, hcut, unclosed_nil q⟩
    rw [Nat.zero_add, Utf8.width_toList]

/-- Of two quotes behind the one that is open, one is escaped and one is of the other kind. -/
theorem tokenize_eq_error_iff_unclosed_escaped :
    tokenize "é \"it's\" 'x\\' \"y" = .error (.unterminatedQuote '\'' 10) ∧
      (∃ tokens, tokenize ("é \"it's\" 'x\\' \"y".push '\'') = .ok tokens) ∧
      tokenize ("é \"it's\" ".push '"') = .error (.unterminatedQuote '"' 10) := by
  have hfault : tokenize "é \"it's\" 'x\\' \"y" = .error (.unterminatedQuote '\'' 10) := rfl
  have hread : tokenize "é \"it's\" " = .ok ["é", "it's"] := rfl
  obtain ⟨-, hclosed, -⟩ := tokenize_eq_error_iff_unclosed "é \"it's\" 'x\\' \"y"
  obtain ⟨-, -, hopened⟩ := tokenize_eq_error_iff_unclosed "é \"it's\" "
  exact ⟨hfault, hclosed _ _ hfault (by decide), hopened _ hread (by decide) '"' rfl⟩

end RowRecipe
