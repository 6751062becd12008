import RowRecipe.Proofs.LineEnds

/-!
# What recipes can say

Any token can be written in quotes, where a backslash stands in front of each quote. Backslashes at
the end of a token stand behind its closing quote, since a quote behind a backslash would be an
ordinary character. So all lists of tokens can be read out of some text (`exists_quoting`). What no
line of a recipe can say is a line feed, and a backslash at the end of its last token, where it is
the marker.

Main statements: `exists_quoting`, `LineOptions.exists_says_iff`.
-/
namespace RowRecipe

namespace Text

theorem forall_mem_join {P : Char → Prop} {separator : String}
    (hseparator : ∀ c ∈ separator.toList, P c) {texts : List String}
    (htexts : ∀ text ∈ texts, ∀ c ∈ text.toList, P c) :
    ∀ c ∈ (join separator texts).toList, P c := by
  match texts with
  | [] => simp [join, joinWith]
  | [text] => simpa [join_single] using htexts
  | text :: next :: texts =>
    obtain ⟨htext, hrest⟩ := List.forall_mem_cons.mp htexts
    have ih := forall_mem_join hseparator hrest
    rw [join_cons_cons]
    simp only [String.toList_append, List.mem_append]
    rintro c ((hc | hc) | hc)
    · exact htext c hc
    · exact hseparator c hc
    · exact ih c hc

end Text

/-! ### Tokens in quotes -/

/-- A character between quotes. -/
def writtenChar (c : Char) : List Char :=
  if isQuote c then ['\\', c] else [c]

/-- A token in quotes, the backslashes at its end behind them. -/
def writtenToken (token : List Char) : List Char :=
  '\'' :: ((token.rdropWhile (· == '\\')).flatMap writtenChar
    ++ '\'' :: token.rtakeWhile (· == '\\'))

/-- A line with some tokens. -/
def writtenLine (tokens : List String) : String :=
  Text.join " " (tokens.map fun token => String.ofList (writtenToken token.toList))

section
variable {read body rest slashes token : List Char} {tokens : List (List Char)} {c q : Char}

theorem isPlain_of_getLast?_ne (hend : (c :: body).getLast? ≠ some '\\') :
    IsPlain c (body.flatMap writtenChar ++ q :: rest) := by
  rintro rfl other hother
  cases body with
  | nil => exact absurd rfl hend
  | cons d body =>
    rw [List.flatMap_cons, writtenChar] at hother
    split at hother
    · cases hother
      decide
    · next hd =>
      cases hother
      simpa using hd

/-- What is in quotes is read as it is, up to the closing quote. -/
theorem tokenizeFrom_quoted (hq : isQuote q = true) (hend : body.getLast? ≠ some '\\')
    (hrest : ∀ offset, tokenizeFrom offset none (some (read ++ body)) rest = .ok tokens)
    (offset start : Nat) :
    tokenizeFrom offset (some (q, start)) (some read)
      (body.flatMap writtenChar ++ q :: rest) = .ok tokens := by
  induction body generalizing read offset with
  | nil =>
    rw [List.append_nil] at hrest
    rw [List.flatMap_nil, List.nil_append, tokenizeFrom_closing hq, hrest]
  | cons c body ih =>
    have hread : ∀ offset,
        tokenizeFrom offset none (some (read ++ [c] ++ body)) rest = .ok tokens := by
      simpa using hrest
    have htail : body.getLast? ≠ some '\\' := fun h => hend (List.mem_getLast?_cons h)
    have hnext := ih htail hread
    rw [List.flatMap_cons, List.append_assoc, writtenChar]
    split
    · next hc =>
      rw [List.cons_append, List.singleton_append, tokenizeFrom_escape hc]
      exact hnext _
    · next hc =>
      have hother : c ≠ q := by
        rintro rfl
        exact hc hq
      rw [List.singleton_append, tokenizeFrom_inside (isPlain_of_getLast?_ne hend) hother]
      exact hnext _

/-- What is neither a blank nor a quote belongs to the token that has begun. -/
theorem tokenizeFrom_word (h : ∀ c ∈ rest, Text.isBlank c = false ∧ isQuote c = false)
    (offset : Nat) : tokenizeFrom offset none (some read) rest = .ok [read ++ rest] := by
  induction rest generalizing read offset with
  | nil => simp [tokenizeFrom]
  | cons c rest ih =>
    obtain ⟨⟨hblank, hquote⟩, hrest⟩ := List.forall_mem_cons.mp h
    have hplain : IsPlain c rest := fun _ q hq => (hrest q (List.mem_of_mem_head? hq)).2
    rw [tokenizeFrom_plain hplain, tokenStep_word hblank hquote, map_nil_append, extendToken,
      Option.getD_some, ih hrest]
    simp

/-- A quote behind a backslash would be an ordinary character, so the backslashes at the end of a
token stand behind the closing quote. -/
theorem tokenize_quoted (hq : isQuote q = true) (hbody : body.getLast? ≠ some '\\')
    (hslashes : ∀ c ∈ slashes, c = '\\') :
    tokenize (String.ofList (q :: (body.flatMap writtenChar ++ q :: slashes))) =
      .ok [String.ofList (body ++ slashes)] := by
  have hword : ∀ c ∈ slashes, Text.isBlank c = false ∧ isQuote c = false := by
    intro c hc
    rw [hslashes c hc]
    decide
  have hrest : ∀ offset,
      tokenizeFrom offset none (some ([] ++ body)) slashes = .ok [body ++ slashes] :=
    fun offset => tokenizeFrom_word hword offset
  rw [tokenize, String.toList_ofList, tokenizeFrom_opening hq, Option.getD_none,
    tokenizeFrom_quoted hq hbody hrest]
  rfl

theorem getLast?_rdropWhile_ne (token : List Char) :
    (token.rdropWhile (· == '\\')).getLast? ≠ some '\\' := by
  intro h
  obtain ⟨hne, hlast⟩ := List.mem_getLast?_eq_getLast h
  exact List.rdropWhile_last_not (· == '\\') token hne (by simp [← hlast])

theorem eq_of_mem_rtakeWhile (hc : c ∈ token.rtakeWhile (· == '\\')) : c = '\\' := by
  simpa using List.mem_rtakeWhile_imp hc

theorem tokenize_writtenToken (token : List Char) :
    tokenize (String.ofList (writtenToken token)) = .ok [String.ofList token] := by
  have hslashes : ∀ c ∈ token.rtakeWhile (· == '\\'), c = '\\' := fun c => eq_of_mem_rtakeWhile
  rw [writtenToken, tokenize_quoted rfl (getLast?_rdropWhile_ne token) hslashes,
    List.rdropWhile_append_rtakeWhile]

theorem getLast?_writtenToken (token : List Char) :
    (writtenToken token).getLast? = ('\'' :: token.rtakeWhile (· == '\\')).getLast? := by
  rw [writtenToken, ← List.cons_append, List.getLast?_append_of_ne_nil _ (List.cons_ne_nil _ _)]

theorem stands_writtenToken (token : List Char) :
    LineOptions.standard.Stands (String.ofList (writtenToken token)) := by
  have htrimmed : Text.IsTrimmed (writtenToken token) := by
    constructor
    · rintro _ ⟨⟩
      decide
    · intro c hc
      rw [getLast?_writtenToken] at hc
      rcases List.mem_cons.mp (List.mem_of_getLast? hc) with rfl | hc
      · decide
      · rw [eq_of_mem_rtakeWhile hc]
        decide
  refine ⟨?_, ?_, ?_⟩
  · rw [Text.trim_eq_self_iff, String.toList_ofList]
    exact htrimmed
  · simp [writtenToken]
  · rw [String.toList_ofList]
    rfl

theorem forall_mem_writtenToken {P : Char → Prop} (hquote : ∀ q, isQuote q = true → P q)
    (hback : P '\\') (h : ∀ c ∈ token, P c) : ∀ c ∈ writtenToken token, P c := by
  intro c hc
  simp only [writtenToken, List.mem_cons, List.mem_append, List.mem_flatMap] at hc
  rcases hc with rfl | ⟨d, hd, hc⟩ | rfl | hc
  · exact hquote '\'' rfl
  · have hmem := h d ((List.rdropWhile_prefix _ _).subset hd)
    rw [writtenChar] at hc
    split at hc
    · simp only [List.mem_cons, List.not_mem_nil, or_false] at hc
      rcases hc with rfl | rfl
      · exact hback
      · exact hmem
    · obtain rfl := List.mem_singleton.mp hc
      exact hmem
  · exact hquote '\'' rfl
  · exact h c ((List.rtakeWhile_suffix _ _).subset hc)

end

section
variable {tokens : List String}

theorem onOneLine_writtenLine (hne : tokens ≠ []) :
    OnOneLine (tokens.map fun token => String.ofList (writtenToken token.toList))
      (writtenLine tokens) :=
  onOneLine_join (by simpa using hne)

theorem tokenize_join {quoting : String → String}
    (h : ∀ token, tokenize (quoting token) = .ok [token]) (hne : tokens ≠ []) :
    tokenize (Text.join " " (tokens.map quoting)) = .ok tokens := by
  have htokens : List.Forall₂ (fun piece own => tokenize piece = .ok own)
      (tokens.map quoting) (tokens.map ([·])) := by
    rw [List.forall₂_map_left_iff, List.forall₂_map_right_iff, List.forall₂_same]
    exact fun token _ => h token
  have hpieces : tokens.map quoting ≠ [] := by simpa using hne
  rw [(onOneLine_join hpieces).tokenize_eq htokens, ← List.flatMap_def, List.flatMap_singleton']

theorem tokenize_writtenLine (hne : tokens ≠ []) : tokenize (writtenLine tokens) = .ok tokens := by
  refine tokenize_join (fun token => ?_) hne
  rw [tokenize_writtenToken, String.ofList_toList]

example : writtenLine ["#", "it's", "a\\", ""] = "'#' 'it\\'s' 'a'\\ ''" := by decide

theorem forall_mem_writtenLine {P : Char → Prop} (hquote : ∀ q, isQuote q = true → P q)
    (hback : P '\\') (hblank : P ' ') (h : ∀ token ∈ tokens, ∀ c ∈ token.toList, P c) :
    ∀ c ∈ (writtenLine tokens).toList, P c := by
  refine Text.forall_mem_join (by simpa using hblank) ?_
  simp only [List.forall_mem_map, String.toList_ofList]
  exact fun token htoken => forall_mem_writtenToken hquote hback (h token htoken)

end

/-! ### Quotes of either kind -/

/-- A text in quotes, the backslashes at its end behind them. -/
def quotedToken (q : Char) (text : String) : String :=
  let slashes := text.toList.rtakeWhile (· == '\\')
  String.ofList (q :: ((text.toList.rdropWhile (· == '\\')).flatMap writtenChar ++ q :: slashes))

section
variable {q : Char} {body slashes : List Char}

theorem quotedToken_ofList_append (q : Char) (hbody : body.getLast? ≠ some '\\')
    (hslashes : ∀ c ∈ slashes, c = '\\') :
    quotedToken q (String.ofList (body ++ slashes)) =
      String.ofList (q :: (body.flatMap writtenChar ++ q :: slashes)) := by
  have hlast : ∀ hne, ¬(body.getLast hne == '\\') = true := by
    intro hne hback
    rw [List.getLast?_eq_some_getLast hne, beq_iff_eq.mp hback] at hbody
    exact hbody rfl
  have hreverse : ∀ c ∈ slashes.reverse, (c == '\\') = true := by simpa using hslashes
  have hdrop : (body ++ slashes).rdropWhile (· == '\\') = body := by
    rw [List.rdropWhile, List.reverse_append, List.dropWhile_append_of_pos hreverse,
      ← List.rdropWhile, List.rdropWhile_eq_self_iff.mpr hlast]
  have htake : (body ++ slashes).rtakeWhile (· == '\\') = slashes := by
    rw [List.rtakeWhile, List.reverse_append, List.takeWhile_append_of_pos hreverse,
      List.reverse_append, List.reverse_reverse, ← List.rtakeWhile,
      List.rtakeWhile_eq_nil_iff.mpr hlast, List.nil_append]
  simp only [quotedToken, String.toList_ofList, hdrop, htake]

theorem tokenize_quotedToken (hq : isQuote q = true) (text : String) :
    tokenize (quotedToken q text) = .ok [text] := by
  have hslashes : ∀ c ∈ text.toList.rtakeWhile (· == '\\'), c = '\\' :=
    fun c => eq_of_mem_rtakeWhile
  rw [quotedToken, tokenize_quoted hq (getLast?_rdropWhile_ne text.toList) hslashes,
    List.rdropWhile_append_rtakeWhile, String.ofList_toList]

/-- All texts can be tokens, in any number: put in quotes, with a backslash in front of each quote
and the backslashes at the end behind the closing quote, they are read as they are. -/
theorem exists_quoting (hq : isQuote q = true) :
    ∃ quoting : String → String,
      (∀ body slashes : List Char, body.getLast? ≠ some '\\' → (∀ c ∈ slashes, c = '\\') →
        quoting (String.ofList (body ++ slashes)) =
          String.ofList (q :: (body.flatMap writtenChar ++ q :: slashes))) ∧
      ∀ tokens, tokenize (Text.join " " (tokens.map quoting)) = .ok tokens := by
  refine ⟨quotedToken q, fun body slashes => quotedToken_ofList_append q, ?_⟩
  intro tokens
  cases tokens with
  | nil => rfl
  | cons token tokens => exact tokenize_join (tokenize_quotedToken hq) (List.cons_ne_nil _ _)

/-- A backslash stands in front of a quote of the kind, and at the end; another token has nothing
but backslashes, and the last has nothing at all. -/
theorem exists_quoting_backslashes :
    isQuote '"' = true ∧
      tokenize "\"it\\'s \\\\\"\n\"\\ \"\"\\\\ \"\"" = .ok ["it's \\\"\n\\", "\\\\", ""] := by
  obtain ⟨quoting, hquoting, htokens⟩ := exists_quoting (q := '"') rfl
  have hfirst : quoting "it's \\\"\n\\" = "\"it\\'s \\\\\"\n\"\\" :=
    hquoting "it's \\\"\n".toList ['\\'] (by decide) (by simp)
  have hsecond : quoting "\\\\" = "\"\"\\\\" := hquoting [] ['\\', '\\'] (by decide) (by simp)
  have hlast : quoting "" = "\"\"" := hquoting [] [] (by decide) (by simp)
  have hline := htokens ["it's \\\"\n\\", "\\\\", ""]
  simp only [List.map_cons, List.map_nil, hfirst, hsecond, hlast] at hline
  exact ⟨rfl, hline⟩

end

/-! ### What lines say -/

namespace LineOptions
variable {tokens : List String} {line : String}

/-- A recipe has a single logical line, and this line has some tokens. -/
def Says (options : LineOptions) (recipe : String) (tokens : List String) : Prop :=
  ∃ line, options.logicalLines (Text.lines recipe) = .ok [line] ∧ tokenize line.text = .ok tokens

theorem logicalLines_writtenLine (hne : tokens ≠ [])
    (hend : ∀ last ∈ tokens.getLast?, '\\' ∉ last.toList.getLast?) :
    standard.logicalLines [writtenLine tokens] = .ok [⟨1, writtenLine tokens⟩] := by
  have hline := onOneLine_writtenLine hne
  have hstands : ∀ piece ∈ tokens.map fun token => String.ofList (writtenToken token.toList),
      standard.Stands piece :=
    List.forall_mem_map.mpr fun token _ => stands_writtenToken token.toList
  have hlast : ∀ piece ∈
      (tokens.map fun token => String.ofList (writtenToken token.toList)).getLast?,
      piece.toList.getLast? ≠ some '\\' := by
    rw [List.getLast?_map]
    intro piece hpiece
    obtain ⟨last, hmem, rfl⟩ := Option.map_eq_some_iff.mp hpiece
    have hslashes : last.toList.rtakeWhile (· == '\\') = [] := by
      rw [List.rtakeWhile_eq_nil_iff]
      intro hne hback
      refine hend last hmem ?_
      rw [List.getLast?_eq_some_getLast hne, beq_iff_eq.mp hback]
      rfl
    rw [String.toList_ofList, getLast?_writtenToken, hslashes]
    decide
  exact logicalLines_single visible_standard (hline.stands visible_standard hstands)
    (hline.getLast?_ne visible_standard hstands hlast)

/-- What one line can say: some tokens, none with a line feed and the last without a backslash at
its end. -/
theorem exists_says_iff (tokens : List String) :
    (∃ recipe, standard.Says recipe tokens) ↔
      tokens ≠ [] ∧ (∀ token ∈ tokens, '\n' ∉ token.toList) ∧
        ∀ last ∈ tokens.getLast?, last.toList.getLast? ≠ some '\\' := by
  constructor
  · rintro ⟨recipe, line, hlines, htokens⟩
    obtain ⟨c, hc, hblank, hmarker⟩ := ends_of_linesFrom hlines line List.mem_cons_self
    obtain ⟨own, hreads, rfl⟩ := reads_of_tokenize htokens
    have hend : ∀ d ∈ line.text.toList.getLast?, Text.isBlank d = false ∧ d ≠ '\\' := by
      intro d hd
      obtain rfl := Option.mem_unique hc hd
      exact ⟨hblank, hmarker⟩
    have hfeed : ∀ d ∈ line.text.toList, d ≠ '\n' := by
      refine forall_mem_of_linesFrom (by decide) ?_ (by simp) hlines line List.mem_cons_self
      rintro physical hphysical d hd rfl
      exact Text.lineFeed_notMem_of_mem_lines hphysical hd
    refine ⟨?_, ?_, ?_⟩
    · have hne := hreads.ne_nil (.inr ⟨c, List.mem_of_getLast? hc, hblank⟩)
      simpa using hne
    · have hchars := hreads.forall_mem hfeed (by simp)
      simpa using fun token htoken hmem => hchars token htoken '\n' hmem rfl
    · have hlast := hreads.getLast?_ne hend (by simp)
      simpa using hlast
  · rintro ⟨hne, hfeed, hend⟩
    have hwritten : ∀ c ∈ (writtenLine tokens).toList, c ≠ '\n' := by
      refine forall_mem_writtenLine ?_ (by decide) (by decide) ?_
      · rintro _ hq rfl
        exact absurd hq (by decide)
      · rintro token htoken c hc rfl
        exact hfeed token htoken hc
    have hlines := logicalLines_writtenLine hne hend
    have hnonempty : writtenLine tokens ≠ "" := by
      intro h
      rw [h] at hlines
      cases hlines
    refine ⟨writtenLine tokens, ⟨1, writtenLine tokens⟩, ?_, tokenize_writtenLine hne⟩
    rw [Text.lines_of_notMem hnonempty fun hmem => hwritten _ hmem rfl]
    exact hlines

end LineOptions

end RowRecipe
