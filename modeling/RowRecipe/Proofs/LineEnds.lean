import RowRecipe.Proofs.Continuation
import RowRecipe.Proofs.Pieces

/-!
# What lines and tokens end with

The lines of a text have no line feed. A logical line ends where a physical one ends that does not
go on, so neither with a blank nor with the marker. Where a line ends with a visible character it
has a token, and the last of its tokens does not end with a backslash unless the line does.
-/
namespace RowRecipe

namespace Text
variable {line : List Char} {pieces : List (List Char)}

theorem exists_piece_of_mem_linesOfPieces (h : line ∈ linesOfPieces pieces) :
    ∃ piece ∈ pieces, line <+: piece := by
  fun_induction linesOfPieces pieces with
  | case1 => cases h
  | case2 => cases h
  | case3 last hne =>
    obtain rfl := List.mem_singleton.mp h
    exact ⟨line, List.mem_cons_self, List.prefix_rfl⟩
  | case4 piece pieces _ ih =>
    rcases List.mem_cons.mp h with rfl | h
    · refine ⟨piece, List.mem_cons_self, ?_⟩
      rw [dropReturn]
      split
      · exact List.dropLast_prefix piece
      · exact List.prefix_rfl
    · obtain ⟨other, hother, hfront⟩ := ih h
      exact ⟨other, List.mem_cons_of_mem _ hother, hfront⟩

theorem lineFeed_notMem_of_mem_lines {text line : String} (h : line ∈ lines text) :
    '\n' ∉ line.toList := by
  rw [lines, List.mem_map] at h
  obtain ⟨cs, hcs, rfl⟩ := h
  obtain ⟨piece, hpiece, hfront⟩ := exists_piece_of_mem_linesOfPieces hcs
  rw [String.toList_ofList]
  exact fun hmem => notMem_of_mem_splitAt hpiece (hfront.subset hmem)

theorem linesOfPieces_cons (piece : List Char) (hpieces : pieces ≠ []) :
    linesOfPieces (piece :: pieces) = dropReturn piece :: linesOfPieces pieces := by
  obtain ⟨following, others, rfl⟩ := List.exists_cons_of_ne_nil hpieces
  rfl

/-- The lines of a text behind a line are the lines that are left. -/
theorem lines_append_lineFeed {line : String} (hfeed : '\n' ∉ line.toList)
    (hreturn : line.toList.getLast? ≠ some '\r') (rest : String) :
    lines (line ++ "\n" ++ rest) = line :: lines rest := by
  have htext : (line ++ "\n" ++ rest).toList = line.toList ++ '\n' :: rest.toList := by simp
  rw [lines, htext, splitAt_append_cons hfeed, linesOfPieces_cons _ (splitAt_ne_nil _ _),
    dropReturn, if_neg hreturn, List.map_cons, String.ofList_toList]
  rfl

theorem lines_of_notMem {text : String} (hne : text ≠ "") (h : '\n' ∉ text.toList) :
    lines text = [text] := by
  rw [lines, splitAt_of_notMem h, linesOfPieces, if_neg (by simpa using hne)]
  simp

end Text

/-! ### The ends of logical lines -/

namespace LineOptions
variable {options : LineOptions} {physical : List String} {lines : List LogicalLine}
variable {number : Nat} {pending : Option (Nat × List Char)} {line : String} {part : List Char}
variable {goesOn : Bool}

/-- Characters the last of which is neither a blank nor the marker. -/
def Ends (options : LineOptions) (cs : List Char) : Prop :=
  ∃ c ∈ cs.getLast?, Text.isBlank c = false ∧ c ≠ options.marker

theorem Ends.ne_nil {cs : List Char} (h : options.Ends cs) : cs ≠ [] := by
  obtain ⟨c, hc, -⟩ := h
  rintro rfl
  cases hc

theorem Ends.getLast?_ne {cs : List Char} (h : options.Ends cs) :
    cs.getLast? ≠ some options.marker := by
  obtain ⟨c, hc, -, hmarker⟩ := h
  rw [Option.mem_def.mp hc, Ne, Option.some.injEq]
  exact hmarker

theorem ends_of_part? (h : options.part? line = some (part, false)) : options.Ends part := by
  simp only [part?] at h
  split at h
  · cases h
  next hcounts =>
  split at h
  · cases h
  next hmarker =>
  cases h
  obtain ⟨hne, -⟩ := not_or.mp hcounts
  have htrimmed := Text.isTrimmed_trimChars line.toList
  have hlast := List.getLast?_eq_some_getLast hne
  rw [hlast] at hmarker
  exact ⟨_, hlast, htrimmed.2 _ hlast, fun heq => hmarker (congrArg some heq)⟩

theorem prefix_of_part? (h : options.part? line = some (part, goesOn)) :
    part <+: Text.trimChars line.toList := by
  simp only [part?] at h
  split at h
  · cases h
  split at h
  · cases h
    exact (List.rdropWhile_prefix Text.isBlank _).trans (List.dropLast_prefix _)
  · cases h
    exact List.prefix_rfl

theorem mem_of_part? (h : options.part? line = some (part, goesOn)) {c : Char} (hc : c ∈ part) :
    c ∈ line.toList :=
  Text.mem_of_mem_trimChars ((prefix_of_part? h).subset hc)

/-- What a line does where the lines from it on are read: it does not count, or it goes on, or it
ends a logical line. -/
theorem linesFrom_cons_eq_ok (h : options.linesFrom number pending (line :: physical) = .ok lines) :
    (options.part? line = none ∧ options.linesFrom (number + 1) pending physical = .ok lines) ∨
    (∃ part, options.part? line = some (part, true) ∧
      options.linesFrom (number + 1)
        (some ((pending.getD (number, [])).1, joinParts (pending.getD (number, [])).2 part))
        physical = .ok lines) ∨
    ∃ part others, options.part? line = some (part, false) ∧
      options.linesFrom (number + 1) none physical = .ok others ∧
      lines = ⟨(pending.getD (number, [])).1,
        String.ofList (joinParts (pending.getD (number, [])).2 part)⟩ :: others := by
  cases hpart : options.part? line with
  | none =>
    rw [linesFrom_cons_of_not_counts (part?_eq_none_iff.mp hpart)] at h
    exact .inl ⟨rfl, h⟩
  | some said =>
    obtain ⟨part, goesOn⟩ := said
    cases goesOn with
    | true =>
      rw [linesFrom_cons_of_goesOn hpart rfl] at h
      exact .inr (.inl ⟨part, rfl, h⟩)
    | false =>
      rw [linesFrom_cons_of_ends hpart (ends_of_part? hpart).ne_nil rfl] at h
      obtain ⟨others, hothers, rfl⟩ := map_eq_ok.mp h
      exact .inr (.inr ⟨part, others, rfl, hothers, rfl⟩)

theorem Ends.joinParts {b : List Char} (h : options.Ends b) (a : List Char) :
    options.Ends (joinParts a b) := by
  have hne := h.ne_nil
  obtain ⟨c, hc, hend⟩ := h
  refine ⟨c, ?_, hend⟩
  rw [LineOptions.joinParts, if_neg hne]
  split
  · exact hc
  · rw [List.getLast?_append_of_ne_nil _ (List.cons_ne_nil _ _), List.getLast?_cons_of_ne_nil hne]
    exact hc

theorem ends_of_linesFrom (h : options.linesFrom number pending physical = .ok lines) :
    ∀ line ∈ lines, options.Ends line.text.toList := by
  induction physical generalizing number pending lines with
  | nil =>
    cases pending with
    | none =>
      cases h
      simp
    | some begun => cases h
  | cons line physical ih =>
    rcases linesFrom_cons_eq_ok h with
      ⟨-, hrest⟩ | ⟨part, -, hrest⟩ | ⟨part, others, hpart, hrest, rfl⟩
    · exact ih hrest
    · exact ih hrest
    · rw [List.forall_mem_cons, String.toList_ofList]
      exact ⟨(ends_of_part? hpart).joinParts _, ih hrest⟩

theorem forall_mem_joinParts {P : Char → Prop} (hblank : P ' ') {a b : List Char}
    (ha : ∀ c ∈ a, P c) (hb : ∀ c ∈ b, P c) : ∀ c ∈ joinParts a b, P c := by
  unfold joinParts
  split_ifs
  · exact ha
  · exact hb
  · rw [List.forall_mem_append, List.forall_mem_cons]
    exact ⟨ha, hblank, hb⟩

/-- What holds of all that single lines say, and of what is joined, holds of logical lines. -/
theorem forall_text_of_linesFrom {P : List Char → Prop} (hnil : P [])
    (hjoin : ∀ a b, P a → P b → P (joinParts a b))
    (hparts : ∀ line ∈ physical, ∀ part goesOn, options.part? line = some (part, goesOn) → P part)
    (hpending : ∀ begun ∈ pending, P begun.2)
    (h : options.linesFrom number pending physical = .ok lines) :
    ∀ line ∈ lines, P line.text.toList := by
  induction physical generalizing number pending lines with
  | nil =>
    cases pending with
    | none =>
      cases h
      simp
    | some begun => cases h
  | cons line physical ih =>
    obtain ⟨hline, hparts⟩ := List.forall_mem_cons.mp hparts
    have hbegun : P (pending.getD (number, [])).2 := by
      cases pending with
      | none => exact hnil
      | some begun => exact hpending begun rfl
    rcases linesFrom_cons_eq_ok h with
      ⟨-, hrest⟩ | ⟨part, hpart, hrest⟩ | ⟨part, others, hpart, hrest, rfl⟩
    · exact ih hparts hpending hrest
    · refine ih hparts ?_ hrest
      rintro _ ⟨⟩
      exact hjoin _ _ hbegun (hline part true hpart)
    · rw [List.forall_mem_cons, String.toList_ofList]
      exact ⟨hjoin _ _ hbegun (hline part false hpart), ih hparts (by simp) hrest⟩

theorem forall_mem_of_linesFrom {P : Char → Prop} (hblank : P ' ')
    (hphysical : ∀ line ∈ physical, ∀ c ∈ line.toList, P c)
    (hpending : ∀ begun ∈ pending, ∀ c ∈ begun.2, P c)
    (h : options.linesFrom number pending physical = .ok lines) :
    ∀ line ∈ lines, ∀ c ∈ line.text.toList, P c := by
  refine forall_text_of_linesFrom (P := fun cs => ∀ c ∈ cs, P c) (by simp) ?_ ?_ hpending h
  · intro a b ha hb
    exact forall_mem_joinParts hblank ha hb
  · intro line hline part goesOn hpart c hc
    exact hphysical line hline c (mem_of_part? hpart hc)

theorem isTrimmed_of_linesFrom
    (hpending : ∀ begun ∈ pending, ∀ c ∈ begun.2.head?, Text.isBlank c = false)
    (h : options.linesFrom number pending physical = .ok lines) :
    ∀ line ∈ lines, Text.IsTrimmed line.text.toList := by
  have hfront : ∀ line ∈ lines, ∀ c ∈ line.text.toList.head?, Text.isBlank c = false := by
    refine forall_text_of_linesFrom (P := fun cs => ∀ c ∈ cs.head?, Text.isBlank c = false)
      (by simp) ?_ ?_ hpending h
    · intro a b ha hb
      unfold joinParts
      split_ifs with hempty hfirst
      · exact ha
      · exact hb
      · rwa [List.head?_append_of_ne_nil _ hfirst]
    · intro line hline part goesOn hpart
      exact Text.forall_mem_head?_of_front (prefix_of_part? hpart)
        (Text.isTrimmed_trimChars line.toList).1
  intro line hline
  obtain ⟨c, hc, hblank, -⟩ := ends_of_linesFrom h line hline
  refine ⟨hfront line hline, ?_⟩
  intro d hd
  obtain rfl := Option.mem_unique hc hd
  exact hblank

theorem ne_empty_of_linesFrom (h : options.linesFrom number pending physical = .ok lines) :
    ∀ line ∈ lines, line.text ≠ "" := by
  intro line hline
  simpa using (ends_of_linesFrom h line hline).ne_nil

end LineOptions

/-! ### The ends of tokens -/

/-- Characters behind a token that may have begun give some tokens, whether they stand in quotes or
not: a character is read, or opens or closes a quote, or ends the token. -/
inductive Reads : Option (List Char) → List Char → List (List Char) → Prop where
  | done (token : Option (List Char)) : Reads token [] token.toList
  | escape {token : Option (List Char)} {q : Char} {cs : List Char} {tokens : List (List Char)}
      (hq : isQuote q = true) (h : Reads (extendToken token q) cs tokens) :
      Reads token ('\\' :: q :: cs) tokens
  | quote {token : Option (List Char)} {c : Char} {cs : List Char} {tokens : List (List Char)}
      (hc : isQuote c = true) (h : Reads (some (token.getD [])) cs tokens) :
      Reads token (c :: cs) tokens
  | char {token : Option (List Char)} {c : Char} {cs : List Char} {tokens : List (List Char)}
      (hplain : IsPlain c cs) (h : Reads (extendToken token c) cs tokens) :
      Reads token (c :: cs) tokens
  | gap {token : Option (List Char)} {c : Char} {cs : List Char} {tokens : List (List Char)}
      (hc : Text.isBlank c = true) (h : Reads none cs tokens) :
      Reads token (c :: cs) (token.toList ++ tokens)

section
variable {offset : Nat} {quote : Option (Char × Nat)} {token : Option (List Char)}
variable {cs : List Char} {c : Char} {tokens : List (List Char)}

/-- The tokens of a text are read from it; where a quote is open a token has begun. -/
theorem reads_of_tokenizeFrom (hopening : ∀ opened ∈ quote, isQuote opened.1 = true)
    (hbegun : quote.isSome → token.isSome) (h : tokenizeFrom offset quote token cs = .ok tokens) :
    Reads token cs tokens := by
  induction cs using escapeInduction generalizing offset quote token tokens with
  | nil =>
    cases quote with
    | some opened => cases h
    | none =>
      cases h
      exact .done token
  | escape q cs hq ih =>
    rw [tokenizeFrom_escape hq] at h
    exact .escape hq (ih hopening (fun _ => rfl) h)
  | plain c cs hplain ih =>
    rw [tokenizeFrom_plain hplain] at h
    obtain ⟨others, hothers, rfl⟩ := map_eq_ok.mp h
    cases quote with
    | some opened =>
      by_cases hc : c = opened.1
      · obtain ⟨own, rfl⟩ := Option.isSome_iff_exists.mp (hbegun rfl)
        simp only [tokenStep, if_pos hc] at hothers ⊢
        exact .quote (hc ▸ hopening opened rfl) (ih (by simp) (by simp) hothers)
      · simp only [tokenStep, if_neg hc] at hothers ⊢
        exact .char hplain (ih hopening (fun _ => rfl) hothers)
    | none =>
      by_cases hquote : isQuote c = true
      · simp only [tokenStep, if_pos hquote] at hothers ⊢
        exact .quote hquote (ih (by simpa using hquote) (fun _ => rfl) hothers)
      · by_cases hblank : Text.isBlank c = true
        · simp only [tokenStep, if_neg hquote, if_pos hblank] at hothers ⊢
          exact .gap hblank (ih (by simp) (by simp) hothers)
        · simp only [tokenStep, if_neg hquote, if_neg hblank] at hothers ⊢
          exact .char hplain (ih (by simp) (by simp) hothers)

theorem forall_mem_extendToken {P : Char → Prop} (hc : P c)
    (htoken : ∀ own ∈ token, ∀ d ∈ own, P d) : ∀ own ∈ extendToken token c, ∀ d ∈ own, P d := by
  rintro _ ⟨⟩
  cases token with
  | none => simpa using hc
  | some own =>
    rw [Option.getD_some, List.forall_mem_append]
    exact ⟨htoken own rfl, by simpa using hc⟩

theorem getLast?_of_mem_extendToken : ∀ own ∈ extendToken token c, own.getLast? = some c := by
  rintro _ ⟨⟩
  simp

namespace Reads

/-- Tokens have no characters but those of the line. -/
theorem forall_mem {P : Char → Prop} (h : Reads token cs tokens) (hcs : ∀ c ∈ cs, P c)
    (htoken : ∀ own ∈ token, ∀ c ∈ own, P c) : ∀ own ∈ tokens, ∀ c ∈ own, P c := by
  induction h with
  | done token => simpa using htoken
  | escape hq h ih =>
    simp only [List.forall_mem_cons] at hcs
    exact ih hcs.2.2 (forall_mem_extendToken hcs.2.1 htoken)
  | @quote token c cs tokens hc h ih =>
    refine ih (List.forall_mem_cons.mp hcs).2 ?_
    rintro _ ⟨⟩
    cases token with
    | none => simp
    | some own => exact htoken own rfl
  | char hplain h ih =>
    obtain ⟨hc, hcs⟩ := List.forall_mem_cons.mp hcs
    exact ih hcs (forall_mem_extendToken hc htoken)
  | gap hc h ih =>
    rw [List.forall_mem_append]
    exact ⟨by simpa using htoken, ih (List.forall_mem_cons.mp hcs).2 (by simp)⟩

/-- A token that has begun ends, and a visible character begins one. -/
theorem ne_nil (h : Reads token cs tokens)
    (hvisible : token.isSome ∨ ∃ c ∈ cs, Text.isBlank c = false) : tokens ≠ [] := by
  induction h with
  | done token =>
    cases token with
    | none => simp at hvisible
    | some own => simp
  | escape hq h ih => exact ih (.inl rfl)
  | quote hc h ih => exact ih (.inl rfl)
  | char hplain h ih => exact ih (.inl rfl)
  | @gap token c cs tokens hc h ih =>
    cases token with
    | some own => simp
    | none =>
      refine ih (.inr ?_)
      simpa [hc] using hvisible

/-- Where a line ends neither with a blank nor with a backslash, its last token does not end with a
backslash: what stands behind one is read too, unless it is a quote, which is read with it. -/
theorem getLast?_ne (h : Reads token cs tokens)
    (hend : ∀ c ∈ cs.getLast?, Text.isBlank c = false ∧ c ≠ '\\')
    (hback : ∀ own ∈ token, own.getLast? = some '\\' → ∃ c ∈ cs.head?, isQuote c = false) :
    ∀ last ∈ tokens.getLast?, last.getLast? ≠ some '\\' := by
  induction h with
  | done token =>
    cases token with
    | none => simp
    | some own => simpa using hback own rfl
  | escape hq h ih =>
    refine ih (fun c hc => hend c (List.mem_getLast?_cons (List.mem_getLast?_cons hc))) ?_
    intro own hown hlast
    rw [getLast?_of_mem_extendToken own hown] at hlast
    obtain rfl := Option.some.inj hlast
    exact absurd hq (by decide)
  | @quote token c cs tokens hc h ih =>
    refine ih (fun d hd => hend d (List.mem_getLast?_cons hd)) ?_
    rintro _ ⟨⟩ hlast
    cases token with
    | none => simp at hlast
    | some own =>
      obtain ⟨_, ⟨⟩, hnot⟩ := hback own rfl hlast
      rw [hc] at hnot
      cases hnot
  | @char token c cs tokens hplain h ih =>
    refine ih (fun d hd => hend d (List.mem_getLast?_cons hd)) ?_
    intro own hown hlast
    rw [getLast?_of_mem_extendToken own hown] at hlast
    obtain rfl := Option.some.inj hlast
    cases cs with
    | nil => exact absurd rfl (hend _ rfl).2
    | cons d cs => exact ⟨d, rfl, hplain rfl d rfl⟩
  | @gap token c cs tokens hc h ih =>
    have hrest : ∀ d ∈ cs.getLast?, Text.isBlank d = false ∧ d ≠ '\\' :=
      fun d hd => hend d (List.mem_getLast?_cons hd)
    cases hlast : cs.getLast? with
    | none =>
      obtain rfl := List.getLast?_eq_none_iff.mp hlast
      rw [(hend c rfl).1] at hc
      cases hc
    | some d =>
      have hne := h.ne_nil (.inr ⟨d, List.mem_of_getLast? hlast, (hrest d hlast).1⟩)
      rw [List.getLast?_append_of_ne_nil _ hne]
      exact ih hrest (by simp)

end Reads

end

theorem reads_of_tokenize {text : String} {tokens : List String} (h : tokenize text = .ok tokens) :
    ∃ own, Reads none text.toList own ∧ tokens = own.map String.ofList := by
  obtain ⟨own, hown, rfl⟩ := map_eq_ok.mp h
  exact ⟨own, reads_of_tokenizeFrom (by simp) (by simp) hown, rfl⟩

end RowRecipe
