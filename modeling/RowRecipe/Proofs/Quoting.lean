import RowRecipe.Proofs.Catalog
import RowRecipe.Proofs.Writing

/-!
# Expressions in quotes

An expression in quotes is a token as it is. But its parameter is a text, and a text that begins and
ends with the same quote loses both, whether they belong together or not. So an expression that
begins with one literal and ends with another comes out without the outer quotes of either.

Main statement: `Catalog.bind_setColumnLine`.
-/
namespace RowRecipe

/-- Characters between two quotes of one kind. -/
def IsEnclosed (cs : List Char) : Prop :=
  ∃ q body, isQuote q = true ∧ cs = q :: (body ++ [q])

section
variable {cs inner body : List Char} {q : Char}

theorem unquoteWith?_eq_some_iff : unquoteWith? q cs = some inner ↔ cs = q :: (inner ++ [q]) := by
  cases cs with
  | nil => simp [unquoteWith?]
  | cons first rest =>
    rw [unquoteWith?, List.cons.injEq]
    constructor
    · intro h
      split at h
      · next hquotes =>
        obtain ⟨hfirst, hlast⟩ := hquotes
        obtain rfl := Option.some.inj h
        exact ⟨hfirst, (List.dropLast_append_getLast? q hlast).symm⟩
      · cases h
    · rintro ⟨rfl, rfl⟩
      simp

theorem unquoteWith?_eq_none (h : ¬IsEnclosed cs) (hq : isQuote q = true) :
    unquoteWith? q cs = none := by
  rw [Option.eq_none_iff_forall_ne_some]
  intro inner hinner
  exact h ⟨q, inner, hq, unquoteWith?_eq_some_iff.mp hinner⟩

theorem unquote_of_not_enclosed (h : ¬IsEnclosed cs) : unquote cs = cs := by
  have hsingle : unquoteWith? '\'' cs = none := unquoteWith?_eq_none h rfl
  have hdouble : unquoteWith? '"' cs = none := unquoteWith?_eq_none h rfl
  simp only [unquote, hsingle, hdouble, Option.getD_none]

theorem unquote_enclosed (hq : isQuote q = true) (body : List Char) :
    unquote (q :: (body ++ [q])) = body := by
  rw [isQuote, Bool.or_eq_true, beq_iff_eq, beq_iff_eq] at hq
  rcases hq with rfl | rfl
  · have hsingle : unquoteWith? '\'' ('\'' :: (body ++ ['\''])) = some body :=
      unquoteWith?_eq_some_iff.mpr rfl
    simp only [unquote, hsingle]
  · have hsingle : unquoteWith? '\'' ('"' :: (body ++ ['"'])) = none := by simp [unquoteWith?]
    have hdouble : unquoteWith? '"' ('"' :: (body ++ ['"'])) = some body :=
      unquoteWith?_eq_some_iff.mpr rfl
    simp only [unquote, hsingle, hdouble, Option.getD_some]

theorem unquote_eq_self_iff : unquote cs = cs ↔ ¬IsEnclosed cs := by
  constructor
  · rintro hself ⟨q, body, hq, rfl⟩
    rw [unquote_enclosed hq] at hself
    have hlength := congrArg List.length hself
    simp only [List.length_cons, List.length_append, List.length_nil] at hlength
    omega
  · exact unquote_of_not_enclosed

end

/-! ### Setting a column -/

/-- A token that may stand in a line as it is. -/
def IsWord (token : String) : Prop :=
  token ≠ "" ∧ ∀ c ∈ token.toList, Text.isBlank c = false ∧ isQuote c = false

instance (token : String) : Decidable (IsWord token) :=
  decidable_of_iff
    (token ≠ "" ∧ token.toList.all (fun c => !Text.isBlank c && !isQuote c) = true)
    (by simp [IsWord])

/-- Characters in quotes, a backslash in front of each quote among them. -/
def inQuotes (cs : List Char) : List Char :=
  '\'' :: (cs.flatMap writtenChar ++ ['\''])

/-- A line that sets a column to an expression in quotes. -/
def setColumnLine (column expression : String) : String :=
  "set-column" ++ " " ++ (column ++ " " ++ String.ofList (inQuotes expression.toList))

section
variable {column expression word : String}

theorem tokenize_word (h : IsWord word) : tokenize word = .ok [word] := by
  obtain ⟨hne, hchars⟩ := h
  obtain ⟨c, rest, hword⟩ := List.exists_cons_of_ne_nil (String.toList_eq_nil_iff.not.mpr hne)
  rw [hword] at hchars
  obtain ⟨⟨hblank, hquote⟩, hrest⟩ := List.forall_mem_cons.mp hchars
  have hplain : IsPlain c rest := fun _ q hq => (hrest q (List.mem_of_mem_head? hq)).2
  have hread : tokenizeFrom 0 none none (c :: rest) = .ok [c :: rest] := by
    rw [tokenizeFrom_plain hplain, tokenStep_word hblank hquote, map_nil_append, extendToken,
      tokenizeFrom_word hrest]
    rfl
  rw [tokenize, hword, hread]
  simp [Except.map, ← hword]

theorem writtenToken_eq_inQuotes {cs : List Char} (hend : cs.getLast? ≠ some '\\') :
    writtenToken cs = inQuotes cs := by
  have hslash : ∀ hne, ¬(cs.getLast hne == '\\') = true := by
    intro hne hback
    rw [List.getLast?_eq_some_getLast hne, beq_iff_eq.mp hback] at hend
    exact hend rfl
  rw [writtenToken, List.rdropWhile_eq_self_iff.mpr hslash, List.rtakeWhile_eq_nil_iff.mpr hslash,
    inQuotes]

theorem tokenize_setColumnLine (hcolumn : IsWord column)
    (hend : expression.toList.getLast? ≠ some '\\') :
    tokenize (setColumnLine column expression) = .ok ["set-column", column, expression] := by
  have hgap : Text.isBlankText " " = true := by decide
  have hname : tokenize "set-column" = .ok ["set-column"] := by decide
  have hexpression : tokenize (String.ofList (inQuotes expression.toList)) = .ok [expression] := by
    rw [← writtenToken_eq_inQuotes hend, tokenize_writtenToken, String.ofList_toList]
  rw [setColumnLine, tokenize_append_gap hname (by decide) hgap,
    tokenize_append_gap (tokenize_word hcolumn) (by decide) hgap, hexpression]
  rfl

theorem logicalLines_setColumnLine (column expression : String) :
    LineOptions.standard.logicalLines [setColumnLine column expression] =
      .ok [⟨1, setColumnLine column expression⟩] := by
  have hchars : ∃ body, (setColumnLine column expression).toList = 's' :: (body ++ ['\'']) :=
    ⟨"et-column ".toList ++ column.toList ++ " '".toList ++ expression.toList.flatMap writtenChar,
      by simp [setColumnLine, inQuotes]⟩
  obtain ⟨body, hbody⟩ := hchars
  have hlast : (setColumnLine column expression).toList.getLast? = some '\'' := by
    rw [hbody, ← List.cons_append, List.getLast?_concat]
  have htrimmed : Text.IsTrimmed (setColumnLine column expression).toList := by
    constructor
    · rw [hbody]
      rintro _ ⟨⟩
      decide
    · rw [hlast]
      rintro _ ⟨⟩
      decide
  refine LineOptions.logicalLines_single LineOptions.visible_standard ⟨?_, ?_, ?_⟩ ?_
  · exact Text.trim_eq_self_iff.mpr htrimmed
  · intro hempty
    rw [hempty] at hbody
    cases hbody
  · rw [hbody]
    rfl
  · rw [hlast]
    decide

namespace Catalog

theorem usage_bind_setColumn (column expression line : String) :
    setColumn.usage.bind (.ofList [("column", column), ("expression", expression)]) line =
      .ok ⟨.ofList [("column", .columnName column),
        ("expression", .text (String.ofList (unquote expression.toList)))], line⟩ := by
  have hparameters : setColumn.usage.parameters =
      [⟨"column", .columnName, true⟩, ⟨"expression", .text, true⟩] := rfl
  have hcolumn : (SortedMap.ofList [("column", column), ("expression", expression)]).get?
      "column" = some column := by
    simp [SortedMap.get?_ofList_cons]
  have hexpression : (SortedMap.ofList [("column", column), ("expression", expression)]).get?
      "expression" = some expression := by
    simp [SortedMap.get?_ofList_cons]
  rw [Usage.bind, hparameters]
  simp only [Usage.bindParameters, hcolumn, hexpression, Argument.read, ok_bind]
  rfl

/-- A line that sets a column to an expression in quotes is read as that. The directive has the
expression as it is, unless the expression begins and ends with the same quote: then it has what is
between these two. -/
theorem bind_setColumnLine (hcolumn : IsWord column)
    (hend : expression.toList.getLast? ≠ some '\\') :
    let line := setColumnLine column expression
    let tokens := ["set-column", column, expression]
    LineOptions.standard.logicalLines [line] = .ok [⟨1, line⟩] ∧
      tokenize line = .ok tokens ∧
      ∃ bindings arguments, setColumn.usage.pattern.bindings tokens = .ok bindings ∧
        setColumn.usage.bind bindings line = .ok arguments ∧
        arguments.values.get? "column" = some (.columnName column) ∧
        (arguments.values.get? "expression" = some (.text expression) ↔
          ¬IsEnclosed expression.toList) ∧
        ∀ q body, isQuote q = true → expression.toList = q :: (body ++ [q]) →
          arguments.values.get? "expression" = some (.text (String.ofList body)) := by
  intro line tokens
  have hbind := usage_bind_setColumn column expression line
  have hexpression : (SortedMap.ofList [("column", Argument.columnName column),
      ("expression", .text (String.ofList (unquote expression.toList)))]).get? "expression" =
        some (.text (String.ofList (unquote expression.toList))) := by
    simp [SortedMap.get?_ofList_cons]
  refine ⟨logicalLines_setColumnLine column expression, tokenize_setColumnLine hcolumn hend,
    _, _, rfl, hbind, by simp [SortedMap.get?_ofList_cons], ?_, ?_⟩
  · rw [hexpression, Option.some.injEq, Argument.text.injEq, ← String.toList_inj,
      String.toList_ofList, unquote_eq_self_iff]
  · intro q body hq hbody
    rw [hexpression, hbody, unquote_enclosed hq]

/-- Quotes in an expression, one of them in the other: both stay. -/
theorem bind_setColumnLine_kept :
    let expression := "a + \"it's\""
    let line := setColumnLine "c" expression
    line = "set-column c 'a + \\\"it\\'s\\\"'" ∧
      tokenize line = .ok ["set-column", "c", expression] ∧
      ∃ bindings arguments,
        setColumn.usage.pattern.bindings ["set-column", "c", expression] = .ok bindings ∧
        setColumn.usage.bind bindings line = .ok arguments ∧
        arguments.values.get? "expression" = some (.text expression) := by
  intro expression line
  have hcolumn : IsWord "c" := by decide
  have hend : expression.toList.getLast? ≠ some '\\' := by decide
  have henclosed : ¬IsEnclosed expression.toList := by
    rintro ⟨q, body, hq, hexpression⟩
    have hfirst : expression.toList.head? = some 'a' := by decide
    rw [hexpression] at hfirst
    cases hfirst
    cases hq
  obtain ⟨-, htokens, bindings, arguments, hbindings, hbind, -, hkept, -⟩ :=
    bind_setColumnLine hcolumn hend
  exact ⟨by decide, htokens, bindings, arguments, hbindings, hbind, hkept.mpr henclosed⟩

/-- An expression between two literals is not in quotes itself, but loses the first quote of the one
and the last of the other. -/
theorem bind_setColumnLine_between :
    let expression := "\"a\" + b + \"c\""
    let line := setColumnLine "c" expression
    IsWord "c" ∧ expression.toList.getLast? ≠ some '\\' ∧
      (¬∃ q body, isQuote q = true ∧ q ∉ body ∧ expression.toList = q :: (body ++ [q])) ∧
      tokenize line = .ok ["set-column", "c", expression] ∧
      ∃ bindings arguments,
        setColumn.usage.pattern.bindings ["set-column", "c", expression] = .ok bindings ∧
        setColumn.usage.bind bindings line = .ok arguments ∧
        arguments.values.get? "expression" = some (.text "a\" + b + \"c") ∧
        arguments.values.get? "expression" ≠ some (.text expression) := by
  intro expression line
  have hcolumn : IsWord "c" := by decide
  have hend : expression.toList.getLast? ≠ some '\\' := by decide
  have hexpression : expression.toList = '"' :: ("a\" + b + \"c".toList ++ ['"']) := by decide
  refine ⟨hcolumn, hend, ?_, tokenize_setColumnLine hcolumn hend, _, _, rfl,
    usage_bind_setColumn "c" expression line, ?_, ?_⟩
  · rintro ⟨q, body, -, hbody, hspan⟩
    obtain ⟨rfl, hrest⟩ := List.cons.inj (hexpression.symm.trans hspan)
    rw [← List.append_cancel_right hrest] at hbody
    exact hbody (by decide)
  · rw [hexpression, unquote_enclosed rfl, String.ofList_toList]
    simp [SortedMap.get?_ofList_cons]
  · rw [hexpression, unquote_enclosed rfl, String.ofList_toList]
    simp [SortedMap.get?_ofList_cons, expression]

end Catalog

end

end RowRecipe
