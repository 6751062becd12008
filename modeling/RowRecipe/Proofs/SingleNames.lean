import Mathlib.Data.List.TakeDrop
import Mathlib.Data.List.TakeWhile
import RowRecipe.Proofs.Execution
import RowRecipe.Proofs.NormalCells
import RowRecipe.Proofs.Visibility

/-!
# Expressions that are single names

A name that is no word of the language is an expression of its own, and its value for a row is the
normal form of the first cell with that name. So setting a column to it is copying that cell, if the
cell is normal.

Main statements: `Expression.isVariableName_iff`, `RowDirective.setColumn_eq_copy_iff`.
-/
namespace RowRecipe

namespace Expression

/-- A name that is read as that of a variable. -/
def IsVariableName (name : String) : Prop :=
  wordToken name.toList = .name name

instance : DecidablePred IsVariableName :=
  fun name => inferInstanceAs (Decidable (wordToken name.toList = .name name))

/-! ### The characters of a name -/

theorem ne_of_beginsName {c d : Char} (h : beginsName c = true) (hd : beginsName d = false) :
    c ≠ d := by
  intro heq
  rw [heq, hd] at h
  cases h

/-- Letters and the underscore come behind the digits. -/
theorem isDigit_of_beginsName {c : Char} (h : beginsName c = true) : c.isDigit = false := by
  rw [Bool.eq_false_iff]
  intro hdigit
  have hlast : c.val ≤ '9'.val := of_decide_eq_true (Bool.and_eq_true_iff.mp hdigit).2
  cases Bool.or_eq_true_iff.mp h with
  | inl hletter =>
    cases Bool.or_eq_true_iff.mp hletter with
    | inl hupper =>
      have hfirst : 'A'.val ≤ c.val := (of_decide_eq_true hupper).1
      exact absurd (UInt32.le_trans hfirst hlast) (by decide)
    | inr hlower =>
      have hfirst : 'a'.val ≤ c.val := of_decide_eq_true (Bool.and_eq_true_iff.mp hlower).1
      exact absurd (UInt32.le_trans hfirst hlast) (by decide)
  | inr hunderscore =>
    obtain rfl : c = '_' := beq_iff_eq.mp hunderscore
    exact absurd hlast (by decide)

theorem isNameChar_of_beginsName {c : Char} (h : beginsName c = true) : isNameChar c = true := by
  cases Bool.or_eq_true_iff.mp h with
  | inl hletter => simp [isNameChar, Char.isAlphanum, hletter]
  | inr hunderscore => simp [isNameChar, hunderscore]

/-- The first character of a name begins one, and all others go on in one. -/
theorem exists_cons_of_isName {word : List Char} (h : isName word = true) :
    ∃ c cs, word = c :: cs ∧ beginsName c = true ∧ cs.all isNameChar = true := by
  induction word with
  | nil => cases h
  | cons c cs ih =>
    by_cases hc : c = '_'
    · subst hc
      have hrest : isName cs = true := h
      obtain ⟨d, ds, rfl, hd, hds⟩ := ih hrest
      refine ⟨'_', d :: ds, rfl, rfl, ?_⟩
      rw [List.all_cons, isNameChar_of_beginsName hd, hds]
      rfl
    · simp only [isName, List.dropWhile_cons, beq_iff_eq, hc, if_false, Bool.and_eq_true] at h
      exact ⟨c, cs, rfl, by simp [beginsName, h.1], h.2⟩

theorem exists_cons_of_isIdentifier {name : String} (h : isIdentifier name = true) :
    ∃ c cs, name.toList = c :: cs ∧ beginsName c = true ∧ cs.all isNameChar = true := by
  unfold isIdentifier at h
  split at h
  · cases h
  · next c cs hword => exact ⟨c, cs, hword, Bool.and_eq_true_iff.mp h⟩

theorem isName_of_isVariableName {name : String} (h : IsVariableName name) :
    isName name.toList = true := by
  cases hname : isName name.toList with
  | true => rfl
  | false =>
    simp only [IsVariableName, wordToken, hname, Bool.false_eq_true, if_false] at h
    split_ifs at h

theorem isIdentifier_of_isVariableName {name : String} (h : IsVariableName name) :
    isIdentifier name = true := by
  obtain ⟨c, cs, hword, hfirst, hrest⟩ := exists_cons_of_isName (isName_of_isVariableName h)
  simp [isIdentifier, hword, hfirst, hrest]

/-! ### Reading a name -/

theorem braces_nil (token : Token) : braces token [] = [] := by
  unfold braces
  split <;> simp_all

section
variable {c : Char} {cs : List Char} (hfirst : beginsName c = true)
  (hrest : cs.all isNameChar = true)
include hfirst hrest

theorem readPiece_word (place : Position) :
    readPiece false place c cs = pieceOf (wordToken (c :: cs)) place (c :: cs) [] := by
  have hgap : isGap c = false := by
    simp (disch := decide) [isGap, ne_of_beginsName hfirst]
  have hall : ∀ d ∈ c :: cs, isNameChar d = true :=
    List.forall_mem_cons.mpr ⟨isNameChar_of_beginsName hfirst, List.all_eq_true.mp hrest⟩
  have htake : (c :: cs).takeWhile isNameChar = c :: cs := List.takeWhile_eq_self_iff.mpr hall
  have hdrop : (c :: cs).dropWhile isNameChar = [] := List.dropWhile_eq_nil_iff.mpr hall
  simp (disch := decide) [readPiece, hgap, isDigit_of_beginsName hfirst, ne_of_beginsName hfirst,
    hfirst, List.span_eq_takeWhile_dropWhile, htake, hdrop]

theorem tokensFrom_word {token : Token} (htoken : wordToken (c :: cs) = token)
    (hbad : ∀ fault, token ≠ .bad fault) (hpiece : ∀ text, token ≠ .piece text) (count : Nat)
    (place : Position) :
    tokensFrom (count + 2) false [] place (c :: cs) =
      [(token, place), (.finish, placeBehind place (c :: cs))] := by
  rw [tokensFrom]
  · simp only [readPiece_word hfirst hrest, pieceOf, htoken, List.length_nil, Nat.sub_zero,
      List.take_length]
    cases token with
    | bad fault => exact absurd rfl (hbad fault)
    | piece text => exact absurd rfl (hpiece text)
    | _ =>
      rw [braces_nil]
      rfl
  · intro outer h
    cases h

theorem tokensFrom_bad {fault : LexicalFault} (htoken : wordToken (c :: cs) = .bad fault)
    (count : Nat) (place : Position) :
    tokensFrom (count + 1) false [] place (c :: cs) = [(.bad fault, place)] := by
  rw [tokensFrom]
  · simp only [readPiece_word hfirst hrest, pieceOf, htoken]
  · intro outer h
    cases h

end

theorem wordToken_cases (name : String) :
    (∃ value, wordToken name.toList = .boolean value) ∨
      (name ∈ symbolWords ∧ wordToken name.toList = .symbol name) ∨
      (name ∈ reservedWords.map Prod.fst ∧ wordToken name.toList = .reserved name) ∨
      IsVariableName name ∨ ∃ fault, wordToken name.toList = .bad fault := by
  unfold IsVariableName wordToken
  simp only [String.ofList_toList]
  split_ifs <;> simp_all

/-- Of an identifier there is one token. -/
theorem tokens_identifier {name : String} (h : isIdentifier name = true) {token : Token}
    (htoken : wordToken name.toList = token) (hbad : ∀ fault, token ≠ .bad fault)
    (hpiece : ∀ text, token ≠ .piece text) :
    tokens name = [(token, .start), (.finish, placeBehind .start name.toList)] := by
  obtain ⟨c, cs, hword, hfirst, hrest⟩ := exists_cons_of_isIdentifier h
  rw [hword] at htoken ⊢
  rw [tokens, hword, tokensFrom_word hfirst hrest htoken hbad hpiece]

theorem tokens_bad {name : String} (h : isIdentifier name = true) {fault : LexicalFault}
    (htoken : wordToken name.toList = .bad fault) : tokens name = [(.bad fault, .start)] := by
  obtain ⟨c, cs, hword, hfirst, hrest⟩ := exists_cons_of_isIdentifier h
  rw [hword] at htoken
  rw [tokens, hword, tokensFrom_bad hfirst hrest htoken]

/-- A name that is read as that of a variable is compiled to the variable. -/
theorem compile_of_isVariableName {name : String} (h : IsVariableName name) :
    compile name = .ok ⟨name, .variable name .start⟩ := by
  have htokens := tokens_identifier (isIdentifier_of_isVariableName h) h nofun nofun
  rw [compile, Tree.parse, htokens]
  rfl

/-- Whether tokens are read as a variable. -/
def isVariable (tokens : Tokens) : Bool :=
  match (readAll tokens ((readers maxLevels).tree .expression)).map Tree.simplify with
  | .ok (.variable _ _) => true
  | _ => false

theorem isVariable_symbol (place behind : Position) : ∀ word ∈ symbolWords,
    isVariable [(.symbol word, place), (.finish, behind)] = false := by
  simp only [symbolWords, List.forall_mem_cons, List.not_mem_nil, false_imp_iff, implies_true,
    and_true]
  and_intros <;> rfl

theorem isVariable_reserved (place behind : Position) : ∀ word ∈ reservedWords.map Prod.fst,
    isVariable [(.reserved word, place), (.finish, behind)] = false := by
  simp only [reservedWords, List.map_append, List.map_cons, List.map_nil, List.forall_mem_append,
    List.forall_mem_cons, List.not_mem_nil, false_imp_iff, implies_true, and_true]
  and_intros <;> rfl

theorem isVariable_of_compile {name : String} {place : Position}
    (h : compile name = .ok ⟨name, .variable name place⟩) : isVariable (tokens name) = true := by
  obtain ⟨tree, htree, heq⟩ := map_eq_ok.mp h
  have hsimplify : tree.simplify = .variable name place := congrArg Expression.tree heq
  have hread : readAll (tokens name) ((readers maxLevels).tree .expression) = .ok tree := htree
  rw [isVariable, hread]
  simp only [Except.map, hsimplify]

/-- No other identifiers are compiled to their variables. -/
theorem isVariableName_iff {name : String} :
    IsVariableName name ↔ isIdentifier name = true ∧
      ∃ place, compile name = .ok ⟨name, .variable name place⟩ := by
  constructor
  · intro h
    exact ⟨isIdentifier_of_isVariableName h, .start, compile_of_isVariableName h⟩
  · rintro ⟨hidentifier, place, h⟩
    have hvariable := isVariable_of_compile h
    obtain ⟨value, htoken⟩ | ⟨hword, htoken⟩ | ⟨hword, htoken⟩ | hname | ⟨fault, htoken⟩ :=
      wordToken_cases name
    · rw [tokens_identifier hidentifier htoken nofun nofun] at hvariable
      cases hvariable
    · rw [tokens_identifier hidentifier htoken nofun nofun,
        isVariable_symbol _ _ name hword] at hvariable
      cases hvariable
    · rw [tokens_identifier hidentifier htoken nofun nofun,
        isVariable_reserved _ _ name hword] at hvariable
      cases hvariable
    · exact hname
    · rw [tokens_bad hidentifier htoken] at hvariable
      cases hvariable

/-! ### Evaluating a name -/

theorem contents_ofCell (state : State) (cell : Cell) :
    state.contents (.ofCell cell) = .ofCell cell := by
  cases cell <;> rfl

/-- A computation goes on with what its first part gives. -/
theorem run_bind_of_ok {α β : Type} {x : Eval α} {f : α → Eval β} {state after : State} {a : α}
    (h : x.run state = (.ok a, after)) : (x >>= f).run state = (f a).run after := by
  have hx : (x : StateM State (Except Halt α)) state = (.ok a, after) := h
  simp only [ExceptT.run, bind, ExceptT.bind, ExceptT.mk, StateT.bind, hx, ExceptT.bindCont]

section
variable {state : State} {name : String} {value : Value} (h : state.held? name = some value)
  (place : Position)
include h

theorem run_heldValue : (heldValue name place).run state = (.ok value, state) := by
  have hget : (get : Eval State).run state = (.ok state, state) := rfl
  rw [heldValue, run_bind_of_ok hget, h]
  rfl

theorem run_readVariable :
    (readVariable name place).run state = (.ok (state.contents value), state) := by
  rw [readVariable, run_bind_of_ok (run_heldValue h place)]
  rfl

end

theorem value_variable {scope : Scope} {name : String} {cell : Cell}
    (h : scope.get? name = some (.ofCell cell)) (place : Position) :
    (Tree.variable name place).value scope = .ok (.ofCell cell) := by
  have hheld : (State.ofScope scope).held? name = some (.ofCell cell) := h
  rw [Tree.value, Tree.evaluate, run_readVariable hheld, contents_ofCell]

/-- The value of a single name is the normal form of the cell that is seen there. -/
theorem evaluate_name {row : Row} {store : Store} {name : String} {value : Cell}
    (hname : IsVariableName name) (hstore : store.get? name = none)
    (hvalue : row.get? name = some value) :
    (⟨name, .variable name .start⟩ : Expression).evaluate row store = .ok value.normal := by
  have hseen : seen? row store name = some value := by
    rw [seen?, hstore, if_pos (isIdentifier_of_isVariableName hname), hvalue]
    rfl
  have hscope : (scope row store).get? name = some (.ofCell value) := by
    rw [get?_scope, hseen]
    rfl
  rw [evaluate, value_variable hscope]
  exact congrArg Except.ok value.toCell_ofCell

end Expression

/-! ### Setting and copying -/

namespace RowDirective
variable {row : Row} {store : Store} {name : String} {value : Cell}

theorem apply_copy_of_get? (hvalue : row.get? name = some value) (column : String) :
    (copy name column true).apply store row = .ok [.keep (Row.put column value row)] := by
  obtain ⟨position, hposition⟩ := Row.exists_require_of_get? hvalue
  rw [apply, Row.copyColumn, hposition]
  simp [ok_bind, Except.map, pure, Except.pure]

theorem apply_setColumn_of_get? (hname : Expression.IsVariableName name)
    (hstore : store.get? name = none) (hvalue : row.get? name = some value) (column : String) :
    (setColumn column ⟨name, .variable name .start⟩).apply store row =
      .ok [.keep (Row.put column value.normal row)] := by
  rw [apply, Expression.cellFor, Expression.evaluate_name hname hstore hvalue]
  rfl

/-- What comes back of a cell is its normal form, which is normal, and only a normal cell comes back
as it was. So where all rows have a column, setting a column to its name makes the rows that copying
it makes if and only if all cells that are copied are normal. -/
theorem setColumn_eq_copy_iff :
    (∀ cell : Cell, (Expression.Value.ofCell cell).toCell = cell.normal ∧
      cell.normal.normal = cell.normal ∧ (cell.normal = cell ↔ cell.IsNormal)) ∧
    ∀ (name column : String) (rows : List Row) (store : Store),
      Expression.IsVariableName name → store.get? name = none →
      (∀ row ∈ rows, ∃ value, row.get? name = some value) →
      ∃ (expression : Expression) (passed copied : List Row),
        Expression.compile name = .ok expression ∧
        (Directive.builtin (.row (.setColumn column expression))).execute rows store =
          (.ok (passed.map .keep), store) ∧
        (Directive.builtin (.row (.copy name column true))).execute rows store =
          (.ok (copied.map .keep), store) ∧
        (passed = copied ↔
          ∀ row ∈ rows, ∀ value, row.get? name = some value → value.IsNormal) := by
  constructor
  · intro cell
    exact ⟨cell.toCell_ofCell, cell.normal_normal, Cell.normal_eq_self_iff⟩
  · intro name column rows store hname hstore hrows
    let found (row : Row) : Cell := (row.get? name).getD .null
    have hfound : ∀ row ∈ rows, row.get? name = some (found row) := by
      intro row hrow
      obtain ⟨value, hvalue⟩ := hrows row hrow
      simp only [found, hvalue, Option.getD_some]
    have hpassed : ∀ row ∈ rows,
        (setColumn column ⟨name, .variable name .start⟩).apply store row =
          .ok [.keep (Row.put column (found row).normal row)] :=
      fun row hrow => apply_setColumn_of_get? hname hstore (hfound row hrow) column
    have hcopied : ∀ row ∈ rows, (copy name column true).apply store row =
        .ok [.keep (Row.put column (found row) row)] :=
      fun row hrow => apply_copy_of_get? (hfound row hrow) column
    have hsame : rows.map id = rows := List.map_id rows
    refine ⟨_, _, _, Expression.compile_of_isVariableName hname,
      hsame ▸ Directive.execute_row_map id _ hpassed,
      hsame ▸ Directive.execute_row_map id _ hcopied, ?_⟩
    simp only [List.map_inj_left, Row.put_inj, Cell.normal_eq_self_iff]
    constructor
    · intro h row hrow value hvalue
      rw [hfound row hrow, Option.some.injEq] at hvalue
      exact hvalue ▸ h row hrow
    · intro h row hrow
      exact h row hrow _ (hfound row hrow)

/-- A list in which a row has its names in order. -/
def orderedCell : Cell :=
  .list [.row [("x", .float Binary64.notANumber), ("y", .bytes [0])]]

/-- A row with its names out of order, one of which comes twice. -/
def unorderedCell : Cell :=
  .row [("y", .whole 1), ("x", .null), ("y", .whole 2)]

theorem isNormal_orderedCell : orderedCell.IsNormal := by
  apply Cell.IsNormal.list
  rw [List.forall_mem_singleton]
  apply Cell.IsNormal.row
  · decide
  · rw [List.forall_mem_cons, List.forall_mem_singleton]
    exact ⟨.float _, .bytes _⟩

theorem not_isNormal_unorderedCell : ¬unorderedCell.IsNormal := by
  intro h
  cases h with
  | row hnames _ => exact absurd hnames (by decide)

/-- One row more tells setting a column from copying it. -/
theorem setColumn_eq_copy_iff_orderedCell :
    let rows : List Row := [[("a", orderedCell), ("d", .null)]]
    let more : List Row := rows ++ [[("b", .null), ("a", unorderedCell)]]
    Expression.IsVariableName "a" ∧
      (∃ (expression : Expression) (made : List Row), Expression.compile "a" = .ok expression ∧
        (Directive.builtin (.row (.setColumn "d" expression))).execute rows .empty =
          (.ok (made.map .keep), .empty) ∧
        (Directive.builtin (.row (.copy "a" "d" true))).execute rows .empty =
          (.ok (made.map .keep), .empty)) ∧
      ∃ (expression : Expression) (passed copied : List Row),
        Expression.compile "a" = .ok expression ∧
        (Directive.builtin (.row (.setColumn "d" expression))).execute more .empty =
          (.ok (passed.map .keep), .empty) ∧
        (Directive.builtin (.row (.copy "a" "d" true))).execute more .empty =
          (.ok (copied.map .keep), .empty) ∧ passed ≠ copied := by
  intro rows more
  have hname : Expression.IsVariableName "a" := by decide
  refine ⟨hname, ?_, ?_⟩
  · obtain ⟨expression, passed, copied, hcompile, hpassed, hcopied, hiff⟩ :=
      setColumn_eq_copy_iff.2 "a" "d" rows .empty hname rfl
        (List.forall_mem_singleton.mpr ⟨orderedCell, rfl⟩)
    have hsame : passed = copied := by
      apply hiff.mpr
      rw [List.forall_mem_singleton]
      intro value hvalue
      cases hvalue
      exact isNormal_orderedCell
    exact ⟨expression, passed, hcompile, hpassed, hsame ▸ hcopied⟩
  · obtain ⟨expression, passed, copied, hcompile, hpassed, hcopied, hiff⟩ :=
      setColumn_eq_copy_iff.2 "a" "d" more .empty hname rfl
        (List.forall_mem_cons.mpr ⟨⟨orderedCell, rfl⟩,
          List.forall_mem_singleton.mpr ⟨unorderedCell, rfl⟩⟩)
    refine ⟨expression, passed, copied, hcompile, hpassed, hcopied, ?_⟩
    intro hsame
    have hall := hiff.mp hsame
    exact not_isNormal_unorderedCell
      (hall _ (List.mem_cons_of_mem _ List.mem_cons_self) unorderedCell rfl)

end RowDirective

end RowRecipe
