import RowRecipe.Expression
import RowRecipe.Proofs.Entries

/-!
# What an expression sees of a row

A scope is made by two loops, over the cells of a row and over the variables of the run. A name that
is looked up in it is that of a variable, or an identifier that is looked up in the row. So an
expression cannot tell two rows apart in which the identifiers that no variable hides have the same
first cells.

Main statements: `Expression.evaluate_visible`, `Expression.evaluate_eq_and_test_eq`.
-/
namespace RowRecipe

namespace Expression

variable {name : String} {bound : Bindings} {store : Store} {first second : Row}

/-! ### The two loops -/

/-- A cell is bound if nothing is bound to its name, so the first cell with a name is. -/
theorem lookupEntry_bindCells (name : String) (cells : Row) (bound : Bindings) :
    lookupEntry name (bindCells cells bound) =
      (lookupEntry name bound).or
        (if isIdentifier name then (Row.get? cells name).map Value.ofCell else none) := by
  induction cells generalizing bound with
  | nil => simp [bindCells, Row.get?, lookupEntry]
  | cons cell cells ih =>
    cases cell with
    | mk own value =>
      rw [bindCells, Row.get?, lookupEntry]
      by_cases hname : own = name
      · subst hname
        cases hidentifier : isIdentifier own <;> cases hbound : lookupEntry own bound <;>
          simp [ih, hidentifier, hbound, lookupEntry]
      · rw [if_neg hname]
        split
        · rw [ih, lookupEntry, if_neg hname]
          rfl
        · exact ih bound

theorem bindVariables_eq (entries : List (String × Cell)) (bound : Bindings) :
    bindVariables entries bound =
      (entries.map fun entry => (entry.1, Value.ofCell entry.2)).reverse ++ bound := by
  induction entries generalizing bound with
  | nil => rfl
  | cons entry entries ih => simp [bindVariables, ih]

/-- A variable hides what is bound to its name. -/
theorem lookupEntry_bindVariables (name : String) (store : Store) (bound : Bindings) :
    lookupEntry name (bindVariables store.entries bound) =
      ((store.get? name).map Value.ofCell).or (lookupEntry name bound) := by
  have hnodup :
      ((store.entries.map fun entry => (entry.1, Value.ofCell entry.2)).map Prod.fst).Nodup := by
    rw [List.map_map]
    exact nodup_of_sorted store.sorted
  rw [bindVariables_eq, lookupEntry_append,
    ← lookupEntry_perm (List.reverse_perm _).symm hnodup name, lookupEntry_map]
  rfl

/-! ### Looking a name up -/

/-- What there is at a name: the variable, or else the first cell if the name is an identifier. -/
def seen? (row : Row) (store : Store) (name : String) : Option Cell :=
  (store.get? name).or (if isIdentifier name then row.get? name else none)

theorem get?_scope (row : Row) (store : Store) (name : String) :
    (scope row store).get? name = (seen? row store name).map Value.ofCell := by
  rw [scope, SortedMap.get?_ofFirsts, bindings, lookupEntry_bindVariables, lookupEntry_bindCells,
    seen?]
  cases store.get? name <;> cases isIdentifier name <;> rfl

/-- A scope is told by what is seen at each name. -/
theorem scope_eq_of_seen? (h : ∀ name, seen? first store name = seen? second store name) :
    scope first store = scope second store := by
  apply SortedMap.ext_get?
  intro name
  rw [get?_scope, get?_scope, h]

theorem seen?_congr
    (h : isIdentifier name = true → store.get? name = none → first.get? name = second.get? name) :
    seen? first store name = seen? second store name := by
  unfold seen?
  cases hstore : store.get? name with
  | some value => rfl
  | none =>
    cases hidentifier : isIdentifier name with
    | false => rfl
    | true => simp [h hidentifier hstore]

/-- The cells that can be seen: the first ones of the identifiers that no variable hides, in the
order of their names. -/
def visible (store : Store) (row : Row) : Row :=
  sortedFirsts (row.keep fun name => isIdentifier name && (store.get? name).isNone)

theorem get?_visible (hidentifier : isIdentifier name = true) (hstore : store.get? name = none)
    (row : Row) : Row.get? (visible store row) name = row.get? name := by
  have hwanted : (isIdentifier name && (store.get? name).isNone) = true := by
    simp [hidentifier, hstore]
  rw [visible, Row.get?, lookupEntry_sortedFirsts, Row.keep]
  exact lookupEntry_filter (fun name => isIdentifier name && (store.get? name).isNone) hwanted

/-- The order of the columns, later cells with a name, other names and hidden columns do not
count. -/
theorem evaluate_visible (expression : Expression) (row : Row) (store : Store) :
    expression.evaluate (visible store row) store = expression.evaluate row store := by
  have hscope : scope (visible store row) store = scope row store := by
    apply scope_eq_of_seen?
    intro name
    exact seen?_congr fun hidentifier hstore => get?_visible hidentifier hstore row
  rw [evaluate, evaluate, hscope]

/-- An expression sees of a row what is looked up at the identifiers that no variable hides. -/
theorem evaluate_eq_and_test_eq (expression : Expression) (store : Store) (first second : Row)
    (h : ∀ name, isIdentifier name = true → store.get? name = none →
      first.get? name = second.get? name) :
    expression.evaluate first store = expression.evaluate second store ∧
      expression.test first store = expression.test second store := by
  have hscope : scope first store = scope second store :=
    scope_eq_of_seen? fun name => seen?_congr (h name)
  have hevaluate : expression.evaluate first store = expression.evaluate second store := by
    rw [evaluate, evaluate, hscope]
  constructor
  · exact hevaluate
  · rw [test, test, hevaluate]

/-- Two rows that differ in the order of the columns, in a second cell of `a`, in a column whose
name is no identifier and in a column that a variable hides. -/
theorem evaluate_eq_of_reordered :
    let sum : Expression :=
      ⟨"a + limit", .operation .add (.variable "a" ⟨1, 1⟩) (.variable "limit" ⟨1, 5⟩) ⟨1, 3⟩⟩
    let store : Store := SortedMap.empty.insert "limit" (.whole 10)
    let first : Row := [("a", .whole 1), ("b", .null), ("a", .whole 2), ("limit", .whole 3)]
    let second : Row := [("full name", .text "x"), ("b", .null), ("a", .whole 1)]
    sum.evaluate first store = .ok (.whole 11) ∧
      sum.evaluate first store = sum.evaluate second store ∧
        sum.test first store = sum.test second store := by
  intro sum store first second
  constructor
  · rfl
  · apply evaluate_eq_and_test_eq
    intro name hidentifier hstore
    have hlimit : "limit" ≠ name := by
      intro heq
      subst heq
      cases hstore
    have hspaced : "full name" ≠ name := by
      intro heq
      subst heq
      cases hidentifier
    by_cases ha : "a" = name
    · subst ha
      rfl
    · simp only [first, second, Row.get?, lookupEntry, if_neg ha, if_neg hlimit, if_neg hspaced]

end Expression

end RowRecipe
