import Mathlib.Data.List.Nodup
import RowRecipe.Proofs.Layout

/-!
# Columns with different names

A directive of the library gives no column a name that another column of the row has: renaming
refuses such a name, and a cell that is put under a name takes the place of the cell that is there.
So rows whose columns have different names stay rows of that kind, whatever runs on them, also where
they are recorded.

Main statement: `Pipeline.run_nodup`.
-/
namespace RowRecipe

section
variable {old new : String} {names : List String}

theorem nodup_withName (name : String) (h : names.Nodup) : (withName name names).Nodup := by
  unfold withName
  split
  · exact h
  · next hname => exact h.append (List.nodup_singleton name) (List.disjoint_singleton.mpr hname)

theorem renameFirst_self (name : String) (names : List String) :
    renameFirst name name names = names := by
  unfold renameFirst
  split
  · next position hposition =>
    obtain ⟨hlt, hfound, -⟩ := List.findIdx?_eq_some_iff_getElem.mp hposition
    rw [beq_iff_eq] at hfound
    rw [← hfound, List.set_getElem_self]
  · rfl

theorem nodup_renameFirst (hnew : new = old ∨ new ∉ names) (h : names.Nodup) :
    (renameFirst old new names).Nodup := by
  rcases hnew with rfl | hnew
  · rwa [renameFirst_self]
  · unfold renameFirst
    split
    · exact h.set hnew
    · exact h

end

theorem Row.find?_eq_none_iff {row : Row} {name : String} :
    row.find? name = none ↔ name ∉ row.columns := by
  simp only [find?_eq_findIdx?, List.findIdx?_eq_none_iff, beq_eq_false_iff_ne, ne_eq]
  exact ⟨fun h hmem => h name hmem rfl, fun h other hmem heq => h (heq ▸ hmem)⟩

/-- A name that no column but the renamed one may have is the name of that column or free. -/
theorem Row.eq_or_notMem_of_find? {row : Row} {old new : String} {position : Nat}
    (hold : row.find? old = some position)
    (hnew : ∀ existing, row.find? new = some existing → existing = position) :
    new = old ∨ new ∉ row.columns := by
  rcases hfound : row.find? new with _ | existing
  · exact .inr (find?_eq_none_iff.mp hfound)
  · obtain rfl := hnew existing hfound
    exact .inl (Option.some.inj
      ((getElem?_columns_of_find? hfound).symm.trans (getElem?_columns_of_find? hold)))

/-- What a directive makes of a row with different columns is such a row. All directives but
renaming make a layout of that kind of any such layout; renaming relies on what it refuses. -/
theorem RowDirective.Makes.nodup_columns {directive : RowDirective} {row after : Row}
    (h : directive.Makes row after) (hrow : row.columns.Nodup) : after.columns.Nodup := by
  rw [h.columns_eq]
  cases h with
  | rename hold hnew => exact nodup_renameFirst (Row.eq_or_notMem_of_find? hold hnew) hrow
  | drop => exact hrow.filter _
  | keep => exact hrow.filter _
  | copy value => exact nodup_withName _ hrow
  | setColumn value => exact nodup_withName _ hrow
  | fill _ => exact hrow
  | setType _ => exact hrow
  | change _ => exact hrow
  | split _ => exact hrow
  | filter => exact hrow
  | divert => exact hrow

theorem Builtin.Makes.nodup_columns {directive : Builtin} {row after : Row}
    (h : directive.Makes row after) (hrow : row.columns.Nodup) : after.columns.Nodup := by
  cases directive with
  | row directive => exact RowDirective.Makes.nodup_columns h hrow
  | setVariable name expression => exact h ▸ hrow
  | incrementVariable name delta condition => exact h ▸ hrow
  | sample sampling => exact h ▸ hrow

theorem Step.IsBuiltin.keeps_nodup {step : Step} (h : step.IsBuiltin) :
    step.directive.Keeps fun row => row.columns.Nodup := by
  obtain ⟨builtin, hbuiltin⟩ := h
  rw [hbuiltin]
  intro rows store outcomes after hx hrows outcome houtcome
  obtain ⟨row, hrow, hmade⟩ := builtin.exists_row_of_mem_outcomes hx outcome houtcome
  exact hmade.nodup_columns (hrows row hrow)

namespace Pipeline

/-- Where no row of a batch has two columns of one name, no row that a recipe of directives of the
library leaves or records has. -/
theorem run_nodup {pipeline : Pipeline} {rows : List Row} {result : RunResult}
    (hsteps : ∀ step ∈ pipeline.steps, step.IsBuiltin)
    (hrows : ∀ row ∈ rows, row.columns.Nodup) (h : pipeline.run rows = .ok result) :
    (∀ row ∈ result.rows, row.columns.Nodup) ∧
      ∀ record ∈ result.errors, record.row.columns.Nodup :=
  forall_mem_runSteps (fun step hstep => (hsteps step hstep).keeps_nodup) h hrows

/-- Renames a column to its own name and then to another, copies it over a column that some rows
have, and diverts what is bad. -/
def crowding : Pipeline where
  policy := .divert
  steps :=
    [⟨"rename", ⟨1, "rename a a"⟩, ⟨.ofList [("old", .columnName "a"), ("new", .columnName "a")],
        "rename a a"⟩, .builtin (.row (.rename "a" "a"))⟩,
      ⟨"rename", ⟨2, "rename a b"⟩, ⟨.ofList [("old", .columnName "a"), ("new", .columnName "b")],
        "rename a b"⟩, .builtin (.row (.rename "a" "b"))⟩,
      ⟨"copy", ⟨3, "copy b c true"⟩, ⟨.ofList [("source", .columnName "b"),
        ("destination", .columnName "c"), ("force", .boolean true)], "copy b c true"⟩,
        .builtin (.row (.copy "b" "c" true))⟩,
      ⟨"send-to-error", ⟨4, "send-to-error bad"⟩, ⟨.ofList [("condition", .text "bad")],
        "send-to-error bad"⟩, .builtin (.row (.divert ⟨"bad", .variable "bad" ⟨1, 1⟩⟩ none))⟩]

/-- A row that has the column which `crowding` copies to, and one that has not. -/
def unevenRows : List Row :=
  [[("c", .null), ("a", .whole 1), ("bad", .boolean false)],
    [("bad", .boolean true), ("a", .whole 2)]]

/-- One of the rows is left with the columns that it had, the other is recorded with one more. -/
theorem run_nodup_crowding :
    (∀ step ∈ crowding.steps, step.IsBuiltin) ∧ (∀ row ∈ unevenRows, row.columns.Nodup) ∧
      ∃ result, crowding.run unevenRows = .ok result ∧
        result.rows.map Row.columns = [["c", "b", "bad"]] ∧
        result.errors.map (·.row.columns) = [["bad", "b", "c"]] ∧
        (∀ row ∈ result.rows, row.columns.Nodup) ∧
        ∀ record ∈ result.errors, record.row.columns.Nodup := by
  have hsteps : ∀ step ∈ crowding.steps, step.IsBuiltin := by
    simp only [crowding, List.forall_mem_cons]
    exact ⟨⟨_, rfl⟩, ⟨_, rfl⟩, ⟨_, rfl⟩, ⟨_, rfl⟩, by simp⟩
  have hrows : ∀ row ∈ unevenRows, row.columns.Nodup := by decide
  exact ⟨hsteps, hrows, _, rfl, rfl, rfl, run_nodup hsteps hrows rfl⟩

end Pipeline

end RowRecipe
