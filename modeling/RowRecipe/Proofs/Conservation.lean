import RowRecipe.Proofs.Diverting
import RowRecipe.Proofs.Entries
import RowRecipe.Proofs.Layout

/-!
# Conservation of rows

A directive of the library that is no filter, no sample and does not split rows has one outcome for
each row, in its place. So no row of a batch gets lost, comes twice or changes places, but for those
that leave the batch because they are diverted, and these are recorded. Rows are told apart here by
what they have in a column that no step touches: the first cell of that name is the same in a row
and in what is made of it, whatever cells come, go or get other names around it.

Main statement: `Pipeline.run_conserves`.
-/
namespace RowRecipe
open scoped List

/-- A column that a directive on rows does not touch: it neither takes the name away nor gives it,
does not take the column out and does not write to it. -/
def RowDirective.Spares (column : String) : RowDirective → Prop
  | .rename old new => old ≠ column ∧ new ≠ column
  | .drop columns => column ∉ columns
  | .keep columns => column ∈ columns
  | .copy _ target _ | .setColumn target _ | .fill target _ | .setType target _
  | .change target _ | .split target _ => target ≠ column
  | .filter _ | .divert _ _ => True

def Builtin.Spares (column : String) : Builtin → Prop
  | .row directive => directive.Spares column
  | .setVariable _ _ | .incrementVariable _ _ _ | .sample _ => True

/-- A step with a directive of the library that has one outcome for each row and does not touch a
column. -/
def Step.Conserves (column : String) (step : Step) : Prop :=
  ∃ builtin, step.directive = .builtin builtin ∧
    builtin.name ∉ ["filter-row-if-true", "split-to-rows", "sample"] ∧ builtin.Spares column

namespace Row
variable {row after : Row} {column : String}

theorem get?_modify {position : Nat} {change : String × Cell → String × Cell}
    (h : ∀ cell, row[position]? = some cell → cell.1 ≠ column ∧ (change cell).1 ≠ column) :
    Row.get? (row.modify position change) column = row.get? column := by
  induction row generalizing position with
  | nil => cases position <;> rfl
  | cons cell row ih =>
    cases position with
    | zero =>
      obtain ⟨hbefore, hafter⟩ := h cell rfl
      rw [List.modify_zero_cons, get?_cons, get?_cons, if_neg hbefore, if_neg hafter]
    | succ position =>
      rw [List.modify_succ_cons, get?_cons, get?_cons, ih fun other hother => h other hother]

theorem fst_of_getElem? {position : Nat} {name : String} {cell : String × Cell}
    (h : row.find? name = some position) (hcell : row[position]? = some cell) : cell.1 = name := by
  have hname := getElem?_columns_of_find? h
  rw [columns, List.getElem?_map, hcell] at hname
  exact Option.some.inj hname

theorem Rewritten.get?_eq {target : String} (h : row.Rewritten target after)
    (hne : target ≠ column) : after.get? column = row.get? column := by
  cases h with
  | same => rfl
  | value value hposition =>
    apply get?_modify
    intro cell hcell
    rw [fst_of_getElem? hposition hcell]
    exact ⟨hne, hne⟩

theorem get?_keep {wanted : String → Bool} (h : wanted column = true) :
    (row.keep wanted).get? column = row.get? column :=
  lookupEntry_filter wanted h

theorem get?_put {name : String} (value : Cell) (h : name ≠ column) :
    (put name value row).get? column = row.get? column := by
  induction row with
  | nil => exact if_neg h
  | cons cell row ih =>
    rw [put]
    split
    · next hname =>
      have hne : cell.1 ≠ column := hname ▸ h
      rw [get?_cons, get?_cons, if_neg hne, if_neg hne]
    · rw [get?_cons, get?_cons, ih]

end Row

namespace RowDirective
variable {directive : RowDirective} {column : String}

theorem Makes.get?_eq {row after : Row} (h : directive.Makes row after)
    (hspares : directive.Spares column) : after.get? column = row.get? column := by
  cases h with
  | rename hold _ =>
    apply Row.get?_modify
    intro cell hcell
    rw [Row.fst_of_getElem? hold hcell]
    exact hspares
  | drop => exact Row.get?_keep (by simpa [Spares] using hspares)
  | keep => exact Row.get?_keep (by simpa [Spares] using hspares)
  | copy value => exact Row.get?_put value hspares
  | setColumn value => exact Row.get?_put value hspares
  | fill h => exact h.get?_eq hspares
  | setType h => exact h.get?_eq hspares
  | change h => exact h.get?_eq hspares
  | split h => exact h.get?_eq hspares
  | filter => rfl
  | divert => rfl

/-- Unless it filters or splits, a directive has one outcome for a row. -/
theorem gives_single_apply (hname : directive.name ∉ ["filter-row-if-true", "split-to-rows"])
    (store : Store) (row : Row) :
    Gives (directive.apply store row) fun outcomes => ∃ outcome, outcomes = [outcome] := by
  cases directive with
  | rename old new => exact .map fun _ _ => ⟨_, rfl⟩
  | drop columns => exact .map fun _ _ => ⟨_, rfl⟩
  | keep columns => exact .pure ⟨_, rfl⟩
  | copy source destination force => exact .map fun _ _ => ⟨_, rfl⟩
  | setColumn column expression => exact .map fun _ _ => ⟨_, rfl⟩
  | fill column value => exact .pure ⟨_, rfl⟩
  | setType column target => exact .map fun _ _ => ⟨_, rfl⟩
  | change column edit => exact .pure ⟨_, rfl⟩
  | filter condition => simp [name] at hname
  | divert condition message => exact .map fun _ _ => ⟨_, rfl⟩
  | split column separator => simp [name] at hname

theorem map_get?_applyAll (hname : directive.name ∉ ["filter-row-if-true", "split-to-rows"])
    (hspares : directive.Spares column) {store : Store} {rows : List Row}
    {outcomes : List Outcome} (h : directive.applyAll store rows = .ok outcomes) :
    outcomes.map (·.row.get? column) = rows.map (·.get? column) := by
  refine map_applyAll (fun row made hmade => ?_) h
  obtain ⟨outcome, rfl⟩ := gives_single_apply hname store row made hmade
  have hrow := directive.gives_makes_apply store row _ hmade outcome List.mem_cons_self
  rw [List.map_singleton, hrow.get?_eq hspares]

end RowDirective

section
variable {rows : List Row} {store after : Store} {outcomes : List Outcome} {column : String}

theorem Step.Conserves.map_get?_execute {step : Step} (hstep : step.Conserves column)
    (h : step.directive.execute rows store = (.ok outcomes, after)) :
    outcomes.map (·.row.get? column) = rows.map (·.get? column) := by
  have hkept : (rows.map Outcome.keep).map (·.row.get? column) = rows.map (·.get? column) :=
    List.map_map
  obtain ⟨builtin, hbuiltin, hname, hspares⟩ := hstep
  rw [hbuiltin] at h
  cases builtin with
  | row directive =>
    obtain ⟨happly, -⟩ := Directive.execute_row_eq_ok.mp h
    have hsingle : directive.name ∉ ["filter-row-if-true", "split-to-rows"] := by
      simp only [Builtin.name, List.mem_cons] at hname ⊢
      tauto
    exact RowDirective.map_get?_applyAll hsingle hspares happly
  | setVariable name expression =>
    obtain ⟨-, rfl⟩ := Builtin.keepAll_eq_ok.mp h
    exact hkept
  | incrementVariable name delta condition =>
    obtain ⟨-, rfl⟩ := Builtin.keepAll_eq_ok.mp h
    exact hkept
  | sample sampling => simp [Builtin.name] at hname

theorem Step.map_row_records (step : Step) (outcomes : List Outcome) :
    (step.records outcomes).map ErrorRecord.row =
      (outcomes.filter (!·.isKept)).map Outcome.row := by
  induction outcomes with
  | nil => rfl
  | cons outcome outcomes ih =>
    cases outcome with
    | keep row => exact ih
    | divert row message code => exact congrArg (row :: ·) ih

/-- What becomes of the rows of a batch: each of them stays or is recorded. -/
theorem Step.perm_batch_records {α : Type} (step : Step) (f : Row → α) (outcomes : List Outcome) :
    ((Outcome.batch .divert outcomes).map f ++ (step.records outcomes).map fun r => f r.row).Perm
      (outcomes.map fun outcome => f outcome.row) := by
  have hrecords : ((step.records outcomes).map fun r => f r.row) =
      ((step.records outcomes).map ErrorRecord.row).map f := List.map_map.symm
  rw [hrecords, step.map_row_records, Outcome.batch_divert, List.map_map, List.map_map,
    ← List.map_append]
  exact (List.filter_append_perm Outcome.isKept outcomes).map _

end

section
variable {steps : List Step} {rows : List Row} {store : Store} {column : String}
variable {result : RunResult}

theorem map_get?_runSteps_retain (hsteps : ∀ step ∈ steps, step.Conserves column)
    (h : runSteps .retain steps rows store = .ok result) :
    result.rows.map (·.get? column) = rows.map (·.get? column) := by
  induction steps generalizing rows store result with
  | nil =>
    cases h
    rfl
  | cons step steps ih =>
    obtain ⟨hstep, hothers⟩ := List.forall_mem_cons.mp hsteps
    obtain ⟨outcomes, after, rest, hx, hrest, rfl⟩ := runSteps_cons_eq_ok.mp h
    rw [← hstep.map_get?_execute hx, ih hothers hrest, Outcome.batch_retain, List.map_map]
    rfl

theorem sublist_runSteps_divert (hsteps : ∀ step ∈ steps, step.Conserves column)
    (h : runSteps .divert steps rows store = .ok result) :
    (result.rows.map (·.get? column)).Sublist (rows.map (·.get? column)) := by
  induction steps generalizing rows store result with
  | nil =>
    cases h
    exact List.Sublist.refl _
  | cons step steps ih =>
    obtain ⟨hstep, hothers⟩ := List.forall_mem_cons.mp hsteps
    obtain ⟨outcomes, after, rest, hx, hrest, rfl⟩ := runSteps_cons_eq_ok.mp h
    have hbatch : ((Outcome.batch .divert outcomes).map (·.get? column)).Sublist
        (rows.map (·.get? column)) := by
      rw [← hstep.map_get?_execute hx, Outcome.batch_divert, List.map_map]
      exact List.filter_sublist.map _
    exact (ih hothers hrest).trans hbatch

/-- The values of a column are those of the rows that are left and of the records. Those of a step
stand in front of those of the steps behind it. -/
theorem perm_runSteps_divert (hsteps : ∀ step ∈ steps, step.Conserves column)
    (h : runSteps .divert steps rows store = .ok result) :
    (result.rows.map (·.get? column) ++ result.errors.map (·.row.get? column)).Perm
      (rows.map (·.get? column)) := by
  induction steps generalizing rows store result with
  | nil =>
    cases h
    simp
  | cons step steps ih =>
    obtain ⟨hstep, hothers⟩ := List.forall_mem_cons.mp hsteps
    obtain ⟨outcomes, after, rest, hx, hrest, rfl⟩ := runSteps_cons_eq_ok.mp h
    let f : Row → Option Cell := fun row => row.get? column
    let recorded : List (Option Cell) := (step.records outcomes).map fun record => f record.row
    calc rest.rows.map f ++ (step.records outcomes ++ rest.errors).map (fun r => f r.row)
      _ = rest.rows.map f ++ (recorded ++ rest.errors.map fun r => f r.row) := by
        rw [List.map_append]
      _ ~ rest.rows.map f ++ ((rest.errors.map fun r => f r.row) ++ recorded) :=
        List.perm_append_comm.append_left _
      _ = rest.rows.map f ++ (rest.errors.map fun r => f r.row) ++ recorded :=
        (List.append_assoc _ _ _).symm
      _ ~ (Outcome.batch .divert outcomes).map f ++ recorded := (ih hothers hrest).append_right _
      _ ~ outcomes.map fun outcome => f outcome.row := step.perm_batch_records f outcomes
      _ = rows.map f := hstep.map_get?_execute hx

end

namespace Pipeline

/-- Steps that neither leave rows out nor make several of one conserve the rows, told apart by a
column that they do not touch: all of them stay in their places where diverted rows stay, and where
these leave the batch, the others stay in their order and each row is left or recorded once. -/
theorem run_conserves {steps : List Step} {column : String}
    (hsteps : ∀ step ∈ steps, step.Conserves column) (rows : List Row) :
    (∀ result, run ⟨steps, .retain⟩ rows = .ok result →
      result.rows.map (·.get? column) = rows.map (·.get? column)) ∧
    ∀ result, run ⟨steps, .divert⟩ rows = .ok result →
      (result.rows.map (·.get? column)).Sublist (rows.map (·.get? column)) ∧
      result.rows.map (·.get? column) ++ result.errors.map (·.row.get? column) ~
        rows.map (·.get? column) :=
  ⟨fun _ h => map_get?_runSteps_retain hsteps h,
    fun _ h => ⟨sublist_runSteps_divert hsteps h, perm_runSteps_divert hsteps h⟩⟩

/-- Renames the column in front of `id`, takes a column behind it out, and diverts rows before and
after that. -/
def shuffling : List Step :=
  [⟨"send-to-error", ⟨1, "send-to-error bad"⟩, ⟨.ofList [("condition", .text "bad")],
      "send-to-error bad"⟩, .builtin (.row (.divert ⟨"bad", .variable "bad" ⟨1, 1⟩⟩ none))⟩,
    ⟨"rename", ⟨2, "rename a b"⟩, ⟨.ofList [("old", .columnName "a"), ("new", .columnName "b")],
      "rename a b"⟩, .builtin (.row (.rename "a" "b"))⟩,
    ⟨"keep", ⟨3, "keep id,b,odd"⟩, ⟨.ofList [("columns", .list ["id", "b", "odd"])],
      "keep id,b,odd"⟩, .builtin (.row (.keep ["id", "b", "odd"]))⟩,
    ⟨"send-to-error", ⟨4, "send-to-error odd"⟩, ⟨.ofList [("condition", .text "odd")],
      "send-to-error odd"⟩, .builtin (.row (.divert ⟨"odd", .variable "odd" ⟨1, 1⟩⟩ none))⟩]

/-- Three rows with an `id`, the first of which is odd and the second bad. -/
def numberedRows : List Row :=
  [[("a", .null), ("id", .whole 1), ("bad", .boolean false), ("odd", .boolean true)],
    [("a", .null), ("id", .whole 2), ("bad", .boolean true), ("odd", .boolean false)],
    [("a", .null), ("id", .whole 3), ("bad", .boolean false), ("odd", .boolean false)]]

/-- The bad row is recorded in front of the odd one, and one row is left. -/
theorem run_conserves_shuffling :
    (∀ step ∈ shuffling, step.Conserves "id") ∧
      ∃ retained diverted, run ⟨shuffling, .retain⟩ numberedRows = .ok retained ∧
        run ⟨shuffling, .divert⟩ numberedRows = .ok diverted ∧
        retained.rows.map (·.get? "id") = numberedRows.map (·.get? "id") ∧
        diverted.rows.map (·.get? "id") = [some (.whole 3)] ∧
        diverted.errors.map (·.row.get? "id") = [some (.whole 2), some (.whole 1)] ∧
        diverted.rows.map (·.get? "id") ++ diverted.errors.map (·.row.get? "id") ~
          numberedRows.map (·.get? "id") := by
  have hsteps : ∀ step ∈ shuffling, step.Conserves "id" := by
    simp only [shuffling, List.forall_mem_cons]
    exact ⟨⟨_, rfl, by decide, trivial⟩, ⟨_, rfl, by decide, by decide, by decide⟩,
      ⟨_, rfl, by decide, List.mem_cons_self⟩, ⟨_, rfl, by decide, trivial⟩, by simp⟩
  obtain ⟨hretained, hdiverted⟩ := run_conserves hsteps numberedRows
  exact ⟨hsteps, _, _, rfl, rfl, hretained _ rfl, rfl, rfl, (hdiverted _ rfl).2⟩

end Pipeline

end RowRecipe
