import RowRecipe.Csv
import RowRecipe.Proofs.Catalog
import RowRecipe.Proofs.Execution
import RowRecipe.Proofs.Stage

/-!
# Column layouts

The layout of a row is the list of its column names. What a directive of the library makes of a
layout does not depend on the cells, the variables or what is drawn, so rows of one layout have one
layout after each step.

Main statement: `Pipeline.run_columns`.
-/
namespace RowRecipe

/-- The names when the first of some name gives way to another. -/
def renameFirst (old new : String) (names : List String) : List String :=
  match names.findIdx? (· == old) with
  | some position => names.set position new
  | none => names

/-- The names with one more, unless it is there. -/
def withName (name : String) (names : List String) : List String :=
  if name ∈ names then names else names ++ [name]

/-- The layout of the rows that a directive makes of rows of a layout. -/
def RowDirective.layout (names : List String) : RowDirective → List String
  | .rename old new => renameFirst old new names
  | .drop columns => names.filter fun name => !columns.contains name
  | .keep columns => names.filter fun name => columns.contains name
  | .copy _ destination _ => withName destination names
  | .setColumn column _ => withName column names
  | .fill _ _ | .setType _ _ | .change _ _ | .filter _ | .divert _ _ | .split _ _ => names

def Builtin.layout (names : List String) : Builtin → List String
  | .row directive => directive.layout names
  | .setVariable _ _ | .incrementVariable _ _ _ | .sample _ => names

/-- The layout after a directive of the library; nothing is known of others. -/
def Directive.layout (names : List String) : Directive → List String
  | .builtin directive => directive.layout names
  | .custom _ => names

/-- The layout after some steps. -/
def layoutAfter (steps : List Step) (names : List String) : List String :=
  steps.foldl (fun names step => step.directive.layout names) names

namespace Row

theorem find?_eq_findIdx? (row : Row) (name : String) :
    row.find? name = row.columns.findIdx? (· == name) := by
  rw [columns, List.findIdx?_map]
  rfl

theorem columns_setAt (row : Row) (position : Nat) (value : Cell) :
    (row.setAt position value).columns = row.columns := by
  induction row generalizing position with
  | nil => cases position <;> rfl
  | cons cell row ih =>
    cases position with
    | zero => rfl
    | succ position => exact congrArg (cell.1 :: ·) (ih position)

theorem columns_renameAt (row : Row) (position : Nat) (name : String) :
    (row.renameAt position name).columns = row.columns.set position name := by
  induction row generalizing position with
  | nil => cases position <;> rfl
  | cons cell row ih =>
    cases position with
    | zero => rfl
    | succ position => exact congrArg (cell.1 :: ·) (ih position)

theorem columns_keep (row : Row) (wanted : String → Bool) :
    (row.keep wanted).columns = row.columns.filter wanted := by
  rw [columns, columns, List.filter_map]
  rfl

theorem columns_put (name : String) (value : Cell) (row : Row) :
    (put name value row).columns = withName name row.columns := by
  induction row with
  | nil => rfl
  | cons cell row ih =>
    obtain ⟨first, old⟩ := cell
    rw [put]
    by_cases hfirst : first = name
    · simp [columns, withName, hfirst]
    · have hmem : name ∈ first :: columns row ↔ name ∈ columns row := by
        simp [Ne.symm hfirst]
      rw [if_neg hfirst]
      change first :: columns (put name value row) = withName name (first :: columns row)
      rw [ih, withName, withName]
      simp only [hmem]
      split <;> rfl

theorem getElem?_columns_of_find? {row : Row} {name : String} {position : Nat}
    (h : row.find? name = some position) : row.columns[position]? = some name := by
  rw [find?_eq_findIdx?] at h
  obtain ⟨hlt, hfound, -⟩ := List.findIdx?_eq_some_iff_getElem.mp h
  rw [beq_iff_eq] at hfound
  rw [List.getElem?_eq_getElem hlt, hfound]

theorem Rewritten.columns_eq {row after : Row} {column : String}
    (h : row.Rewritten column after) : after.columns = row.columns := by
  cases h with
  | same => rfl
  | @value position value _ => exact row.columns_setAt position value

end Row

/-- What a directive makes of a row has the layout that it makes of the layout. -/
theorem RowDirective.Makes.columns_eq {directive : RowDirective} {row after : Row}
    (h : directive.Makes row after) : after.columns = directive.layout row.columns := by
  cases h with
  | @rename old new position hold _ =>
    rw [Row.find?_eq_findIdx?] at hold
    simp only [Row.columns_renameAt, layout, renameFirst, hold]
  | drop => exact row.columns_keep _
  | keep => exact row.columns_keep _
  | @copy _ destination _ value => exact row.columns_put destination value
  | @setColumn column _ value => exact row.columns_put column value
  | fill h => exact h.columns_eq
  | setType h => exact h.columns_eq
  | change h => exact h.columns_eq
  | split h => exact h.columns_eq
  | filter => rfl
  | divert => rfl

theorem Builtin.Makes.columns_eq {directive : Builtin} {row after : Row}
    (h : directive.Makes row after) : after.columns = directive.layout row.columns := by
  cases directive with
  | row directive => exact RowDirective.Makes.columns_eq h
  | setVariable name expression => exact congrArg Row.columns h
  | incrementVariable name delta condition => exact congrArg Row.columns h
  | sample sampling => exact congrArg Row.columns h

section
variable {rows : List Row} {names : List String} {store after : Store} {outcomes : List Outcome}

theorem Builtin.layout_execute {directive : Builtin}
    (h : directive.execute rows store = (.ok outcomes, after))
    (hrows : ∀ row ∈ rows, row.columns = names) :
    ∀ outcome ∈ outcomes, outcome.row.columns = directive.layout names := by
  intro outcome houtcome
  obtain ⟨row, hrow, hmade⟩ := exists_row_of_mem_outcomes h outcome houtcome
  rw [hmade.columns_eq, hrows row hrow]

/-- A step that is a directive of the library. -/
def Step.IsBuiltin (step : Step) : Prop :=
  ∃ builtin, step.directive = .builtin builtin

theorem Registry.isBuiltin_of_readLines {options : LineOptions} {recipe : List String}
    {steps : List Step} (h : standard.readLines options recipe = .ok steps) :
    ∀ step ∈ steps, step.IsBuiltin := by
  intro step hstep
  obtain ⟨builtin, hbuiltin, -⟩ := isNamed_of_readLines h step hstep
  exact ⟨builtin, hbuiltin⟩

theorem Step.IsBuiltin.layout_execute {step : Step} (hstep : step.IsBuiltin)
    (h : step.directive.execute rows store = (.ok outcomes, after))
    (hrows : ∀ row ∈ rows, row.columns = names) :
    ∀ outcome ∈ outcomes, outcome.row.columns = step.directive.layout names := by
  obtain ⟨builtin, hbuiltin⟩ := hstep
  rw [hbuiltin] at h ⊢
  exact builtin.layout_execute h hrows

theorem Outcome.columns_batch (policy : ErrorRows)
    (h : ∀ outcome ∈ outcomes, outcome.row.columns = names) :
    ∀ row ∈ Outcome.batch policy outcomes, row.columns = names := by
  intro row hrow
  obtain ⟨outcome, houtcome, rfl⟩ := exists_of_mem_batch hrow
  exact h outcome houtcome

theorem columns_runSteps {policy : ErrorRows} {steps : List Step} {result : RunResult}
    (hsteps : ∀ step ∈ steps, step.IsBuiltin)
    (h : runSteps policy steps rows store = .ok result)
    (hrows : ∀ row ∈ rows, row.columns = names) :
    ∀ row ∈ result.rows, row.columns = layoutAfter steps names := by
  induction steps generalizing rows store names result with
  | nil =>
    cases h
    exact hrows
  | cons step steps ih =>
    rw [List.forall_mem_cons] at hsteps
    obtain ⟨outcomes, after, rest, hx, hrest, rfl⟩ := runSteps_cons_eq_ok.mp h
    have houtcomes := hsteps.1.layout_execute hx hrows
    have hlast : ∀ row ∈ rest.rows, row.columns = layoutAfter steps (step.directive.layout names) :=
      ih hsteps.2 hrest (Outcome.columns_batch policy houtcomes)
    exact hlast

theorem columns_stagesOf {policy : ErrorRows} {steps : List Step} {position : Nat} {stage : Stage}
    (hsteps : ∀ step ∈ steps, step.IsBuiltin)
    (h : (stagesOf policy steps rows store)[position]? = some stage)
    (hrows : ∀ row ∈ rows, row.columns = names) :
    ∀ outcome ∈ stage.outcomes,
      outcome.row.columns = layoutAfter (steps.take (position + 1)) names := by
  induction steps generalizing rows store names position with
  | nil => simp [stagesOf] at h
  | cons step steps ih =>
    rw [List.forall_mem_cons] at hsteps
    rcases hx : step.directive.execute rows store with ⟨fault | outcomes, after⟩
    · simp [stagesOf_cons_error hx] at h
    have houtcomes := hsteps.1.layout_execute hx hrows
    rw [stagesOf_cons_ok hx] at h
    cases position with
    | zero =>
      rw [List.getElem?_cons_zero, Option.some.injEq] at h
      subst h
      exact houtcomes
    | succ position =>
      rw [List.getElem?_cons_succ] at h
      exact ih hsteps.2 h (Outcome.columns_batch policy houtcomes)

end

namespace Csv

theorem columns_rowOf (headers fields : List String) :
    (rowOf headers fields).columns = headers := by
  induction headers generalizing fields with
  | nil => cases fields <;> rfl
  | cons header headers ih =>
    cases fields with
    | nil => exact congrArg (header :: ·) (ih [])
    | cons field fields => exact congrArg (header :: ·) (ih fields)

theorem gives_columns_rowsFrom (headers : List String) (number : Nat) (records : List Record) :
    Gives (rowsFrom headers number records) fun rows => ∀ row ∈ rows, row.columns = headers := by
  induction records generalizing number with
  | nil => exact .pure (by simp)
  | cons record records ih =>
    intro rows h
    simp only [rowsFrom, bind_eq_ok, pure_eq_ok] at h
    obtain ⟨fields, -, others, hothers, rfl⟩ := h
    split
    · exact ih (number + 1) others hothers
    · rw [List.forall_mem_cons]
      exact ⟨columns_rowOf headers fields, ih (number + 1) others hothers⟩

/-- The rows of a text have its headers for names. -/
theorem gives_columns_parse (content : String) (delimiter : Char) :
    Gives (parse content delimiter) fun table => ∀ row ∈ table.2, row.columns = table.1 := by
  intro table h
  unfold parse at h
  by_cases hblank : Text.isBlankText content = true
  · simp only [if_pos hblank] at h
    cases h
  by_cases hwide : 0xFF < delimiter.toNat
  · simp only [if_neg hblank, if_pos hwide] at h
    cases h
  simp only [if_neg hblank, if_neg hwide] at h
  split at h
  · cases h
  next first records _ =>
  obtain ⟨headers, -, h⟩ := bind_eq_ok.mp h
  split at h
  · cases h
  obtain ⟨rows, hrows, h⟩ := bind_eq_ok.mp h
  rw [← pure_eq_ok.mp h]
  exact gives_columns_rowsFrom headers 1 records rows hrows

end Csv

namespace Pipeline
variable {pipeline : Pipeline} {rows : List Row} {names : List String}

theorem columns_recordsAt (hsteps : ∀ step ∈ pipeline.steps, step.IsBuiltin)
    (hrows : ∀ row ∈ rows, row.columns = names) (position : Nat) :
    ∀ record ∈ pipeline.recordsAt rows position,
      record.row.columns = layoutAfter (pipeline.steps.take (position + 1)) names := by
  rw [recordsAt]
  rcases hstage : (pipeline.stages rows)[position]? with _ | stage
  · simp
  · intro record hrecord
    obtain ⟨outcome, houtcome, hrow⟩ := Step.exists_of_mem_records hrecord
    rw [← hrow]
    exact columns_stagesOf hsteps hstage hrows outcome houtcome

/-- All rows that a recipe of directives of the library makes of rows of one layout have one layout,
and so have all rows that one of its steps records: the recipe and the layout of the rows that it is
given, such as the headers of a text, decide on it. The records of a run are those of its steps. -/
theorem run_columns (pipeline : Pipeline) (hsteps : ∀ step ∈ pipeline.steps, step.IsBuiltin)
    (names : List String) :
    (∀ content delimiter rows, Csv.parse content delimiter = .ok (names, rows) →
      ∀ row ∈ rows, row.columns = names) ∧
    ∀ xs ys left right, (∀ row ∈ xs, row.columns = names) → (∀ row ∈ ys, row.columns = names) →
      pipeline.run xs = .ok left → pipeline.run ys = .ok right →
      (∀ row ∈ left.rows ++ right.rows, row.columns = layoutAfter pipeline.steps names) ∧
      left.errors = (List.range pipeline.steps.length).flatMap (pipeline.recordsAt xs) ∧
      right.errors = (List.range pipeline.steps.length).flatMap (pipeline.recordsAt ys) ∧
      ∀ position, ∀ record ∈ pipeline.recordsAt xs position ++ pipeline.recordsAt ys position,
        record.row.columns = layoutAfter (pipeline.steps.take (position + 1)) names := by
  constructor
  · intro content delimiter rows hrows
    exact Csv.gives_columns_parse content delimiter _ hrows
  · intro xs ys left right hxs hys hleft hright
    refine ⟨?_, errors_eq_flatMap_recordsAt hleft, errors_eq_flatMap_recordsAt hright, ?_⟩
    · rw [List.forall_mem_append]
      exact ⟨columns_runSteps hsteps hleft hxs, columns_runSteps hsteps hright hys⟩
    · intro position
      rw [List.forall_mem_append]
      exact ⟨columns_recordsAt hsteps hxs position, columns_recordsAt hsteps hys position⟩

/-- Makes a row of each piece of a text, diverts what is bad and copies a column. -/
def spreading : Pipeline where
  policy := .retain
  steps :=
    [⟨"split-to-rows", ⟨1, "split-to-rows a ;"⟩, ⟨.ofList [("column", .columnName "a"),
        ("separator", .text ";")], "split-to-rows a ;"⟩, .builtin (.row (.split "a" ";"))⟩,
      ⟨"send-to-error", ⟨2, "send-to-error bad"⟩, ⟨.ofList [("condition", .text "bad")],
        "send-to-error bad"⟩, .builtin (.row (.divert ⟨"bad", .variable "bad" ⟨1, 1⟩⟩ none))⟩,
      ⟨"copy", ⟨3, "copy a c"⟩, ⟨.ofList [("source", .columnName "a"),
        ("destination", .columnName "c")], "copy a c"⟩,
        .builtin (.row (.copy "a" "c" false))⟩]

/-- A row that `spreading` makes two of, both of them bad. -/
def pairRow : Row :=
  [("a", .text "1;2"), ("bad", .boolean true)]

/-- A row that `spreading` has nothing to split in. -/
def nullRow : Row :=
  [("a", .null), ("bad", .boolean false)]

/-- Two rows that are recorded come of the one batch and a row without text of the other. -/
theorem run_columns_spreading :
    (∀ step ∈ spreading.steps, step.IsBuiltin) ∧ pairRow.columns = ["a", "bad"] ∧
      nullRow.columns = ["a", "bad"] ∧
      ∃ left right, spreading.run [pairRow] = .ok left ∧ spreading.run [nullRow] = .ok right ∧
      left.rows.length = 2 ∧ left.errors.length = 2 ∧
      (∀ row ∈ left.rows ++ right.rows, row.columns = ["a", "bad", "c"]) ∧
      ∀ record ∈ spreading.recordsAt [pairRow] 1 ++ spreading.recordsAt [nullRow] 1,
        record.row.columns = ["a", "bad"] := by
  have hsteps : ∀ step ∈ spreading.steps, step.IsBuiltin := by
    simp only [spreading, List.forall_mem_cons]
    exact ⟨⟨_, rfl⟩, ⟨_, rfl⟩, ⟨_, rfl⟩, by simp⟩
  have hpair : ∀ row ∈ [pairRow], row.columns = ["a", "bad"] := by decide
  have hnull : ∀ row ∈ [nullRow], row.columns = ["a", "bad"] := by decide
  obtain ⟨hrows, -, -, hrecords⟩ :=
    (run_columns spreading hsteps ["a", "bad"]).2 [pairRow] [nullRow] _ _ hpair hnull rfl rfl
  exact ⟨hsteps, rfl, rfl, _, _, rfl, rfl, rfl, rfl, hrows, hrecords 1⟩

end Pipeline

end RowRecipe
