import RowRecipe.Proofs.Numbering
import RowRecipe.Proofs.Stage

/-!
# Recipes one after the other

A recipe that is read may be followed by another. What the second says is read as it is alone, with
lines that have greater numbers, and runs on the batch that the first leaves.

Main statement: `Registry.readLines_append_run`.
-/
namespace RowRecipe

/-- The line when there are some more lines in front of it. -/
def LogicalLine.raise (count : Nat) (line : LogicalLine) : LogicalLine :=
  { line with number := line.number + count }

def RecipeError.raise (count : Nat) : RecipeError → RecipeError
  | .line source problem => .line (source.raise count) problem
  | .unknownDirective number name => .unknownDirective (number + count) name

def Step.raise (count : Nat) (step : Step) : Step :=
  { step with line := step.line.raise count }

def ErrorRecord.raise (count : Nat) (record : ErrorRecord) : ErrorRecord :=
  { record with line := record.line + count }

def ExecutionError.raise (count : Nat) (failure : ExecutionError) : ExecutionError :=
  { failure with line := failure.line.raise count }

def RunResult.raise (count : Nat) (result : RunResult) : RunResult :=
  { result with errors := result.errors.map (·.raise count) }

namespace LineOptions
variable {options : LineOptions} {a b : List String} {lines : List LogicalLine}

/-- Only the numbers of logical lines depend on how many physical lines are in front. -/
theorem linesFrom_raise (options : LineOptions) (count number : Nat)
    (pending : Option (Nat × List Char)) (physical : List String) :
    options.linesFrom (number + count) (pending.map fun begun => (begun.1 + count, begun.2))
        physical =
      mapBoth (·.map (·.raise count)) (·.raise count)
        (options.linesFrom number pending physical) := by
  induction physical generalizing number pending with
  | nil => cases pending <;> rfl
  | cons line physical ih =>
    have hnumber : number + count + 1 = number + 1 + count := by omega
    simp only [linesFrom, hnumber]
    cases options.part? line with
    | none => exact ih (number + 1) pending
    | some said =>
      obtain ⟨part, goesOn⟩ := said
      have hstart : (pending.map fun begun => (begun.1 + count, begun.2)).getD
          (number + count, []) =
            ((pending.getD (number, [])).1 + count, (pending.getD (number, [])).2) := by
        cases pending <;> rfl
      simp only [hstart]
      generalize pending.getD (number, []) = current
      cases goesOn with
      | true =>
        simp only [if_true]
        exact ih (number + 1) (some (current.1, joinParts current.2 part))
      | false =>
        have hrest := ih (number + 1) none
        rw [Option.map_none] at hrest
        simp only [Bool.false_eq_true, if_false, hrest]
        cases options.linesFrom (number + 1) none physical with
        | error fault => rfl
        | ok others =>
          simp only [mapBoth_ok, Except.map]
          split <;> rfl

/-- Lines that leave nothing open are read before all that follow. -/
theorem linesFrom_append {number : Nat} {pending : Option (Nat × List Char)}
    (h : options.linesFrom number pending a = .ok lines) (b : List String) :
    options.linesFrom number pending (a ++ b) =
      (options.linesFrom (number + a.length) none b).map (lines ++ ·) := by
  induction a generalizing number pending lines with
  | nil =>
    cases pending with
    | none =>
      cases h
      simp only [List.nil_append, List.length_nil, Nat.add_zero]
      cases options.linesFrom number none b <;> rfl
    | some begun => cases h
  | cons line a ih =>
    have hnumber : number + (line :: a).length = number + 1 + a.length := by
      simp only [List.length_cons]
      omega
    rw [List.cons_append, hnumber]
    simp only [linesFrom] at h ⊢
    cases hpart : options.part? line with
    | none =>
      simp only [hpart] at h ⊢
      exact ih h
    | some said =>
      obtain ⟨part, goesOn⟩ := said
      simp only [hpart] at h ⊢
      cases goesOn with
      | true =>
        simp only [if_true] at h ⊢
        exact ih h
      | false =>
        simp only [Bool.false_eq_true, if_false] at h ⊢
        obtain ⟨others, hothers, rfl⟩ := map_eq_ok.mp h
        rw [ih hothers]
        cases options.linesFrom (number + 1 + a.length) none b with
        | error fault => rfl
        | ok rest =>
          simp only [Except.map]
          split <;> rfl

theorem logicalLines_append (h : options.logicalLines a = .ok lines) (b : List String) :
    options.logicalLines (a ++ b) =
      mapBoth (fun others => lines ++ others.map (·.raise a.length)) (·.raise a.length)
        (options.logicalLines b) := by
  have hraise := linesFrom_raise options a.length 1 none b
  rw [Option.map_none] at hraise
  rw [logicalLines, linesFrom_append h, hraise, logicalLines]
  cases options.linesFrom 1 none b <;> rfl

end LineOptions

namespace Registry
variable {registry : Registry} {options : LineOptions} {a b : List String} {as : List Step}

theorem bindAll_raise (registry : Registry) (count : Nat) (lines : List LogicalLine) :
    registry.bindAll (lines.map (·.raise count)) =
      mapBoth (·.map (·.raise count)) (·.raise count) (registry.bindAll lines) :=
  registry.bindAll_renumber (· + count) lines

theorem bindAll_append {lines : List LogicalLine} (h : registry.bindAll lines = .ok as)
    (others : List LogicalLine) :
    registry.bindAll (lines ++ others) = (registry.bindAll others).map (as ++ ·) := by
  induction lines generalizing as with
  | nil =>
    cases h
    rw [List.nil_append]
    cases registry.bindAll others <;> rfl
  | cons line lines ih =>
    simp only [bindAll, bind_eq_ok, pure_eq_ok] at h
    obtain ⟨step, hstep, steps, hsteps, rfl⟩ := h
    rw [List.cons_append, bindAll, hstep, ih hsteps]
    cases registry.bindAll others <;> rfl

/-- What follows a recipe that is read is read as it is alone, further down. -/
theorem readLines_append (h : registry.readLines options a = .ok as) (b : List String) :
    registry.readLines options (a ++ b) =
      mapBoth (fun bs => as ++ bs.map (·.raise a.length)) (·.raise a.length)
        (registry.readLines options b) := by
  obtain ⟨lines, hlines, has⟩ := bind_eq_ok.mp h
  rw [readLines, readLines, LineOptions.logicalLines_append hlines]
  cases options.logicalLines b with
  | error fault => rfl
  | ok others =>
    change registry.bindAll (lines ++ others.map (·.raise a.length)) =
      mapBoth _ _ (registry.bindAll others)
    rw [bindAll_append has, bindAll_raise]
    cases registry.bindAll others <;> rfl

end Registry

theorem Step.records_raise (count : Nat) (step : Step) (outcomes : List Outcome) :
    (step.raise count).records outcomes = (step.records outcomes).map (·.raise count) := by
  rw [records, records, List.map_filterMap]
  congr 1
  funext outcome
  cases outcome <;> rfl

theorem runSteps_raise (policy : ErrorRows) (count : Nat) (steps : List Step) (rows : List Row)
    (store : Store) :
    runSteps policy (steps.map (·.raise count)) rows store =
      mapBoth (·.raise count) (·.raise count) (runSteps policy steps rows store) := by
  induction steps generalizing rows store with
  | nil => rfl
  | cons step steps ih =>
    rw [List.map_cons]
    have hdirective : (step.raise count).directive = step.directive := rfl
    rcases hx : step.directive.execute rows store with ⟨fault | outcomes, after⟩
    · rw [runSteps_cons_error hx, runSteps_cons_error (hdirective ▸ hx)]
      rfl
    · rw [runSteps_cons_ok hx, runSteps_cons_ok (hdirective ▸ hx), ih, Step.records_raise]
      cases runSteps policy steps (Outcome.batch policy outcomes) after with
      | error failure => rfl
      | ok rest => simp [Except.map, RunResult.raise]

/-- What runs after steps that leave no variables runs as it does alone, on their batch. -/
theorem Pipeline.run_append {policy : ErrorRows} {steps : List Step} {rows : List Row}
    {first : RunResult} (h : run ⟨steps, policy⟩ rows = .ok first)
    (hstore : first.store = SortedMap.empty) (count : Nat) (others : List Step) :
    run ⟨steps ++ others.map (·.raise count), policy⟩ rows =
      mapBoth (fun last => ⟨last.rows, first.errors ++ last.errors.map (·.raise count), last.store⟩)
        (·.raise count) (run ⟨others, policy⟩ first.rows) := by
  have hfirst : runSteps policy steps rows SortedMap.empty = .ok first := h
  simp only [run, runSteps_append, hfirst, Except.bind, hstore, runSteps_raise]
  cases runSteps policy others first.rows SortedMap.empty <;> rfl

theorem Registry.readLines_single {registry : Registry} {options : LineOptions}
    {recipe : List String} (line : LogicalLine) {step : Step}
    (hlines : options.logicalLines recipe = .ok [line]) (hstep : registry.bind line = .ok step) :
    registry.readLines options recipe = .ok [step] := by
  rw [readLines_eq_map hlines, hstep]
  rfl

/-- What follows a recipe that is read is read as it is alone, or fails as it does alone, with lines
that have greater numbers. Where the recipe leaves no variables, what follows runs as it does alone
on the rows that the recipe leaves, its records coming after those of the recipe. -/
theorem Registry.readLines_append_run {registry : Registry} {options : LineOptions}
    {a : List String} {as : List Step} (h : registry.readLines options a = .ok as)
    (b : List String) :
    registry.readLines options (a ++ b) =
      (match registry.readLines options b with
        | .ok bs => .ok (as ++ bs.map (·.raise a.length))
        | .error fault => .error (fault.raise a.length)) ∧
    ∀ bs whole, registry.readLines options b = .ok bs →
      registry.readLines options (a ++ b) = .ok whole →
      ∀ policy rows first, Pipeline.run ⟨as, policy⟩ rows = .ok first →
        first.store = SortedMap.empty →
        Pipeline.run ⟨whole, policy⟩ rows =
          match Pipeline.run ⟨bs, policy⟩ first.rows with
          | .ok last =>
            .ok ⟨last.rows, first.errors ++ last.errors.map (·.raise a.length), last.store⟩
          | .error failure => .error (failure.raise a.length) := by
  have hread := readLines_append h b
  refine ⟨?_, ?_⟩
  · rw [hread]
    cases registry.readLines options b <;> rfl
  · intro bs whole hbs hwhole policy rows first hfirst hstore
    rw [hbs, mapBoth_ok, hwhole] at hread
    obtain rfl := Except.ok.inj hread
    rw [Pipeline.run_append hfirst hstore]
    cases Pipeline.run ⟨bs, policy⟩ first.rows <;> rfl

/-- A recipe that gives a column another name. -/
def givesName : List String :=
  ["# names", "rename a b"]

/-- A recipe that wants the column by its first name, in a line that goes on in the next. -/
def wantsFirstName : List String :=
  ["", "drop \\", "  a"]

def givesNameStep : Step :=
  ⟨"rename", ⟨2, "rename a b"⟩,
    ⟨.ofList [("old", .columnName "a"), ("new", .columnName "b")], "rename a b"⟩,
    .builtin (.row (.rename "a" "b"))⟩

def wantsFirstNameStep : Step :=
  ⟨"drop", ⟨2, "drop a"⟩, ⟨.ofList [("columns", .list ["a"])], "drop a"⟩,
    .builtin (.row (.drop ["a"]))⟩

/-- The name is gone where it is wanted: the run fails in the fourth line of the whole. -/
theorem readLines_append_run_givesName :
    Registry.standard.readLines .standard givesName = .ok [givesNameStep] ∧
      ∃ whole, Registry.standard.readLines .standard (givesName ++ wantsFirstName) = .ok whole ∧
        Pipeline.run ⟨whole, .divert⟩ [[("a", .whole 1)]] =
          .error ⟨"drop", ⟨4, "drop a"⟩, .error (.missingColumn "a")⟩ := by
  have hfirst : Registry.standard.readLines .standard givesName = .ok [givesNameStep] :=
    Registry.readLines_single ⟨2, "rename a b"⟩ rfl
      (Registry.bind_eq_ok_iff.mpr
        ⟨["rename", "a", "b"], Catalog.rename, rfl, rfl, rfl, rfl, rfl⟩)
  have hlast : Registry.standard.readLines .standard wantsFirstName = .ok [wantsFirstNameStep] :=
    Registry.readLines_single ⟨2, "drop a"⟩ rfl
      (Registry.bind_eq_ok_iff.mpr ⟨["drop", "a"], Catalog.drop, rfl, rfl, rfl, rfl, rfl⟩)
  have hfirstRun : Pipeline.run ⟨[givesNameStep], .divert⟩ [[("a", .whole 1)]] =
      .ok ⟨[[("b", .whole 1)]], [], SortedMap.empty⟩ := rfl
  have hlastRun : Pipeline.run ⟨[wantsFirstNameStep], .divert⟩ [[("b", .whole 1)]] =
      .error ⟨"drop", ⟨2, "drop a"⟩, .error (.missingColumn "a")⟩ := rfl
  obtain ⟨hread, hrun⟩ := Registry.readLines_append_run hfirst wantsFirstName
  rw [hlast] at hread
  refine ⟨hfirst, _, hread, ?_⟩
  rw [hrun _ _ hlast hread .divert _ _ hfirstRun rfl, hlastRun]
  rfl

end RowRecipe
