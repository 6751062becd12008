import RowRecipe.Pipeline
import RowRecipe.Proofs.Fallible

/-!
# Stages of a run

A stage is a step of a run that did not fail, with the batch and the variables that it was given and
what became of the rows. A run that succeeds has a stage for each of its steps, and its records are
those of its stages, one stage after another. A run that fails does so in the step after its last
stage.
-/
namespace RowRecipe

structure Stage where
  step : Step
  /-- The batch that the step was given. -/
  rows : List Row
  /-- The variables that the step was given. -/
  store : Store
  outcomes : List Outcome

/-- The records that a stage adds to those of the run. -/
def Stage.records (stage : Stage) : List ErrorRecord :=
  stage.step.records stage.outcomes

/-- The stages of a run on a batch and some variables, up to the first step that fails. -/
def stagesOf (policy : ErrorRows) : List Step → List Row → Store → List Stage
  | [], _, _ => []
  | step :: steps, rows, store =>
    match step.directive.execute rows store with
    | (.error _, _) => []
    | (.ok outcomes, after) =>
      ⟨step, rows, store, outcomes⟩ :: stagesOf policy steps (Outcome.batch policy outcomes) after

section
variable {policy : ErrorRows} {step : Step} {steps : List Step} {rows : List Row}
variable {store after : Store} {outcomes : List Outcome} {fault : Fault}

theorem runSteps_cons_ok (h : step.directive.execute rows store = (.ok outcomes, after)) :
    runSteps policy (step :: steps) rows store =
      (runSteps policy steps (Outcome.batch policy outcomes) after).map fun result =>
        { result with errors := step.records outcomes ++ result.errors } := by
  simp only [runSteps, h]

theorem runSteps_cons_error (h : step.directive.execute rows store = (.error fault, after)) :
    runSteps policy (step :: steps) rows store = .error ⟨step.name, step.line, fault⟩ := by
  simp only [runSteps, h]

theorem stagesOf_cons_ok (h : step.directive.execute rows store = (.ok outcomes, after)) :
    stagesOf policy (step :: steps) rows store =
      ⟨step, rows, store, outcomes⟩ ::
        stagesOf policy steps (Outcome.batch policy outcomes) after := by
  simp only [stagesOf, h]

theorem stagesOf_cons_error (h : step.directive.execute rows store = (.error fault, after)) :
    stagesOf policy (step :: steps) rows store = [] := by
  simp only [stagesOf, h]

/-- What there is to know of a run that succeeds and has a step: the step gave outcomes, and the
run of the other steps on what it left succeeded. -/
theorem runSteps_cons_eq_ok {result : RunResult} :
    runSteps policy (step :: steps) rows store = .ok result ↔
      ∃ outcomes after rest, step.directive.execute rows store = (.ok outcomes, after) ∧
        runSteps policy steps (Outcome.batch policy outcomes) after = .ok rest ∧
        result = ⟨rest.rows, step.records outcomes ++ rest.errors, rest.store⟩ := by
  constructor
  · intro h
    rcases hx : step.directive.execute rows store with ⟨fault | outcomes, after⟩
    · rw [runSteps_cons_error hx] at h
      cases h
    · rw [runSteps_cons_ok hx, map_eq_ok] at h
      obtain ⟨rest, hrest, rfl⟩ := h
      exact ⟨outcomes, after, rest, rfl, hrest, rfl⟩
  · rintro ⟨outcomes, after, rest, hx, hrest, rfl⟩
    rw [runSteps_cons_ok hx, hrest]
    rfl

end

theorem Outcome.exists_of_mem_batch {policy : ErrorRows} {outcomes : List Outcome} {row : Row}
    (h : row ∈ Outcome.batch policy outcomes) : ∃ outcome ∈ outcomes, outcome.row = row := by
  obtain ⟨outcome, houtcome, hrow⟩ := List.mem_map.mp h
  exact ⟨outcome, (List.mem_filter.mp houtcome).1, hrow⟩

theorem Step.exists_of_mem_records {step : Step} {outcomes : List Outcome} {record : ErrorRecord}
    (h : record ∈ step.records outcomes) : ∃ outcome ∈ outcomes, outcome.row = record.row := by
  obtain ⟨outcome, houtcome, hmade⟩ := List.mem_filterMap.mp h
  cases outcome with
  | keep row => cases hmade
  | divert row message code =>
    cases hmade
    exact ⟨_, houtcome, rfl⟩

/-- A directive that makes rows of a kind out of rows of that kind. -/
def Directive.Keeps (directive : Directive) (kind : Row → Prop) : Prop :=
  ∀ rows store outcomes after, directive.execute rows store = (.ok outcomes, after) →
    (∀ row ∈ rows, kind row) → ∀ outcome ∈ outcomes, kind outcome.row

/-- What every step makes of rows of a kind, a run does: rows of that kind, recorded or not. -/
theorem forall_mem_runSteps {kind : Row → Prop} {policy : ErrorRows} {steps : List Step}
    {rows : List Row} {store : Store} {result : RunResult}
    (hsteps : ∀ step ∈ steps, step.directive.Keeps kind)
    (h : runSteps policy steps rows store = .ok result) (hrows : ∀ row ∈ rows, kind row) :
    (∀ row ∈ result.rows, kind row) ∧ ∀ record ∈ result.errors, kind record.row := by
  induction steps generalizing rows store result with
  | nil =>
    cases h
    exact ⟨hrows, by simp⟩
  | cons step steps ih =>
    obtain ⟨hstep, hothers⟩ := List.forall_mem_cons.mp hsteps
    obtain ⟨outcomes, after, rest, hx, hrest, rfl⟩ := runSteps_cons_eq_ok.mp h
    have houtcomes := hstep rows store outcomes after hx hrows
    have hbatch : ∀ row ∈ Outcome.batch policy outcomes, kind row := by
      intro row hrow
      obtain ⟨outcome, houtcome, rfl⟩ := Outcome.exists_of_mem_batch hrow
      exact houtcomes outcome houtcome
    obtain ⟨hlast, herrors⟩ := ih hothers hrest hbatch
    refine ⟨hlast, List.forall_mem_append.mpr ⟨?_, herrors⟩⟩
    intro record hrecord
    obtain ⟨outcome, houtcome, hrow⟩ := Step.exists_of_mem_records hrecord
    rw [← hrow]
    exact houtcomes outcome houtcome

section
variable {policy : ErrorRows} {steps : List Step} {rows : List Row} {store : Store}

theorem length_stagesOf_le (policy : ErrorRows) (steps : List Step) (rows : List Row)
    (store : Store) : (stagesOf policy steps rows store).length ≤ steps.length := by
  induction steps generalizing rows store with
  | nil => simp [stagesOf]
  | cons step steps ih =>
    rcases hx : step.directive.execute rows store with ⟨fault | outcomes, after⟩
    · simp [stagesOf_cons_error hx]
    · have hrest := ih (Outcome.batch policy outcomes) after
      simp only [stagesOf_cons_ok hx, List.length_cons]
      omega

/-- A run that succeeds has a stage for each of its steps. -/
theorem map_step_stagesOf {result : RunResult}
    (h : runSteps policy steps rows store = .ok result) :
    (stagesOf policy steps rows store).map Stage.step = steps := by
  induction steps generalizing rows store result with
  | nil => rfl
  | cons step steps ih =>
    obtain ⟨outcomes, after, rest, hx, hrest, -⟩ := runSteps_cons_eq_ok.mp h
    rw [stagesOf_cons_ok hx, List.map_cons, ih hrest]

theorem length_stagesOf {result : RunResult}
    (h : runSteps policy steps rows store = .ok result) :
    (stagesOf policy steps rows store).length = steps.length := by
  rw [← List.length_map (f := Stage.step), map_step_stagesOf h]

/-- The stage at a position is one of the step at that position. -/
theorem step_of_stagesOf {position : Nat} {stage : Stage}
    (h : (stagesOf policy steps rows store)[position]? = some stage) :
    steps[position]? = some stage.step := by
  induction steps generalizing rows store position with
  | nil => simp [stagesOf] at h
  | cons step steps ih =>
    rcases hx : step.directive.execute rows store with ⟨fault | outcomes, after⟩
    · simp [stagesOf_cons_error hx] at h
    · rw [stagesOf_cons_ok hx] at h
      cases position with
      | zero =>
        rw [List.getElem?_cons_zero, Option.some.injEq] at h
        subst h
        rfl
      | succ position =>
        rw [List.getElem?_cons_succ] at h ⊢
        exact ih h

/-- The step of a stage gave its outcomes for its batch and its variables. -/
theorem execute_of_mem_stagesOf {stage : Stage} (h : stage ∈ stagesOf policy steps rows store) :
    ∃ after, stage.step.directive.execute stage.rows stage.store = (.ok stage.outcomes, after) := by
  induction steps generalizing rows store with
  | nil => cases h
  | cons step steps ih =>
    rcases hx : step.directive.execute rows store with ⟨fault | outcomes, after⟩
    · simp [stagesOf_cons_error hx] at h
    · rw [stagesOf_cons_ok hx] at h
      rcases List.mem_cons.mp h with rfl | h
      · exact ⟨after, hx⟩
      · exact ih h

theorem errors_eq_flatMap_records {result : RunResult}
    (h : runSteps policy steps rows store = .ok result) :
    result.errors = (stagesOf policy steps rows store).flatMap Stage.records := by
  induction steps generalizing rows store result with
  | nil =>
    cases h
    rfl
  | cons step steps ih =>
    obtain ⟨outcomes, after, rest, hx, hrest, rfl⟩ := runSteps_cons_eq_ok.mp h
    simp only [stagesOf_cons_ok hx, List.flatMap_cons, ih hrest]
    rfl

/-- A run that fails names the step after its last stage. -/
theorem exists_step_of_runSteps_eq_error {failure : ExecutionError}
    (h : runSteps policy steps rows store = .error failure) :
    ∃ step, steps[(stagesOf policy steps rows store).length]? = some step ∧
      failure.directive = step.name ∧ failure.line = step.line := by
  induction steps generalizing rows store with
  | nil => cases h
  | cons step steps ih =>
    rcases hx : step.directive.execute rows store with ⟨fault | outcomes, after⟩
    · rw [runSteps_cons_error hx] at h
      cases h
      exact ⟨step, by simp [stagesOf_cons_error hx], rfl, rfl⟩
    · rw [runSteps_cons_ok hx, map_eq_error] at h
      obtain ⟨other, hother, hname, hline⟩ := ih h
      exact ⟨other, by simpa [stagesOf_cons_ok hx] using hother, hname, hline⟩

theorem length_stagesOf_lt {failure : ExecutionError}
    (h : runSteps policy steps rows store = .error failure) :
    (stagesOf policy steps rows store).length < steps.length := by
  obtain ⟨step, hstep, -⟩ := exists_step_of_runSteps_eq_error h
  exact (List.getElem?_eq_some_iff.mp hstep).choose

/-- Steps run one part after the other as they do together. -/
theorem runSteps_append (policy : ErrorRows) (steps others : List Step) (rows : List Row)
    (store : Store) :
    runSteps policy (steps ++ others) rows store =
      (runSteps policy steps rows store).bind fun result =>
        (runSteps policy others result.rows result.store).map fun last =>
          { last with errors := result.errors ++ last.errors } := by
  induction steps generalizing rows store with
  | nil =>
    simp only [List.nil_append, runSteps, Except.bind]
    cases runSteps policy others rows store <;> rfl
  | cons step steps ih =>
    rw [List.cons_append]
    rcases hx : step.directive.execute rows store with ⟨fault | outcomes, after⟩
    · simp only [runSteps_cons_error hx, Except.bind]
    · simp only [runSteps_cons_ok hx, ih]
      cases runSteps policy steps (Outcome.batch policy outcomes) after with
      | error failure => rfl
      | ok result =>
        simp only [Except.bind, Except.map]
        cases runSteps policy others result.rows result.store with
        | error failure => rfl
        | ok last => simp only [List.append_assoc]

/-- What there is to know of the step at a position of a run that succeeds: the steps in front of it
leave it a batch and variables, and it gives outcomes for them. -/
theorem exists_run_take {position : Nat} {step : Step} {result : RunResult}
    (h : runSteps policy steps rows store = .ok result) (hstep : steps[position]? = some step) :
    ∃ before outcomes after,
      runSteps policy (steps.take position) rows store = .ok before ∧
        step.directive.execute before.rows before.store = (.ok outcomes, after) ∧
        (stagesOf policy steps rows store)[position]? =
          some ⟨step, before.rows, before.store, outcomes⟩ ∧
        runSteps policy (steps.take (position + 1)) rows store =
          .ok ⟨Outcome.batch policy outcomes, before.errors ++ step.records outcomes, after⟩ := by
  induction steps generalizing position rows store result with
  | nil => cases hstep
  | cons first steps ih =>
    obtain ⟨outcomes, after, rest, hx, hrest, -⟩ := runSteps_cons_eq_ok.mp h
    rw [stagesOf_cons_ok hx]
    cases position with
    | zero =>
      obtain rfl : first = step := Option.some.inj hstep
      refine ⟨_, outcomes, after, rfl, hx, rfl, ?_⟩
      exact runSteps_cons_eq_ok.mpr ⟨outcomes, after, _, hx, rfl, by simp⟩
    | succ position =>
      rw [List.getElem?_cons_succ] at hstep
      obtain ⟨before, made, last, hbefore, hmade, hstage, hthere⟩ := ih hrest hstep
      refine ⟨_, made, last, runSteps_cons_eq_ok.mpr ⟨outcomes, after, before, hx, hbefore, rfl⟩,
        hmade, hstage, ?_⟩
      exact runSteps_cons_eq_ok.mpr ⟨outcomes, after, _, hx, hthere, by simp⟩

end

/-- What is made of the items of a list, position by position. -/
theorem flatMap_eq_flatMap_range {α β : Type} (items : List α) (f : α → List β) :
    items.flatMap f =
      (List.range items.length).flatMap fun position => (items[position]?.map f).getD [] := by
  induction items with
  | nil => rfl
  | cons item items ih =>
    rw [List.flatMap_cons, ih, List.length_cons, List.range_succ_eq_map, List.flatMap_cons,
      List.flatMap_map]
    rfl

namespace Pipeline

/-- The stages of a run on a batch. -/
def stages (pipeline : Pipeline) (rows : List Row) : List Stage :=
  stagesOf pipeline.policy pipeline.steps rows SortedMap.empty

/-- The records that the step at a position makes in a run. -/
def recordsAt (pipeline : Pipeline) (rows : List Row) (position : Nat) : List ErrorRecord :=
  ((pipeline.stages rows)[position]?.map Stage.records).getD []

theorem map_step_stages {pipeline : Pipeline} {rows : List Row} {result : RunResult}
    (h : pipeline.run rows = .ok result) :
    (pipeline.stages rows).map Stage.step = pipeline.steps :=
  map_step_stagesOf h

/-- The records of a run are those of its steps, one step after another. -/
theorem errors_eq_flatMap_recordsAt {pipeline : Pipeline} {rows : List Row} {result : RunResult}
    (h : pipeline.run rows = .ok result) :
    result.errors = (List.range pipeline.steps.length).flatMap (pipeline.recordsAt rows) := by
  rw [errors_eq_flatMap_records h, ← length_stagesOf h]
  exact flatMap_eq_flatMap_range _ _

/-- A run fails in the step at a position: the steps in front of it do not. -/
def FailsAt (pipeline : Pipeline) (rows : List Row) (position : Nat)
    (failure : ExecutionError) : Prop :=
  pipeline.run rows = .error failure ∧ (pipeline.stages rows).length = position

theorem FailsAt.exists_step {pipeline : Pipeline} {rows : List Row} {position : Nat}
    {failure : ExecutionError} (h : pipeline.FailsAt rows position failure) :
    ∃ step, pipeline.steps[position]? = some step ∧
      failure.directive = step.name ∧ failure.line = step.line := by
  obtain ⟨hrun, rfl⟩ := h
  exact exists_step_of_runSteps_eq_error hrun

end Pipeline

end RowRecipe
