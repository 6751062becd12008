import RowRecipe.Proofs.Catalog
import RowRecipe.Proofs.Stage

/-!
# Batches in parts

A directive on single rows fares with a batch as with the parts of it, one after the other, and so
does a recipe of such directives: its stages are those of the runs on the parts put together, as far
as both runs come. Main statement: where both runs succeed, rows and records of each step are put
together, and else the run fails where the first of the two fails, and with its failure.
-/
namespace RowRecipe

/-- A directive that leaves the variables alone and fares with a batch as with its parts. -/
structure Directive.Chunkwise (directive : Directive) : Prop where
  store_eq (rows : List Row) (store : Store) : (directive.execute rows store).2 = store
  append (xs ys : List Row) (store : Store) :
    (directive.execute (xs ++ ys) store).1 = do
      let outcomes ← (directive.execute xs store).1
      let others ← (directive.execute ys store).1
      return outcomes ++ others

/-- A step with a directive of the library that neither changes the variables nor draws. -/
def Step.OnRows (step : Step) : Prop :=
  ∃ name ∉ ["set-variable", "increment-variable", "sample"], step.directive.IsNamed name

/-- So are the steps of a recipe that is read with the standard registry, but for those names. -/
theorem Registry.onRows_of_readLines {options : LineOptions} {recipe : List String}
    {steps : List Step} (h : standard.readLines options recipe = .ok steps)
    (hnames : ∀ step ∈ steps, step.name ∉ ["set-variable", "increment-variable", "sample"]) :
    ∀ step ∈ steps, step.OnRows :=
  fun step hstep => ⟨step.name, hnames step hstep, isNamed_of_readLines h step hstep⟩

theorem RowDirective.applyAll_append (directive : RowDirective) (store : Store)
    (xs ys : List Row) :
    directive.applyAll store (xs ++ ys) = do
      let outcomes ← directive.applyAll store xs
      let others ← directive.applyAll store ys
      return outcomes ++ others := by
  induction xs with
  | nil =>
    simp only [List.nil_append, RowDirective.applyAll]
    cases directive.applyAll store ys <;> rfl
  | cons row rows ih =>
    simp only [List.cons_append, RowDirective.applyAll, ih]
    cases directive.apply store row with
    | error fault => rfl
    | ok outcomes =>
      cases directive.applyAll store rows with
      | error fault => rfl
      | ok others =>
        cases directive.applyAll store ys with
        | error fault => rfl
        | ok last => simp [bind, Except.bind, pure, Except.pure]

/-- What a directive of the library does with single rows, it does with a batch part by part. -/
theorem RowDirective.chunkwise (directive : RowDirective) :
    (Directive.builtin (.row directive)).Chunkwise where
  store_eq rows store := rfl
  append xs ys store := by
    simp only [Directive.execute, Builtin.execute, directive.applyAll_append]
    cases directive.applyAll store xs with
    | error fault => rfl
    | ok outcomes => cases directive.applyAll store ys <;> rfl

theorem Step.OnRows.chunkwise {step : Step} (h : step.OnRows) : step.directive.Chunkwise := by
  obtain ⟨name, hname, builtin, hbuiltin, rfl⟩ := h
  rw [hbuiltin]
  cases builtin with
  | row directive => exact directive.chunkwise
  | setVariable name expression => simp [Builtin.name] at hname
  | incrementVariable name delta condition => simp [Builtin.name] at hname
  | sample sampling => simp [Builtin.name] at hname

theorem Outcome.batch_append (policy : ErrorRows) (outcomes others : List Outcome) :
    Outcome.batch policy (outcomes ++ others) =
      Outcome.batch policy outcomes ++ Outcome.batch policy others := by
  simp [Outcome.batch]

theorem Step.records_append (step : Step) (outcomes others : List Outcome) :
    step.records (outcomes ++ others) = step.records outcomes ++ step.records others := by
  simp [Step.records]

namespace Directive.Chunkwise
variable {directive : Directive} {xs ys : List Row} {store after last : Store}
variable {outcomes others : List Outcome} {fault : Fault}

theorem execute_append_ok (h : directive.Chunkwise)
    (hx : directive.execute xs store = (.ok outcomes, after))
    (hy : directive.execute ys store = (.ok others, last)) :
    directive.execute (xs ++ ys) store = (.ok (outcomes ++ others), store) := by
  apply Prod.ext
  · rw [h.append, hx, hy]
    rfl
  · exact h.store_eq _ _

theorem execute_append_left (h : directive.Chunkwise)
    (hx : directive.execute xs store = (.error fault, after)) :
    directive.execute (xs ++ ys) store = (.error fault, store) := by
  apply Prod.ext
  · rw [h.append, hx]
    rfl
  · exact h.store_eq _ _

theorem execute_append_right (h : directive.Chunkwise)
    (hx : directive.execute xs store = (.ok outcomes, after))
    (hy : directive.execute ys store = (.error fault, last)) :
    directive.execute (xs ++ ys) store = (.error fault, store) := by
  apply Prod.ext
  · rw [h.append, hx, hy]
    rfl
  · exact h.store_eq _ _

theorem after_eq (h : directive.Chunkwise)
    (hx : directive.execute xs store = (.ok outcomes, after)) : after = store := by
  have hstore := h.store_eq xs store
  rwa [hx] at hstore

end Directive.Chunkwise

/-- Two stages of one step, the batches one after the other. -/
def Stage.join (left right : Stage) : Stage :=
  { left with rows := left.rows ++ right.rows, outcomes := left.outcomes ++ right.outcomes }

section
variable {policy : ErrorRows} {steps : List Step} {xs ys : List Row} {store : Store}

theorem stagesOf_append_batch (hsteps : ∀ step ∈ steps, step.directive.Chunkwise)
    (xs ys : List Row) :
    stagesOf policy steps (xs ++ ys) store =
      List.zipWith Stage.join (stagesOf policy steps xs store)
        (stagesOf policy steps ys store) := by
  induction steps generalizing xs ys with
  | nil => rfl
  | cons step steps ih =>
    obtain ⟨hstep, hrest⟩ := List.forall_mem_cons.mp hsteps
    rcases hx : step.directive.execute xs store with ⟨fault | outcomes, after⟩
    · rw [stagesOf_cons_error (hstep.execute_append_left hx), stagesOf_cons_error hx]
      rfl
    rcases hy : step.directive.execute ys store with ⟨fault | others, last⟩
    · rw [stagesOf_cons_error (hstep.execute_append_right hx hy), stagesOf_cons_error hy]
      simp
    · obtain rfl := hstep.after_eq hx
      obtain rfl := hstep.after_eq hy
      rw [stagesOf_cons_ok (hstep.execute_append_ok hx hy), stagesOf_cons_ok hx,
        stagesOf_cons_ok hy, Outcome.batch_append, ih hrest]
      rfl

theorem runSteps_append_batch (hsteps : ∀ step ∈ steps, step.directive.Chunkwise)
    {left right : RunResult} (hx : runSteps policy steps xs store = .ok left)
    (hy : runSteps policy steps ys store = .ok right) :
    ∃ whole, runSteps policy steps (xs ++ ys) store = .ok whole ∧
      whole.rows = left.rows ++ right.rows := by
  induction steps generalizing xs ys left right with
  | nil =>
    cases hx
    cases hy
    exact ⟨_, rfl, rfl⟩
  | cons step steps ih =>
    obtain ⟨hstep, hrest⟩ := List.forall_mem_cons.mp hsteps
    obtain ⟨outcomes, after, left, hex, hleft, rfl⟩ := runSteps_cons_eq_ok.mp hx
    obtain ⟨others, last, right, hey, hright, rfl⟩ := runSteps_cons_eq_ok.mp hy
    obtain rfl := hstep.after_eq hex
    obtain rfl := hstep.after_eq hey
    obtain ⟨whole, hwhole, hrows⟩ := ih hrest hleft hright
    rw [← Outcome.batch_append] at hwhole
    exact ⟨_, runSteps_cons_eq_ok.mpr
      ⟨_, _, whole, hstep.execute_append_ok hex hey, hwhole, rfl⟩, hrows⟩

/-- The first part of a batch decides on the failure if it fails no later than the second. -/
theorem runSteps_append_batch_left (hsteps : ∀ step ∈ steps, step.directive.Chunkwise)
    {failure : ExecutionError} (hx : runSteps policy steps xs store = .error failure)
    (hle : (stagesOf policy steps xs store).length ≤ (stagesOf policy steps ys store).length) :
    runSteps policy steps (xs ++ ys) store = .error failure := by
  induction steps generalizing xs ys with
  | nil => cases hx
  | cons step steps ih =>
    obtain ⟨hstep, hrest⟩ := List.forall_mem_cons.mp hsteps
    rcases he : step.directive.execute xs store with ⟨fault | outcomes, after⟩
    · rw [runSteps_cons_error (hstep.execute_append_left he), ← runSteps_cons_error he, hx]
    rcases hy : step.directive.execute ys store with ⟨fault | others, last⟩
    · simp [stagesOf_cons_ok he, stagesOf_cons_error hy] at hle
    · obtain rfl := hstep.after_eq he
      obtain rfl := hstep.after_eq hy
      rw [runSteps_cons_ok he, map_eq_error] at hx
      rw [stagesOf_cons_ok he, stagesOf_cons_ok hy] at hle
      rw [runSteps_cons_ok (hstep.execute_append_ok he hy), Outcome.batch_append,
        ih hrest hx (Nat.le_of_succ_le_succ hle)]
      rfl

/-- The second part of a batch decides on the failure if it fails before the first. -/
theorem runSteps_append_batch_right (hsteps : ∀ step ∈ steps, step.directive.Chunkwise)
    {failure : ExecutionError} (hy : runSteps policy steps ys store = .error failure)
    (hlt : (stagesOf policy steps ys store).length < (stagesOf policy steps xs store).length) :
    runSteps policy steps (xs ++ ys) store = .error failure := by
  induction steps generalizing xs ys with
  | nil => cases hy
  | cons step steps ih =>
    obtain ⟨hstep, hrest⟩ := List.forall_mem_cons.mp hsteps
    rcases hx : step.directive.execute xs store with ⟨fault | outcomes, after⟩
    · simp [stagesOf_cons_error hx] at hlt
    rcases he : step.directive.execute ys store with ⟨fault | others, last⟩
    · rw [runSteps_cons_error (hstep.execute_append_right hx he), ← runSteps_cons_error he, hy]
    · obtain rfl := hstep.after_eq hx
      obtain rfl := hstep.after_eq he
      rw [runSteps_cons_ok he, map_eq_error] at hy
      rw [stagesOf_cons_ok he, stagesOf_cons_ok hx] at hlt
      rw [runSteps_cons_ok (hstep.execute_append_ok hx he), Outcome.batch_append,
        ih hrest hy (Nat.lt_of_succ_lt_succ hlt)]
      rfl

end

namespace Pipeline
variable {pipeline : Pipeline} {xs ys : List Row}

/-- The records of a step, put together from the runs on two parts of a batch. -/
theorem recordsAt_append (hsteps : ∀ step ∈ pipeline.steps, step.directive.Chunkwise)
    {left right : RunResult} (hx : pipeline.run xs = .ok left) (hy : pipeline.run ys = .ok right)
    (position : Nat) :
    pipeline.recordsAt (xs ++ ys) position =
      pipeline.recordsAt xs position ++ pipeline.recordsAt ys position := by
  have hlength : (pipeline.stages xs).length = (pipeline.stages ys).length :=
    (length_stagesOf hx).trans (length_stagesOf hy).symm
  have hjoin : pipeline.stages (xs ++ ys) =
      List.zipWith Stage.join (pipeline.stages xs) (pipeline.stages ys) :=
    stagesOf_append_batch hsteps xs ys
  simp only [recordsAt, hjoin, List.getElem?_zipWith]
  rcases hl : (pipeline.stages xs)[position]? with _ | left
  · have hr : (pipeline.stages ys)[position]? = none := by
      rw [List.getElem?_eq_none_iff] at hl ⊢
      exact hlength ▸ hl
    rw [hr]
    rfl
  rcases hr : (pipeline.stages ys)[position]? with _ | right
  · rw [List.getElem?_eq_none_iff] at hr
    rw [List.getElem?_eq_none (hlength ▸ hr)] at hl
    cases hl
  · have hstep : left.step = right.step :=
      Option.some.inj ((step_of_stagesOf hl).symm.trans (step_of_stagesOf hr))
    simp only [Option.map_some, Option.getD_some, Stage.records, Stage.join, Step.records_append,
      hstep]

theorem length_stages_append (hsteps : ∀ step ∈ pipeline.steps, step.directive.Chunkwise) :
    (pipeline.stages (xs ++ ys)).length =
      min (pipeline.stages xs).length (pipeline.stages ys).length := by
  unfold stages
  rw [stagesOf_append_batch hsteps, List.length_zipWith]

theorem FailsAt.append_left (hsteps : ∀ step ∈ pipeline.steps, step.directive.Chunkwise)
    {position : Nat} {failure : ExecutionError} (hx : pipeline.FailsAt xs position failure)
    (hle : position ≤ (pipeline.stages ys).length) :
    pipeline.FailsAt (xs ++ ys) position failure := by
  obtain ⟨hrun, rfl⟩ := hx
  exact ⟨runSteps_append_batch_left hsteps hrun hle,
    (length_stages_append hsteps).trans (Nat.min_eq_left hle)⟩

theorem FailsAt.append_right (hsteps : ∀ step ∈ pipeline.steps, step.directive.Chunkwise)
    {position : Nat} {failure : ExecutionError} (hy : pipeline.FailsAt ys position failure)
    (hlt : position < (pipeline.stages xs).length) :
    pipeline.FailsAt (xs ++ ys) position failure := by
  obtain ⟨hrun, rfl⟩ := hy
  exact ⟨runSteps_append_batch_right hsteps hrun hlt,
    (length_stages_append hsteps).trans (Nat.min_eq_right (Nat.le_of_lt hlt))⟩

/-- Of two parts of a batch, that one decides on the failure which fails first: the failure is that
of the first part in its step, and the second part does not fail in front of it, or that of the
second part, and the first part does not fail so soon. -/
def FailsFirst (pipeline : Pipeline) (xs ys : List Row) (position : Nat)
    (failure : ExecutionError) : Prop :=
  (pipeline.FailsAt xs position failure ∧
      ∀ later other, pipeline.FailsAt ys later other → position ≤ later) ∨
    (pipeline.FailsAt ys position failure ∧
      ∀ later other, pipeline.FailsAt xs later other → position < later)

/-- Either both parts of a batch succeed, or one of them fails first and the batch with it. -/
theorem both_ok_or_failsFirst (hsteps : ∀ step ∈ pipeline.steps, step.directive.Chunkwise)
    (xs ys : List Row) :
    ((∃ left, pipeline.run xs = .ok left) ∧ ∃ right, pipeline.run ys = .ok right) ∨
      ∃ position failure, pipeline.FailsAt (xs ++ ys) position failure ∧
        pipeline.FailsFirst xs ys position failure := by
  have hbound : (pipeline.stages xs).length ≤ pipeline.steps.length := length_stagesOf_le _ _ _ _
  rcases hx : pipeline.run xs with failure | left
  · by_cases hle : (pipeline.stages xs).length ≤ (pipeline.stages ys).length
    · refine .inr ⟨_, failure, FailsAt.append_left hsteps ⟨hx, rfl⟩ hle, .inl ⟨⟨hx, rfl⟩, ?_⟩⟩
      rintro later other ⟨-, rfl⟩
      exact hle
    rcases hy : pipeline.run ys with other | right
    · refine .inr ⟨_, other, FailsAt.append_right hsteps ⟨hy, rfl⟩ (by omega),
        .inr ⟨⟨hy, rfl⟩, ?_⟩⟩
      rintro later other ⟨-, rfl⟩
      omega
    · have hlength : (pipeline.stages ys).length = pipeline.steps.length := length_stagesOf hy
      omega
  rcases hy : pipeline.run ys with failure | right
  · have hlength : (pipeline.stages xs).length = pipeline.steps.length := length_stagesOf hx
    have hlt : (pipeline.stages ys).length < pipeline.steps.length := length_stagesOf_lt hy
    refine .inr ⟨_, failure, FailsAt.append_right hsteps ⟨hy, rfl⟩ (by omega),
      .inr ⟨⟨hy, rfl⟩, ?_⟩⟩
    rintro later other ⟨hother, -⟩
    rw [hx] at hother
    cases hother
  · exact .inl ⟨⟨left, rfl⟩, right, rfl⟩

/-- A recipe of directives on single rows does with a batch what it does with two parts of it: it
succeeds if it does so with both, rows and records of each step being those of the parts one after
the other, and else it fails in the first step that fails with a part, as it does with the first
part if that fails there. The records of a run are those of its steps. -/
theorem run_chunks (pipeline : Pipeline) (hsteps : ∀ step ∈ pipeline.steps, step.OnRows)
    (xs ys : List Row) :
    ((∃ whole, pipeline.run (xs ++ ys) = .ok whole) ↔
      (∃ left, pipeline.run xs = .ok left) ∧ ∃ right, pipeline.run ys = .ok right) ∧
    (∀ whole left right, pipeline.run (xs ++ ys) = .ok whole → pipeline.run xs = .ok left →
      pipeline.run ys = .ok right →
      whole.rows = left.rows ++ right.rows ∧
      ∀ position, pipeline.recordsAt (xs ++ ys) position =
        pipeline.recordsAt xs position ++ pipeline.recordsAt ys position) ∧
    (∀ rows result, pipeline.run rows = .ok result →
      result.errors = (List.range pipeline.steps.length).flatMap (pipeline.recordsAt rows)) ∧
    ∀ failure, pipeline.run (xs ++ ys) = .error failure →
      ∃ position step, pipeline.steps[position]? = some step ∧
        failure.directive = step.name ∧ failure.line = step.line ∧
        pipeline.FailsAt (xs ++ ys) position failure ∧
        pipeline.FailsFirst xs ys position failure := by
  have hchunkwise : ∀ step ∈ pipeline.steps, step.directive.Chunkwise :=
    fun step hstep => (hsteps step hstep).chunkwise
  refine ⟨⟨?_, ?_⟩, ?_, fun _ _ => errors_eq_flatMap_recordsAt, ?_⟩
  · rintro ⟨whole, hwhole⟩
    rcases both_ok_or_failsFirst hchunkwise xs ys with hboth | ⟨_, _, ⟨hfails, -⟩, -⟩
    · exact hboth
    · rw [hwhole] at hfails
      cases hfails
  · rintro ⟨⟨left, hx⟩, right, hy⟩
    obtain ⟨whole, hwhole, -⟩ := runSteps_append_batch hchunkwise hx hy
    exact ⟨whole, hwhole⟩
  · intro whole left right hwhole hx hy
    obtain ⟨other, hother, hrows⟩ := runSteps_append_batch hchunkwise hx hy
    obtain rfl : whole = other := Except.ok.inj (hwhole.symm.trans hother)
    exact ⟨hrows, recordsAt_append hchunkwise hx hy⟩
  · intro failure hfailure
    rcases both_ok_or_failsFirst hchunkwise xs ys with ⟨⟨left, hx⟩, right, hy⟩ | hfirst
    · obtain ⟨whole, hwhole, -⟩ := runSteps_append_batch hchunkwise hx hy
      cases hfailure.symm.trans hwhole
    · obtain ⟨position, other, hother, hfirst⟩ := hfirst
      obtain rfl : failure = other := Except.error.inj (hfailure.symm.trans hother.1)
      obtain ⟨step, hstep, hname, hline⟩ := hother.exists_step
      exact ⟨position, step, hstep, hname, hline, hother, hfirst⟩

/-- Diverts rows that are bad, renames a column and makes it one of texts. -/
def tidying : Pipeline where
  policy := .divert
  steps :=
    [⟨"send-to-error", ⟨1, "send-to-error bad"⟩, ⟨.ofList [("condition", .text "bad")],
        "send-to-error bad"⟩, .builtin (.row (.divert ⟨"bad", .variable "bad" ⟨1, 1⟩⟩ none))⟩,
      ⟨"rename", ⟨2, "rename a b"⟩, ⟨.ofList [("old", .columnName "a"), ("new", .columnName "b")],
        "rename a b"⟩, .builtin (.row (.rename "a" "b"))⟩,
      ⟨"set-type", ⟨3, "set-type b string"⟩, ⟨.ofList [("column", .columnName "b"),
        ("type", .identifier "string")], "set-type b string"⟩,
        .builtin (.row (.setType "b" .text))⟩]

/-- A row that `tidying` fails with in its last step: a list has no text. -/
def listRow : Row :=
  [("a", .list []), ("bad", .boolean false)]

/-- A row that `tidying` fails with in its second step. -/
def bareRow : Row :=
  [("bad", .boolean false)]

def bareFailure : ExecutionError :=
  ⟨"rename", ⟨2, "rename a b"⟩, .error (.missingColumn "a")⟩

/-- A row that `tidying` diverts. -/
def badRow (n : Int64) : Row :=
  [("a", .whole n), ("bad", .boolean true)]

/-- A row that `tidying` makes one with a text of. -/
def tidyRow (n : Int64) : Row :=
  [("a", .whole n), ("bad", .boolean false)]

/-- A row is diverted from each part of the one batch; of the other one, the second part fails first
and decides on the failure. -/
theorem run_chunks_tidying :
    (∀ step ∈ tidying.steps, step.OnRows) ∧
      (∃ whole left right, tidying.run ([tidyRow 1, badRow 2] ++ [badRow 3]) = .ok whole ∧
        tidying.run [tidyRow 1, badRow 2] = .ok left ∧ tidying.run [badRow 3] = .ok right ∧
        whole.rows = left.rows ++ right.rows ∧
        whole.errors.map ErrorRecord.row = [badRow 2, badRow 3] ∧
        tidying.recordsAt ([tidyRow 1, badRow 2] ++ [badRow 3]) 0 = left.errors ++ right.errors) ∧
      tidying.run ([listRow] ++ [bareRow]) = .error bareFailure ∧
      ∃ position step, tidying.steps[position]? = some step ∧
        bareFailure.directive = step.name ∧ bareFailure.line = step.line ∧
        tidying.FailsAt ([listRow] ++ [bareRow]) position bareFailure ∧
        tidying.FailsFirst [listRow] [bareRow] position bareFailure := by
  have hsteps : ∀ step ∈ tidying.steps, step.OnRows := by
    simp only [tidying, List.forall_mem_cons]
    exact ⟨⟨"send-to-error", by decide, _, rfl, rfl⟩, ⟨"rename", by decide, _, rfl, rfl⟩,
      ⟨"set-type", by decide, _, rfl, rfl⟩, by simp⟩
  have hrun : tidying.run ([listRow] ++ [bareRow]) = .error bareFailure := rfl
  obtain ⟨hrows, hrecords⟩ :=
    (run_chunks tidying hsteps [tidyRow 1, badRow 2] [badRow 3]).2.1 _ _ _ rfl rfl rfl
  refine ⟨hsteps, ⟨_, _, _, rfl, rfl, rfl, hrows, rfl, hrecords 0⟩, hrun, ?_⟩
  exact (run_chunks tidying hsteps [listRow] [bareRow]).2.2.2 bareFailure hrun

end Pipeline

end RowRecipe
