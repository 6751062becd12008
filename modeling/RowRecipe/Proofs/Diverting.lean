import Mathlib.Data.List.Forall2
import RowRecipe.Proofs.Execution
import RowRecipe.Proofs.Stage

/-!
# Diverting steps

A step that diverts rows by a condition reads the variables and leaves them alone. Where diverted
rows stay in the batch, it leaves the batch alone as well, so that the other steps have the same
stages without it. Where diverted rows leave the batch, it does to the batch what a filter by its
condition does. Main statement: rows, variables and the records of the other steps are the same
without diverting steps in the one case, and with filters in their places in the other. The other
steps may be any, those of the library or others.
-/
namespace RowRecipe

/-- Whether a step diverts rows by a condition. -/
def Step.diverts (step : Step) : Bool :=
  match step.directive with
  | .builtin (.row (.divert _ _)) => true
  | _ => false

/-- A step and what stands in its place where diverting steps become filters. -/
inductive Step.FilteredBy : Step → Step → Prop where
  | same {step : Step} : step.diverts = false → FilteredBy step step
  | filter {step other : Step} {condition : Expression} {message : Option String} :
      step.directive = .builtin (.row (.divert condition message)) →
      other.directive = .builtin (.row (.filter condition)) → FilteredBy step other

theorem Step.exists_divert {step : Step} (h : step.diverts = true) :
    ∃ condition message, step.directive = .builtin (.row (.divert condition message)) := by
  unfold diverts at h
  split at h
  · next condition message hdirective => exact ⟨condition, message, hdirective⟩
  · cases h

namespace Outcome

theorem batch_retain (outcomes : List Outcome) :
    batch .retain outcomes = outcomes.map Outcome.row := by
  have hstays : ∀ outcome ∈ outcomes, stays .retain outcome = true := by
    intro outcome _
    cases outcome <;> rfl
  rw [batch, List.filter_eq_self.mpr hstays]

theorem batch_divert (outcomes : List Outcome) :
    batch .divert outcomes = (outcomes.filter isKept).map row := by
  have hstays : stays .divert = isKept := by
    funext outcome
    cases outcome <;> rfl
  rw [batch, hstays]

theorem batch_divert_filter_isKept (outcomes : List Outcome) :
    batch .divert (outcomes.filter isKept) = batch .divert outcomes := by
  rw [batch_divert, batch_divert, List.filter_filter]
  simp only [Bool.and_self]

end Outcome

theorem Step.records_filter_isKept (step : Step) (outcomes : List Outcome) :
    step.records (outcomes.filter Outcome.isKept) = [] := by
  rw [Step.records, List.filterMap_eq_nil_iff]
  intro outcome houtcome
  obtain ⟨-, hkept⟩ := List.mem_filter.mp houtcome
  cases outcome with
  | keep row => rfl
  | divert row message code => cases hkept

namespace RowDirective

/-- Every row of the batch has one outcome, in its place. -/
theorem map_row_applyAll_divert {condition : Expression} {message : Option String} {store : Store}
    {rows : List Row} {outcomes : List Outcome}
    (h : (RowDirective.divert condition message).applyAll store rows = .ok outcomes) :
    outcomes.map Outcome.row = rows := by
  have hrow : ∀ row, Gives ((RowDirective.divert condition message).apply store row)
      fun outcomes => outcomes.map Outcome.row = [row] := by
    intro row
    apply Gives.map
    intro outcome houtcome
    rw [List.map_singleton, gives_row_divertIf condition message store row outcome houtcome]
  rw [map_applyAll hrow h, List.map_id']

/-- A filter keeps what a diverting directive with its condition keeps. -/
theorem applyAll_filter (condition : Expression) (message : Option String) (store : Store)
    (rows : List Row) :
    (RowDirective.filter condition).applyAll store rows =
      ((RowDirective.divert condition message).applyAll store rows).map
        (List.filter Outcome.isKept) := by
  induction rows with
  | nil => rfl
  | cons row rows ih =>
    simp only [applyAll, apply, divertIf, ih]
    cases condition.holdsFor row store with
    | error fault => rfl
    | ok found =>
      cases (RowDirective.divert condition message).applyAll store rows with
      | error fault => cases found <;> rfl
      | ok outcomes => cases found <;> rfl

end RowDirective

section
variable {steps others : List Step} {rows : List Row} {store : Store}

/-- Where diverted rows stay, a diverting step that succeeds leaves all as it was. -/
theorem batch_and_store_of_diverts {step : Step} (h : step.diverts = true) {after : Store}
    {outcomes : List Outcome}
    (hx : step.directive.execute rows store = (.ok outcomes, after)) :
    Outcome.batch .retain outcomes = rows ∧ after = store := by
  obtain ⟨condition, message, hdirective⟩ := step.exists_divert h
  rw [hdirective, Directive.execute_row_eq_ok] at hx
  obtain ⟨happly, hstore⟩ := hx
  rw [Outcome.batch_retain]
  exact ⟨RowDirective.map_row_applyAll_divert happly, hstore⟩

theorem runSteps_retain_filter {result : RunResult}
    (h : runSteps .retain steps rows store = .ok result) :
    (∃ reduced, runSteps .retain (steps.filter (!·.diverts)) rows store = .ok reduced ∧
        reduced.rows = result.rows ∧ reduced.store = result.store) ∧
      stagesOf .retain (steps.filter (!·.diverts)) rows store =
        (stagesOf .retain steps rows store).filter (!·.step.diverts) := by
  induction steps generalizing rows store result with
  | nil => exact ⟨⟨result, h, rfl, rfl⟩, rfl⟩
  | cons step steps ih =>
    obtain ⟨outcomes, after, rest, hx, hrest, rfl⟩ := runSteps_cons_eq_ok.mp h
    obtain ⟨⟨reduced, hreduced, hrows, hstore⟩, hstages⟩ := ih hrest
    rw [stagesOf_cons_ok hx]
    by_cases hdiverts : step.diverts = true
    · obtain ⟨hbatch, rfl⟩ := batch_and_store_of_diverts hdiverts hx
      rw [hbatch] at hreduced hstages ⊢
      rw [List.filter_cons_of_neg (by simpa using hdiverts),
        List.filter_cons_of_neg (by simpa using hdiverts)]
      exact ⟨⟨reduced, hreduced, hrows, hstore⟩, hstages⟩
    · rw [List.filter_cons_of_pos (by simpa using hdiverts),
        List.filter_cons_of_pos (by simpa using hdiverts), stagesOf_cons_ok hx, hstages]
      exact ⟨⟨_, runSteps_cons_eq_ok.mpr ⟨_, _, reduced, hx, hreduced, rfl⟩, hrows, hstore⟩, rfl⟩

/-- What a filter in the place of a diverting step does: it fails where that does, and else it
leaves the same batch and the same variables and makes no records. -/
theorem filteredBy_cases {step other : Step} (h : step.FilteredBy other) (rows : List Row)
    (store : Store) :
    (∃ fault after, step.directive.execute rows store = (.error fault, after) ∧
        other.directive.execute rows store = (.error fault, after)) ∨
      ∃ outcomes kept after, step.directive.execute rows store = (.ok outcomes, after) ∧
        other.directive.execute rows store = (.ok kept, after) ∧
        Outcome.batch .divert kept = Outcome.batch .divert outcomes ∧
        other.records kept = if step.diverts then [] else step.records outcomes := by
  cases h with
  | same hdiverts =>
    rcases hx : step.directive.execute rows store with ⟨fault | outcomes, after⟩
    · exact .inl ⟨fault, after, rfl, rfl⟩
    · exact .inr ⟨outcomes, outcomes, after, rfl, rfl, rfl, by rw [hdiverts]; rfl⟩
  | @filter _ condition message hstep hother =>
    have hdiverts : step.diverts = true := by rw [Step.diverts, hstep]
    have hfilter := RowDirective.applyAll_filter condition message store rows
    rw [hstep, hother]
    rcases hx : (RowDirective.divert condition message).applyAll store rows with cause | outcomes
    · rw [hx] at hfilter
      exact .inl ⟨.error cause, store, Directive.execute_row_eq_error.mpr ⟨cause, hx, rfl, rfl⟩,
        Directive.execute_row_eq_error.mpr ⟨cause, hfilter, rfl, rfl⟩⟩
    · rw [hx] at hfilter
      refine .inr ⟨outcomes, outcomes.filter Outcome.isKept, store,
        Directive.execute_row_eq_ok.mpr ⟨hx, rfl⟩, Directive.execute_row_eq_ok.mpr ⟨hfilter, rfl⟩,
        Outcome.batch_divert_filter_isKept outcomes, ?_⟩
      rw [hdiverts, Step.records_filter_isKept]
      rfl

theorem runSteps_filteredBy (h : List.Forall₂ Step.FilteredBy steps others) (rows : List Row)
    (store : Store) :
    (∃ failure other, runSteps .divert steps rows store = .error failure ∧
        runSteps .divert others rows store = .error other) ∨
      ∃ result other, runSteps .divert steps rows store = .ok result ∧
        runSteps .divert others rows store = .ok other ∧
        other.rows = result.rows ∧ other.store = result.store := by
  induction h generalizing rows store with
  | nil => exact .inr ⟨_, _, rfl, rfl, rfl, rfl⟩
  | @cons step other steps others hstep _ ih =>
    rcases filteredBy_cases hstep rows store with ⟨fault, after, hx, hy⟩ | hboth
    · exact .inl ⟨_, _, runSteps_cons_error hx, runSteps_cons_error hy⟩
    obtain ⟨outcomes, kept, after, hx, hy, hbatch, -⟩ := hboth
    rw [runSteps_cons_ok hx, runSteps_cons_ok hy, hbatch]
    rcases ih (Outcome.batch .divert outcomes) after with
      ⟨failure, last, hfailure, hlast⟩ | ⟨result, last, hresult, hlast, hrows, hstore⟩
    · rw [hfailure, hlast]
      exact .inl ⟨_, _, rfl, rfl⟩
    · rw [hresult, hlast]
      exact .inr ⟨_, _, rfl, rfl, hrows, hstore⟩

theorem stagesOf_filteredBy (h : List.Forall₂ Step.FilteredBy steps others) (rows : List Row)
    (store : Store) :
    (stagesOf .divert others rows store).map Stage.records =
      (stagesOf .divert steps rows store).map fun stage =>
        if stage.step.diverts then [] else stage.records := by
  induction h generalizing rows store with
  | nil => rfl
  | @cons step other steps others hstep _ ih =>
    rcases filteredBy_cases hstep rows store with ⟨fault, after, hx, hy⟩ | hboth
    · rw [stagesOf_cons_error hx, stagesOf_cons_error hy]
      rfl
    · obtain ⟨outcomes, kept, after, hx, hy, hbatch, hrecords⟩ := hboth
      rw [stagesOf_cons_ok hx, stagesOf_cons_ok hy, hbatch, List.map_cons, List.map_cons, ih,
        Stage.records, hrecords]
      rfl

end

namespace Pipeline

/-- The records that the steps of a run make which do not divert by a condition. -/
def recordsOfOthers (pipeline : Pipeline) (rows : List Row) : List ErrorRecord :=
  ((pipeline.stages rows).filter (!·.step.diverts)).flatMap Stage.records

theorem flatMap_records_filter (stages : List Stage) :
    (stages.filter (!·.step.diverts)).flatMap Stage.records =
      stages.flatMap fun stage => if stage.step.diverts then [] else stage.records := by
  induction stages with
  | nil => rfl
  | cons stage stages ih =>
    rw [List.flatMap_cons, ← ih]
    by_cases hdiverts : stage.step.diverts = true
    · rw [List.filter_cons_of_neg (by simpa using hdiverts), if_pos hdiverts, List.nil_append]
    · rw [List.filter_cons_of_pos (by simpa using hdiverts), if_neg hdiverts, List.flatMap_cons]

section
variable {steps others : List Step} {rows : List Row}

theorem errors_of_filteredBy (h : List.Forall₂ Step.FilteredBy steps others) {other : RunResult}
    (hother : run ⟨others, .divert⟩ rows = .ok other) :
    other.errors = recordsOfOthers ⟨steps, .divert⟩ rows := by
  rw [errors_eq_flatMap_records hother, List.flatMap_def, stagesOf_filteredBy h,
    recordsOfOthers, flatMap_records_filter, List.flatMap_def]
  rfl

theorem recordsAt_filteredBy (h : List.Forall₂ Step.FilteredBy steps others) (rows : List Row)
    {position : Nat} {step : Step} (hstep : steps[position]? = some step) :
    recordsAt ⟨others, .divert⟩ rows position =
      if step.diverts then [] else recordsAt ⟨steps, .divert⟩ rows position := by
  simp only [recordsAt, ← List.getElem?_map]
  have hrecords : (stages ⟨others, .divert⟩ rows).map Stage.records =
      (stages ⟨steps, .divert⟩ rows).map fun stage =>
        if stage.step.diverts then [] else stage.records := stagesOf_filteredBy h rows _
  rw [hrecords, List.getElem?_map, List.getElem?_map]
  rcases hstage : (stages ⟨steps, .divert⟩ rows)[position]? with _ | stage
  · simp
  · obtain rfl : step = stage.step :=
      Option.some.inj (hstep.symm.trans (step_of_stagesOf hstage))
    rw [Option.map_some, Option.map_some, Option.getD_some, Option.getD_some]

end

/-- Where diverted rows stay, a recipe gives the same rows, variables and other records without its
diverting steps; where they leave, it does so with filters in the places of its diverting steps,
and succeeds just as often. The records of a run are those of its steps. -/
theorem run_without_diverting (steps : List Step) (rows : List Row) :
    (∀ result, run ⟨steps, .retain⟩ rows = .ok result →
      ∃ reduced, run ⟨steps.filter (!·.diverts), .retain⟩ rows = .ok reduced ∧
        reduced.rows = result.rows ∧ reduced.store = result.store ∧
        result.errors = (stages ⟨steps, .retain⟩ rows).flatMap Stage.records ∧
        reduced.errors = recordsOfOthers ⟨steps, .retain⟩ rows ∧
        stages ⟨steps.filter (!·.diverts), .retain⟩ rows =
          (stages ⟨steps, .retain⟩ rows).filter (!·.step.diverts)) ∧
    ∀ others, List.Forall₂ Step.FilteredBy steps others →
      ((∃ result, run ⟨steps, .divert⟩ rows = .ok result) ↔
        ∃ other, run ⟨others, .divert⟩ rows = .ok other) ∧
      ∀ result other, run ⟨steps, .divert⟩ rows = .ok result →
        run ⟨others, .divert⟩ rows = .ok other →
        other.rows = result.rows ∧ other.store = result.store ∧
        result.errors = (List.range steps.length).flatMap (recordsAt ⟨steps, .divert⟩ rows) ∧
        other.errors = (List.range others.length).flatMap (recordsAt ⟨others, .divert⟩ rows) ∧
        other.errors = recordsOfOthers ⟨steps, .divert⟩ rows ∧
        ∀ position step, steps[position]? = some step →
          recordsAt ⟨others, .divert⟩ rows position =
            if step.diverts then [] else recordsAt ⟨steps, .divert⟩ rows position := by
  constructor
  · intro result hresult
    obtain ⟨⟨reduced, hreduced, hrows, hstore⟩, hstages⟩ := runSteps_retain_filter hresult
    refine ⟨reduced, hreduced, hrows, hstore, errors_eq_flatMap_records hresult, ?_, hstages⟩
    rw [errors_eq_flatMap_records hreduced, hstages]
    rfl
  · intro others hothers
    rcases runSteps_filteredBy hothers rows SortedMap.empty with
      ⟨failure, last, hfailure, hlast⟩ | ⟨result, last, hresult, hlast, hrows, hstore⟩
    · refine ⟨⟨?_, ?_⟩, ?_⟩
      · rintro ⟨result, hresult⟩
        cases hfailure.symm.trans hresult
      · rintro ⟨other, hother⟩
        cases hlast.symm.trans hother
      · intro result other hresult
        cases hfailure.symm.trans hresult
    · refine ⟨⟨fun _ => ⟨last, hlast⟩, fun _ => ⟨result, hresult⟩⟩, ?_⟩
      intro again other hagain hother
      obtain rfl : result = again := Except.ok.inj (hresult.symm.trans hagain)
      obtain rfl : last = other := Except.ok.inj (hlast.symm.trans hother)
      exact ⟨hrows, hstore, errors_eq_flatMap_recordsAt hresult, errors_eq_flatMap_recordsAt hlast,
        errors_of_filteredBy hothers hlast,
        fun position step hstep => recordsAt_filteredBy hothers rows hstep⟩

/-- Counts the rows of the batch in a variable, as no directive of the library does. -/
def countRows : Directive :=
  .custom fun rows store =>
    (.ok (rows.map .keep), store.insert "rows" (.whole (Int64.ofNat rows.length)))

/-- Diverts rows that are bad before and after they are counted. -/
def divertTwice : List Step :=
  [⟨"send-to-error", ⟨1, "send-to-error bad"⟩, ⟨.ofList [("condition", .text "bad")],
      "send-to-error bad"⟩, .builtin (.row (.divert ⟨"bad", .variable "bad" ⟨1, 1⟩⟩ none))⟩,
    ⟨"count", ⟨2, "count"⟩, ⟨.empty, "count"⟩, countRows⟩,
    ⟨"send-to-error", ⟨3, "send-to-error odd"⟩, ⟨.ofList [("condition", .text "odd")],
      "send-to-error odd"⟩, .builtin (.row (.divert ⟨"odd", .variable "odd" ⟨1, 1⟩⟩ none))⟩]

/-- Filters rows where `divertTwice` diverts them. -/
def filterTwice : List Step :=
  [⟨"filter-row-if-true", ⟨1, "filter-row-if-true bad"⟩, ⟨.ofList [("condition", .text "bad")],
      "filter-row-if-true bad"⟩, .builtin (.row (.filter ⟨"bad", .variable "bad" ⟨1, 1⟩⟩))⟩,
    ⟨"count", ⟨2, "count"⟩, ⟨.empty, "count"⟩, countRows⟩,
    ⟨"filter-row-if-true", ⟨3, "filter-row-if-true odd"⟩, ⟨.ofList [("condition", .text "odd")],
      "filter-row-if-true odd"⟩, .builtin (.row (.filter ⟨"odd", .variable "odd" ⟨1, 1⟩⟩))⟩]

def mixedRows : List Row :=
  [[("bad", .boolean true), ("odd", .boolean false)],
    [("bad", .boolean false), ("odd", .boolean true)],
    [("bad", .boolean false), ("odd", .boolean false)]]

/-- Of three rows, one is diverted before the others are counted, and one after that. -/
theorem run_without_diverting_mixed :
    List.Forall₂ Step.FilteredBy divertTwice filterTwice ∧
      ∃ result other, run ⟨divertTwice, .divert⟩ mixedRows = .ok result ∧
        run ⟨filterTwice, .divert⟩ mixedRows = .ok other ∧
        result.store.get? "rows" = some (.whole 2) ∧ result.errors.length = 2 ∧
        other.rows = result.rows ∧ other.store = result.store ∧ other.errors = [] := by
  have hfiltered : List.Forall₂ Step.FilteredBy divertTwice filterTwice :=
    .cons (.filter rfl rfl) (.cons (.same rfl) (.cons (.filter rfl rfl) .nil))
  obtain ⟨hrows, hstore, -⟩ :=
    ((run_without_diverting divertTwice mixedRows).2 filterTwice hfiltered).2 _ _ rfl rfl
  exact ⟨hfiltered, _, _, rfl, rfl, rfl, rfl, hrows, hstore, rfl⟩

end Pipeline

end RowRecipe
