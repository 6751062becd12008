import Mathlib.Data.List.Nodup
import RowRecipe.Proofs.Diverting
import RowRecipe.Proofs.Numbering

/-!
# The log of diverted rows

The steps of a recipe stand in lines whose numbers strictly increase, also where lines do not count
or go on in others. So the records of a run are in the order of the lines, and the line of a record
tells which step made it. In the library only diverting steps make records, one for each row of
their batch that their condition is true of.

Main statement: `Pipeline.run_records`.
-/
namespace RowRecipe

/-! ### The numbers of steps -/

namespace Registry
variable {registry : Registry} {options : LineOptions} {recipe : List String}
variable {steps : List Step}

/-- The steps of a recipe stand in lines further and further down. -/
theorem pairwise_number_of_readLines (h : registry.readLines options recipe = .ok steps) :
    steps.Pairwise (·.line.number < ·.line.number) := by
  obtain ⟨lines, hlines, hsteps⟩ := bind_eq_ok.mp h
  have hordered := LineOptions.pairwise_number_logicalLines hlines
  rwa [← map_line_bindAll hsteps, List.pairwise_map] at hordered

end Registry

/-- No two steps stand in lines of one number. -/
theorem eq_of_line_number_eq {steps : List Step}
    (hordered : steps.Pairwise (·.line.number < ·.line.number)) {step other : Step}
    (hstep : step ∈ steps) (hother : other ∈ steps)
    (heq : step.line.number = other.line.number) : step = other := by
  have hdistinct : (steps.map fun step => step.line.number).Nodup :=
    List.pairwise_map.mpr (hordered.imp Nat.ne_of_lt)
  exact List.inj_on_of_nodup_map hdistinct hstep hother heq

/-! ### What steps of the library record -/

namespace RowDirective
variable {directive : RowDirective} {store : Store} {rows : List Row} {outcomes : List Outcome}

/-- Unless it diverts by a condition, a directive keeps whatever it makes of a row. -/
theorem gives_kept_apply (hname : directive.name ≠ "send-to-error") (store : Store) (row : Row) :
    Gives (directive.apply store row) fun outcomes => ∀ outcome ∈ outcomes, outcome.isKept := by
  have hkept : ∀ row, ∀ outcome ∈ [Outcome.keep row], outcome.isKept := by simp [Outcome.isKept]
  cases directive with
  | rename old new => exact .map fun row _ => hkept row
  | drop columns => exact .map fun row _ => hkept row
  | keep columns => exact .pure (hkept _)
  | copy source destination force => exact .map fun row _ => hkept row
  | setColumn column expression => exact .map fun value _ => hkept _
  | fill column value => exact .pure (hkept _)
  | setType column target => exact .map fun row _ => hkept row
  | change column edit => exact .pure (hkept _)
  | filter condition =>
    apply Gives.map
    intro found _
    cases found with
    | true => simp
    | false => exact hkept row
  | divert condition message => exact absurd rfl hname
  | split column separator =>
    apply Gives.map
    intro parts _
    exact List.forall_mem_map.mpr fun part _ => rfl

end RowDirective

namespace Step
variable {step : Step} {outcomes : List Outcome}

theorem records_eq_nil (h : ∀ outcome ∈ outcomes, outcome.isKept) : step.records outcomes = [] := by
  rw [← List.filter_eq_self.mpr h, records_filter_isKept]

/-- A record has the name and the line of its step. -/
theorem source_of_mem_records {record : ErrorRecord} (h : record ∈ step.records outcomes) :
    record.directive = step.name ∧ record.line = step.line.number := by
  obtain ⟨outcome, -, hmade⟩ := List.mem_filterMap.mp h
  cases outcome with
  | keep row => cases hmade
  | divert row message code =>
    cases hmade
    exact ⟨rfl, rfl⟩

end Step

/-- Whether a condition has a truth value for a row and is true. -/
def Expression.isMet (condition : Expression) (store : Store) (row : Row) : Bool :=
  match condition.test row store with
  | .ok value => value
  | .error _ => false

theorem Expression.isMet_of_test {condition : Expression} {store : Store} {row : Row}
    {value : Bool} (h : condition.test row store = .ok value) :
    condition.isMet store row = value := by
  rw [isMet, h]

/-- A diverting step that does not fail has a truth value for every row of its batch, and records
those that its condition is true of. -/
theorem RowDirective.row_records_applyAll {condition : Expression} {message : Option String}
    {store : Store} {rows : List Row} {outcomes : List Outcome} (step : Step)
    (h : (RowDirective.divert condition message).applyAll store rows = .ok outcomes) :
    (∀ row ∈ rows, ∃ value, condition.test row store = .ok value) ∧
      (step.records outcomes).map ErrorRecord.row = rows.filter (condition.isMet store) := by
  induction rows generalizing outcomes with
  | nil =>
    cases h
    exact ⟨by simp, rfl⟩
  | cons row rows ih =>
    simp only [applyAll, bind_eq_ok, pure_eq_ok] at h
    obtain ⟨first, hfirst, others, hothers, rfl⟩ := h
    obtain ⟨hvalues, hrecords⟩ := ih hothers
    obtain ⟨outcome, houtcome, rfl⟩ := map_eq_ok.mp hfirst
    obtain ⟨found, hfound, hmade⟩ := bind_eq_ok.mp houtcome
    have htest : condition.test row store = .ok found := Expression.holdsFor_eq_ok.mp hfound
    have hmet : condition.isMet store row = found := Expression.isMet_of_test htest
    refine ⟨List.forall_mem_cons.mpr ⟨⟨found, htest⟩, hvalues⟩, ?_⟩
    cases found with
    | true =>
      obtain rfl := pure_eq_ok.mp hmade
      rw [List.filter_cons_of_pos hmet, ← hrecords]
      rfl
    | false =>
      obtain rfl := pure_eq_ok.mp hmade
      rw [List.filter_cons_of_neg (by simp [hmet]), ← hrecords]
      rfl

/-- A step of the library by any other name than that of diverting ones records nothing. -/
theorem Step.records_eq_nil_of_isNamed {step : Step} (hnamed : step.directive.IsNamed step.name)
    (hname : step.name ≠ "send-to-error") {rows : List Row} {store after : Store}
    {outcomes : List Outcome} (h : step.directive.execute rows store = (.ok outcomes, after)) :
    step.records outcomes = [] := by
  obtain ⟨builtin, hbuiltin, hcalled⟩ := hnamed
  rw [hbuiltin] at h
  have hkeepsAll : ∀ outcome ∈ rows.map Outcome.keep, outcome.isKept :=
    List.forall_mem_map.mpr fun _ _ => rfl
  apply records_eq_nil
  cases builtin with
  | row directive =>
    obtain ⟨happly, -⟩ := Directive.execute_row_eq_ok.mp h
    have hother : directive.name ≠ "send-to-error" := fun heq => hname (hcalled.symm.trans heq)
    intro outcome houtcome
    obtain ⟨row, -, made, hmade, hmem⟩ :=
      RowDirective.exists_apply_of_mem_applyAll happly outcome houtcome
    exact directive.gives_kept_apply hother store row made hmade outcome hmem
  | setVariable name expression =>
    obtain ⟨-, rfl⟩ := Builtin.keepAll_eq_ok.mp h
    exact hkeepsAll
  | incrementVariable name delta condition =>
    obtain ⟨-, rfl⟩ := Builtin.keepAll_eq_ok.mp h
    exact hkeepsAll
  | sample sampling =>
    cases h
    exact List.forall_mem_map.mpr fun _ _ => rfl

/-! ### The log of a run -/

section
variable {stages : List Stage}

theorem pairwise_line_flatMap_records
    (hordered : stages.Pairwise (·.step.line.number < ·.step.line.number)) :
    (stages.flatMap Stage.records).Pairwise (·.line ≤ ·.line) := by
  rw [List.pairwise_flatMap]
  constructor
  · intro stage _
    apply List.pairwise_iff_forall_sublist.mpr
    intro first second hsub
    have hfirst := (Step.source_of_mem_records (hsub.mem (by simp) : first ∈ stage.records)).2
    have hsecond := (Step.source_of_mem_records (hsub.mem (by simp) : second ∈ stage.records)).2
    rw [hfirst, hsecond]
  · apply hordered.imp
    intro earlier later hlt first hfirst second hsecond
    rw [(Step.source_of_mem_records hfirst).2, (Step.source_of_mem_records hsecond).2]
    exact Nat.le_of_lt hlt

/-- The line of a stage picks out its records. -/
theorem filter_line_flatMap_records
    (hordered : stages.Pairwise (·.step.line.number < ·.step.line.number)) {stage : Stage}
    (hstage : stage ∈ stages) :
    (stages.flatMap Stage.records).filter (·.line == stage.step.line.number) = stage.records := by
  have hown : ∀ other : Stage, other.step.line.number = stage.step.line.number →
      other.records.filter (·.line == stage.step.line.number) = other.records := by
    intro other heq
    rw [List.filter_eq_self]
    intro record hrecord
    rw [(Step.source_of_mem_records hrecord).2, heq, beq_self_eq_true]
  have hforeign : ∀ other : Stage, other.step.line.number ≠ stage.step.line.number →
      other.records.filter (·.line == stage.step.line.number) = [] := by
    intro other hne
    rw [List.filter_eq_nil_iff]
    intro record hrecord
    rw [(Step.source_of_mem_records hrecord).2]
    simpa using hne
  induction stages with
  | nil => cases hstage
  | cons first stages ih =>
    obtain ⟨hfirst, hordered⟩ := List.pairwise_cons.mp hordered
    rw [List.flatMap_cons, List.filter_append]
    rcases List.mem_cons.mp hstage with rfl | hstage
    · have hrest :
          (stages.flatMap Stage.records).filter (·.line == stage.step.line.number) = [] := by
        rw [List.filter_flatMap, List.flatMap_eq_nil_iff]
        exact fun other hother => hforeign other (Nat.ne_of_gt (hfirst other hother))
      rw [hown stage rfl, hrest, List.append_nil]
    · rw [hforeign first (Nat.ne_of_lt (hfirst stage hstage)), ih hordered hstage, List.nil_append]

end

/-- No two entries of the library have one name. -/
theorem Catalog.nodup_name : (entries.map Entry.name).Nodup := by
  decide

theorem Catalog.eq_sendToError {entry : Entry} (hmem : entry ∈ entries)
    (hname : entry.name = "send-to-error") : entry = sendToError :=
  List.inj_on_of_nodup_map nodup_name hmem (by simp [entries]) hname

/-- A step called as diverting ones are diverts by the condition that its line spells. -/
theorem Registry.exists_condition_of_readLines {options : LineOptions} {recipe : List String}
    {steps : List Step} (h : standard.readLines options recipe = .ok steps) {step : Step}
    (hstep : step ∈ steps) (hname : step.name = "send-to-error") :
    ∃ condition message, step.arguments.expression "condition" = .ok condition ∧
      step.directive = .builtin (.row (.divert condition message)) := by
  obtain ⟨entry, hmem, hentry, hdirective⟩ := exists_entry_of_readLines h step hstep
  rw [Catalog.eq_sendToError hmem (hentry.trans hname)] at hdirective
  obtain ⟨directive, hmade, hbuiltin⟩ := map_eq_ok.mp hdirective
  obtain ⟨condition, hcondition, hmade⟩ := bind_eq_ok.mp hmade
  obtain ⟨message, -, hmade⟩ := bind_eq_ok.mp hmade
  obtain rfl := pure_eq_ok.mp hmade
  exact ⟨condition, message, hcondition, hbuiltin.symm⟩

namespace Pipeline

/-- The records of a run are in the order of their lines. Each is one of the diverting step in its
line, and the records of a diverting step are those rows of the batch that the steps in front of it
leave which its condition is true of, with the variables that these steps leave. -/
theorem run_records {options : LineOptions} {recipe : List String} {steps : List Step}
    (hread : Registry.standard.readLines options recipe = .ok steps) {policy : ErrorRows}
    {rows : List Row} {result : RunResult} (h : run ⟨steps, policy⟩ rows = .ok result) :
    result.errors.Pairwise (·.line ≤ ·.line) ∧
    (∀ record ∈ result.errors, ∃ step ∈ steps, step.name = "send-to-error" ∧
      record.directive = step.name ∧ record.line = step.line.number ∧
      ∀ other ∈ steps, other.line.number = record.line → other = step) ∧
    ∀ position step, steps[position]? = some step → step.name = "send-to-error" →
      ∃ condition before, step.arguments.expression "condition" = .ok condition ∧
        run ⟨steps.take position, policy⟩ rows = .ok before ∧
        (∀ row ∈ before.rows, ∃ value, condition.test row before.store = .ok value) ∧
        (result.errors.filter (·.line == step.line.number)).map ErrorRecord.row =
          before.rows.filter (condition.isMet before.store) := by
  have hlines := Registry.pairwise_number_of_readLines hread
  have hnamed := Registry.isNamed_of_readLines hread
  have herrors := errors_eq_flatMap_records h
  have hsteps : (stages ⟨steps, policy⟩ rows).map Stage.step = steps := map_step_stages h
  have hordered :
      (stages ⟨steps, policy⟩ rows).Pairwise (·.step.line.number < ·.step.line.number) := by
    rwa [← hsteps, List.pairwise_map] at hlines
  refine ⟨?_, ?_, ?_⟩
  · rw [herrors]
    exact pairwise_line_flatMap_records hordered
  · intro record hrecord
    rw [herrors] at hrecord
    obtain ⟨stage, hstage, hrecord⟩ := List.mem_flatMap.mp hrecord
    obtain ⟨hdirective, hline⟩ := Step.source_of_mem_records hrecord
    have hstep : stage.step ∈ steps := hsteps ▸ List.mem_map_of_mem hstage
    have hname : stage.step.name = "send-to-error" := by
      by_contra hother
      obtain ⟨after, hx⟩ := execute_of_mem_stagesOf hstage
      rw [Stage.records, Step.records_eq_nil_of_isNamed (hnamed _ hstep) hother hx] at hrecord
      cases hrecord
    refine ⟨stage.step, hstep, hname, hdirective, hline, ?_⟩
    intro other hother heq
    exact eq_of_line_number_eq hlines hother hstep (heq.trans hline)
  · intro position step hstep hname
    obtain ⟨before, outcomes, after, hbefore, hx, hstage, -⟩ := exists_run_take h hstep
    obtain ⟨condition, message, hcondition, hdirective⟩ :=
      Registry.exists_condition_of_readLines hread (List.mem_of_getElem? hstep) hname
    rw [hdirective] at hx
    obtain ⟨hvalues, hrecords⟩ :=
      RowDirective.row_records_applyAll step (Directive.execute_row_eq_ok.mp hx).1
    refine ⟨condition, before, hcondition, hbefore, hvalues, ?_⟩
    rw [herrors, ← hrecords]
    exact congrArg (List.map ErrorRecord.row)
      (filter_line_flatMap_records hordered (List.mem_of_getElem? hstage))

/-- Diverts rows that are bad in a directive over three lines, and rows that are odd. -/
def divertsBadAndOdd : List String :=
  ["# bad ones first", "send-to-error \\", "", "  bad", "send-to-error odd"]

def badStep : Step :=
  ⟨"send-to-error", ⟨2, "send-to-error bad"⟩, ⟨.ofList [("condition", .text "bad")],
    "send-to-error bad"⟩, .builtin (.row (.divert ⟨"bad", .variable "bad" ⟨1, 1⟩⟩ none))⟩

def oddStep : Step :=
  ⟨"send-to-error", ⟨5, "send-to-error odd"⟩, ⟨.ofList [("condition", .text "odd")],
    "send-to-error odd"⟩, .builtin (.row (.divert ⟨"odd", .variable "odd" ⟨1, 1⟩⟩ none))⟩

/-- Three rows, the first of which is bad, the second bad and odd, and the third odd. -/
def faultyRows : List Row :=
  [[("bad", .boolean true), ("odd", .boolean false)],
    [("bad", .boolean true), ("odd", .boolean true)],
    [("bad", .boolean false), ("odd", .boolean true)]]

/-- The row that is bad and odd has left the batch where odd ones are diverted. -/
theorem run_records_badAndOdd :
    Registry.standard.readLines .standard divertsBadAndOdd = .ok [badStep, oddStep] ∧
      ∃ result before condition, run ⟨[badStep, oddStep], .divert⟩ faultyRows = .ok result ∧
        result.errors.map ErrorRecord.line = [2, 2, 5] ∧
        result.errors.Pairwise (·.line ≤ ·.line) ∧
        run ⟨[badStep], .divert⟩ faultyRows = .ok before ∧
        oddStep.arguments.expression "condition" = .ok condition ∧
        (result.errors.filter (·.line == 5)).map ErrorRecord.row =
          before.rows.filter (condition.isMet before.store) := by
  have hlines : LineOptions.standard.logicalLines divertsBadAndOdd =
      .ok [badStep.line, oddStep.line] := rfl
  have hbad : Registry.standard.bind badStep.line = .ok badStep :=
    Registry.bind_eq_ok_iff.mpr
      ⟨["send-to-error", "bad"], Catalog.sendToError, rfl, rfl, rfl, rfl, rfl⟩
  have hodd : Registry.standard.bind oddStep.line = .ok oddStep :=
    Registry.bind_eq_ok_iff.mpr
      ⟨["send-to-error", "odd"], Catalog.sendToError, rfl, rfl, rfl, rfl, rfl⟩
  have hread : Registry.standard.readLines .standard divertsBadAndOdd = .ok [badStep, oddStep] :=
    bind_eq_ok.mpr ⟨_, hlines,
      bind_eq_ok.mpr ⟨_, hbad, bind_eq_ok.mpr ⟨_, bind_eq_ok.mpr ⟨_, hodd, rfl⟩, rfl⟩⟩⟩
  obtain ⟨result, hrun, hnumbers⟩ :
      ∃ result, run ⟨[badStep, oddStep], .divert⟩ faultyRows = .ok result ∧
        result.errors.map ErrorRecord.line = [2, 2, 5] := ⟨_, rfl, rfl⟩
  obtain ⟨hordered, -, hrecords⟩ := run_records hread hrun
  obtain ⟨condition, before, hcondition, hbefore, -, hrows⟩ := hrecords 1 oddStep rfl rfl
  exact ⟨hread, result, before, condition, hrun, hnumbers, hordered, hbefore, hcondition, hrows⟩

end Pipeline

end RowRecipe
