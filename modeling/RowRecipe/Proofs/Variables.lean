import Mathlib.Tactic.Tauto
import RowRecipe.Proofs.Layout

/-!
# Variables that a run leaves

A directive that sets a variable sets it if its batch has a row, and one that increments a variable
does so if its condition is true of a row. No directive takes a variable away, and no other
directive changes any.

Main statement: `Pipeline.run_variables`.
-/
namespace RowRecipe

namespace Builtin

/-- The variable that a directive may change. -/
def changed? : Builtin → Option String
  | .setVariable name _ | .incrementVariable name _ _ => some name
  | .row _ | .sample _ => none

/-- Whether there is something in a batch to set a variable by: a row of any kind where it is set,
and where it is incremented a row that the condition is true of, with the variables that the rows in
front of it leave. -/
def Sets (directive : Builtin) (name : String) (rows : List Row) (store : Store) : Prop :=
  match directive with
  | .setVariable own _ => own = name ∧ rows ≠ []
  | .incrementVariable own delta condition =>
    own = name ∧ ∃ position row, rows[position]? = some row ∧
      condition.test row (incrementForEach own delta condition (rows.take position) store).2 =
        .ok true
  | .row _ | .sample _ => False

variable {rows : List Row} {store after : Store} {name own : String}

theorem contains_setForEach {expression : Expression}
    (h : setForEach own expression rows store = (.ok (), after)) :
    after.contains name ↔ store.contains name ∨ own = name ∧ rows ≠ [] := by
  induction rows generalizing store with
  | nil =>
    cases h
    simp
  | cons row rows ih =>
    rw [setForEach] at h
    split at h
    · cases h
    next value _ =>
    rw [ih h, SortedMap.contains_insert]
    simp only [ne_eq, reduceCtorEq, not_false_eq_true, and_true]
    tauto

theorem contains_increment {delta : Int64} (h : store.increment own delta = .ok after) :
    after.contains name ↔ store.contains name ∨ own = name := by
  obtain ⟨value, -, rfl⟩ := map_eq_ok.mp h
  rw [SortedMap.contains_insert, or_comm]

/-- What there is to find in a list is at its front or further on. -/
theorem exists_getElem?_cons {α : Type} {P : Nat → α → Prop} {first : α} {rest : List α} :
    (∃ position item, (first :: rest)[position]? = some item ∧ P position item) ↔
      P 0 first ∨ ∃ position item, rest[position]? = some item ∧ P (position + 1) item := by
  constructor
  · rintro ⟨position, item, hitem, h⟩
    cases position with
    | zero =>
      obtain rfl : first = item := Option.some.inj hitem
      exact .inl h
    | succ position => exact .inr ⟨position, item, hitem, h⟩
  · rintro (h | ⟨position, item, hitem, h⟩)
    · exact ⟨0, first, rfl, h⟩
    · exact ⟨position + 1, item, hitem, h⟩

theorem contains_incrementForEach {delta : Int64} {condition : Expression}
    (h : incrementForEach own delta condition rows store = (.ok (), after)) :
    after.contains name ↔ store.contains name ∨ own = name ∧
      ∃ position row, rows[position]? = some row ∧
        condition.test row (incrementForEach own delta condition (rows.take position) store).2 =
          .ok true := by
  induction rows generalizing store with
  | nil =>
    cases h
    simp
  | cons row rows ih =>
    rw [exists_getElem?_cons]
    rw [incrementForEach] at h
    split at h
    · cases h
    · next hfound =>
      have hfalse : condition.test row store = .ok false := Expression.holdsFor_eq_ok.mp hfound
      have hstep : ∀ others, incrementForEach own delta condition (row :: others) store =
          incrementForEach own delta condition others store := by
        intro others
        rw [incrementForEach, hfound]
      simp only [ih h, List.take_zero, incrementForEach, hfalse, List.take_succ_cons, hstep]
      simp
    · next hfound =>
      have htrue : condition.test row store = .ok true := Expression.holdsFor_eq_ok.mp hfound
      split at h
      · cases h
      next last hlast =>
      rw [ih h, contains_increment hlast]
      simp only [List.take_zero, incrementForEach, htrue]
      tauto

variable {directive : Builtin} {outcomes : List Outcome}

/-- What a directive that succeeds leaves set: what was set before and what it sets. -/
theorem contains_execute (h : directive.execute rows store = (.ok outcomes, after)) :
    after.contains name ↔ store.contains name ∨ directive.Sets name rows store := by
  cases directive with
  | row directive =>
    obtain ⟨-, rfl⟩ := Directive.execute_row_eq_ok.mp h
    simp [Sets]
  | setVariable own expression => exact contains_setForEach (keepAll_eq_ok.mp h).1
  | incrementVariable own delta condition => exact contains_incrementForEach (keepAll_eq_ok.mp h).1
  | sample sampling =>
    cases h
    simp [Sets]

theorem get?_setForEach_of_ne (hne : own ≠ name) (expression : Expression) (rows : List Row)
    (store : Store) : (setForEach own expression rows store).2.get? name = store.get? name := by
  induction rows generalizing store with
  | nil => rfl
  | cons row rows ih =>
    rw [setForEach]
    split
    · rfl
    · rw [ih, SortedMap.get?_insert, if_neg hne]

theorem get?_incrementForEach_of_ne (hne : own ≠ name) (delta : Int64) (condition : Expression)
    (rows : List Row) (store : Store) :
    (incrementForEach own delta condition rows store).2.get? name = store.get? name := by
  induction rows generalizing store with
  | nil => rfl
  | cons row rows ih =>
    rw [incrementForEach]
    split
    · rfl
    · exact ih store
    · split
      · rfl
      next last hlast =>
      obtain ⟨value, -, rfl⟩ := map_eq_ok.mp hlast
      rw [ih, SortedMap.get?_insert, if_neg hne]

/-- A directive changes no variable but its own, also if it fails. -/
theorem get?_execute_of_ne (hname : directive.changed? ≠ some name) (rows : List Row)
    (store : Store) : (directive.execute rows store).2.get? name = store.get? name := by
  cases directive with
  | row directive => rfl
  | setVariable own expression =>
    exact get?_setForEach_of_ne (fun heq => hname (congrArg some heq)) expression rows store
  | incrementVariable own delta condition =>
    exact get?_incrementForEach_of_ne (fun heq => hname (congrArg some heq)) delta condition
      rows store
  | sample sampling => rfl

theorem store_execute (h : directive.execute rows store = (.ok outcomes, after))
    (hnone : directive.changed? = none) : after = store := by
  cases directive with
  | row directive => exact (Directive.execute_row_eq_ok.mp h).2
  | setVariable own expression => cases hnone
  | incrementVariable own delta condition => cases hnone
  | sample sampling =>
    cases h
    rfl

end Builtin

/-- A stage whose directive is one of the library and sets a variable. -/
def Stage.Sets (name : String) (stage : Stage) : Prop :=
  ∃ builtin, stage.step.directive = .builtin builtin ∧ builtin.Sets name stage.rows stage.store

section
variable {policy : ErrorRows} {steps : List Step} {rows : List Row} {store : Store}
variable {result : RunResult} {name : String}

theorem contains_runSteps (hsteps : ∀ step ∈ steps, step.IsBuiltin)
    (h : runSteps policy steps rows store = .ok result) :
    result.store.contains name ↔
      store.contains name ∨ ∃ stage ∈ stagesOf policy steps rows store, stage.Sets name := by
  induction steps generalizing rows store result with
  | nil =>
    cases h
    simp [stagesOf]
  | cons step steps ih =>
    obtain ⟨⟨builtin, hbuiltin⟩, hothers⟩ := List.forall_mem_cons.mp hsteps
    obtain ⟨outcomes, after, rest, hx, hrest, rfl⟩ := runSteps_cons_eq_ok.mp h
    have hfirst : Stage.Sets name ⟨step, rows, store, outcomes⟩ ↔ builtin.Sets name rows store := by
      simp [Stage.Sets, hbuiltin]
    simp only [stagesOf_cons_ok hx, List.mem_cons, exists_eq_or_imp, hfirst]
    rw [hbuiltin] at hx
    rw [ih hothers hrest, Builtin.contains_execute hx, or_assoc]

end

namespace Pipeline
variable {steps : List Step} {policy : ErrorRows} {rows : List Row}

/-- A variable that is set stays so in what is left of a run. -/
theorem contains_of_contains_take (hsteps : ∀ step ∈ steps, step.IsBuiltin) {i j : Nat}
    (hle : i ≤ j) {earlier later : RunResult}
    (hearlier : run ⟨steps.take i, policy⟩ rows = .ok earlier)
    (hlater : run ⟨steps.take j, policy⟩ rows = .ok later) {name : String}
    (h : earlier.store.contains name) : later.store.contains name := by
  have hparts := (List.take_append_drop i (steps.take j)).symm
  rw [List.take_take, Nat.min_eq_left hle] at hparts
  have hfirst : runSteps policy (steps.take i) rows SortedMap.empty = .ok earlier := hearlier
  rw [run, hparts, runSteps_append, hfirst] at hlater
  obtain ⟨last, hlast, rfl⟩ := map_eq_ok.mp hlater
  have hrest : ∀ step ∈ (steps.take j).drop i, step.IsBuiltin := fun step hstep =>
    hsteps step (List.mem_of_mem_take (List.mem_of_mem_drop hstep))
  exact (contains_runSteps hrest hlast).mpr (.inl h)

/-- A run leaves a variable set if one of its steps sets it, with the batch and the variables that
the steps in front of that one leave. It stays set from there on. A step that neither sets nor
increments a variable changes none, and the others change their own one only. -/
theorem run_variables (hsteps : ∀ step ∈ steps, step.IsBuiltin) {result : RunResult}
    (h : run ⟨steps, policy⟩ rows = .ok result) :
    (∀ name, result.store.contains name ↔
      ∃ position step builtin before, steps[position]? = some step ∧
        step.directive = .builtin builtin ∧
        run ⟨steps.take position, policy⟩ rows = .ok before ∧
        builtin.Sets name before.rows before.store) ∧
    (∀ i j earlier later, i ≤ j → run ⟨steps.take i, policy⟩ rows = .ok earlier →
      run ⟨steps.take j, policy⟩ rows = .ok later →
      ∀ name, earlier.store.contains name → later.store.contains name) ∧
    ∀ position step builtin, steps[position]? = some step → step.directive = .builtin builtin →
      ∃ before after, run ⟨steps.take position, policy⟩ rows = .ok before ∧
        run ⟨steps.take (position + 1), policy⟩ rows = .ok after ∧
        (builtin.changed? = none → after.store = before.store) ∧
        ∀ name, builtin.changed? ≠ some name → after.store.get? name = before.store.get? name := by
  refine ⟨?_, ?_, ?_⟩
  · intro name
    have hnone : ¬SortedMap.contains (SortedMap.empty : Store) name := by simp [SortedMap.contains]
    rw [contains_runSteps hsteps h, or_iff_right hnone]
    constructor
    · rintro ⟨stage, hstage, builtin, hbuiltin, hsets⟩
      obtain ⟨position, hposition⟩ := List.mem_iff_getElem?.mp hstage
      have hstep := step_of_stagesOf hposition
      obtain ⟨before, outcomes, after, hbefore, -, hthere, -⟩ := exists_run_take h hstep
      have hgiven := Option.some.inj (hposition.symm.trans hthere)
      rw [congrArg Stage.rows hgiven, congrArg Stage.store hgiven] at hsets
      exact ⟨position, _, builtin, before, hstep, hbuiltin, hbefore, hsets⟩
    · rintro ⟨position, step, builtin, before, hstep, hbuiltin, hbefore, hsets⟩
      obtain ⟨again, outcomes, after, hagain, -, hthere, -⟩ := exists_run_take h hstep
      obtain rfl : before = again := Except.ok.inj (hbefore.symm.trans hagain)
      exact ⟨_, List.mem_of_getElem? hthere, builtin, hbuiltin, hsets⟩
  · intro i j earlier later hle hearlier hlater name
    exact contains_of_contains_take hsteps hle hearlier hlater
  · intro position step builtin hstep hbuiltin
    obtain ⟨before, outcomes, after, hbefore, hx, -, hafter⟩ := exists_run_take h hstep
    rw [hbuiltin] at hx
    refine ⟨before, _, hbefore, hafter, Builtin.store_execute hx, ?_⟩
    intro name hname
    have hkept := Builtin.get?_execute_of_ne hname before.rows before.store
    rwa [show builtin.execute before.rows before.store = _ from hx] at hkept

/-- Counts the bad rows, filters them out, keeps the last of the others in a variable, and sets one
more variable when no row is left. -/
def counting : List Step :=
  [⟨"increment-variable", ⟨1, "increment-variable bads 1 bad"⟩, ⟨.ofList
      [("variable", .identifier "bads"), ("value", .whole 1), ("condition", .text "bad")],
      "increment-variable bads 1 bad"⟩,
      .builtin (.incrementVariable "bads" 1 ⟨"bad", .variable "bad" ⟨1, 1⟩⟩)⟩,
    ⟨"filter-row-if-true", ⟨2, "filter-row-if-true bad"⟩, ⟨.ofList [("condition", .text "bad")],
      "filter-row-if-true bad"⟩, .builtin (.row (.filter ⟨"bad", .variable "bad" ⟨1, 1⟩⟩))⟩,
    ⟨"set-variable", ⟨3, "set-variable last id"⟩, ⟨.ofList
      [("variable", .identifier "last"), ("expression", .text "id")], "set-variable last id"⟩,
      .builtin (.setVariable "last" ⟨"id", .variable "id" ⟨1, 1⟩⟩)⟩,
    ⟨"filter-row-if-true", ⟨4, "filter-row-if-true good"⟩, ⟨.ofList [("condition", .text "good")],
      "filter-row-if-true good"⟩, .builtin (.row (.filter ⟨"good", .variable "good" ⟨1, 1⟩⟩))⟩,
    ⟨"set-variable", ⟨5, "set-variable none id"⟩, ⟨.ofList
      [("variable", .identifier "none"), ("expression", .text "id")], "set-variable none id"⟩,
      .builtin (.setVariable "none" ⟨"id", .variable "id" ⟨1, 1⟩⟩)⟩]

def countedRows : List Row :=
  [[("id", .whole 1), ("bad", .boolean false), ("good", .boolean true)],
    [("id", .whole 2), ("bad", .boolean true), ("good", .boolean false)]]

/-- The row that is bad, the second of the batch, sets the first variable; the last is not set. -/
theorem run_variables_counting :
    (∀ step ∈ counting, step.IsBuiltin) ∧
      ∃ result, run ⟨counting, .divert⟩ countedRows = .ok result ∧
        result.store.names = ["bads", "last"] ∧ result.store.contains "bads" ∧
        ∃ position step builtin before, counting[position]? = some step ∧
          step.directive = .builtin builtin ∧
          run ⟨counting.take position, .divert⟩ countedRows = .ok before ∧
          builtin.Sets "bads" before.rows before.store := by
  have hsteps : ∀ step ∈ counting, step.IsBuiltin := by
    simp only [counting, List.forall_mem_cons]
    exact ⟨⟨_, rfl⟩, ⟨_, rfl⟩, ⟨_, rfl⟩, ⟨_, rfl⟩, ⟨_, rfl⟩, by simp⟩
  obtain ⟨result, hrun, hnames⟩ : ∃ result, run ⟨counting, .divert⟩ countedRows = .ok result ∧
      result.store.names = ["bads", "last"] := ⟨_, rfl, rfl⟩
  have hsets := (run_variables hsteps hrun).1 "bads"
  have hset : result.store.contains "bads" := by
    rw [hsets]
    exact ⟨0, _, _, _, rfl, rfl, rfl, rfl, 1, _, rfl, rfl⟩
  exact ⟨hsteps, result, hrun, hnames, hset, hsets.mp hset⟩

end Pipeline

end RowRecipe
