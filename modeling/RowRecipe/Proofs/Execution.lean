import Mathlib.Data.List.Forall2
import RowRecipe.Directive.Basic
import RowRecipe.Proofs.Fallible

/-!
# What directives of the library do with a batch

One law for each kind of directive says what it takes for a batch to come out, and with what
variables and rows. What a directive may make of a single row is said once, by the relation `Makes`,
in which each change of a row is a case of its own.
-/
namespace RowRecipe
variable {rows : List Row} {store after : Store} {outcomes : List Outcome}

theorem Outcome.map_keep_injective : Function.Injective (List.map Outcome.keep) := by
  apply List.map_injective_iff.mpr
  intro row other h
  exact Outcome.keep.inj h

namespace Directive

theorem execute_row_eq_ok {directive : RowDirective} :
    (Directive.builtin (.row directive)).execute rows store = (.ok outcomes, after) ↔
      directive.applyAll store rows = .ok outcomes ∧ after = store := by
  simp only [execute, Builtin.execute, Prod.mk.injEq]
  cases directive.applyAll store rows with
  | error fault => simp
  | ok made => simp [eq_comm (a := store)]

theorem execute_row_eq_error {directive : RowDirective} {fault : Fault} :
    (Directive.builtin (.row directive)).execute rows store = (.error fault, after) ↔
      ∃ cause, directive.applyAll store rows = .error cause ∧ fault = .error cause ∧
        after = store := by
  simp only [execute, Builtin.execute, Prod.mk.injEq]
  cases directive.applyAll store rows with
  | error cause => simp [eq_comm (a := store), eq_comm (a := fault)]
  | ok made => simp

end Directive

theorem Expression.holdsFor_eq_ok {condition : Expression} {row : Row} {store : Store}
    {value : Bool} :
    condition.holdsFor row store = .ok value ↔ condition.test row store = .ok value := by
  unfold holdsFor
  cases condition.test row store <;> simp

/-- Diverted or not, the row is as it was. -/
theorem RowDirective.gives_row_divertIf (condition : Expression) (message : Option String)
    (store : Store) (row : Row) :
    Gives (divertIf condition message store row) fun outcome => outcome.row = row := by
  apply Gives.bind
  intro found
  cases found with
  | true => exact .pure rfl
  | false => exact .pure rfl

theorem Builtin.keepAll_eq_ok {result : Except DirectiveError Unit × Store} :
    keepAll rows result = (.ok outcomes, after) ↔
      result = (.ok (), after) ∧ outcomes = rows.map .keep := by
  obtain ⟨made, last⟩ := result
  cases made with
  | error fault => simp [keepAll]
  | ok _ => simp [keepAll, eq_comm (a := outcomes), and_comm]

namespace Sampling
variable {α : Type} (sampling : Sampling)

theorem selectFrom_sublist (position : Nat) (items : List α) :
    (sampling.selectFrom position items).Sublist items := by
  induction items generalizing position with
  | nil => exact List.Sublist.refl []
  | cons item items ih =>
    rw [selectFrom]
    split
    · exact (ih (position + 1)).cons_cons item
    · exact (ih (position + 1)).cons item

/-- A sample keeps the order of the items. -/
theorem select_sublist (items : List α) : (sampling.select items).Sublist items :=
  sampling.selectFrom_sublist 0 items

end Sampling

namespace Row

/-- A row with another value in its first cell of some name, or the row itself. -/
inductive Rewritten (row : Row) (column : String) : Row → Prop where
  | same : Rewritten row column row
  | value {position : Nat} (value : Cell) : row.find? column = some position →
      Rewritten row column (row.setAt position value)

theorem require_eq_ok {row : Row} {column : String} {position : Nat} {value : Cell} :
    row.require column = .ok (position, value) ↔
      row.find? column = some position ∧ row.get? column = some value := by
  unfold require
  split
  · next hposition hvalue => simp [hposition, hvalue]
  · next hmissing =>
    simp only [reduceCtorEq, false_iff, not_and]
    exact hmissing position value

theorem find?_of_require {row : Row} {column : String} {found : Nat × Cell}
    (h : row.require column = .ok found) : row.find? column = some found.1 :=
  (require_eq_ok.mp h).1

theorem get?_cons (cell : String × Cell) (row : Row) (column : String) :
    Row.get? (cell :: row) column = if cell.1 = column then some cell.2 else row.get? column :=
  rfl

/-- A column is that of the first cell, or else it is further on. -/
theorem require_cons (cell : String × Cell) (row : Row) (column : String) :
    Row.require (cell :: row) column =
      if cell.1 = column then .ok (0, cell.2)
      else (row.require column).map fun found => (found.1 + 1, found.2) := by
  unfold require find?
  rw [List.findIdx?_cons, get?_cons]
  by_cases hname : cell.1 = column
  · simp [hname]
  · simp only [beq_iff_eq, hname, if_false]
    cases row.findIdx? fun cell => cell.1 == column with
    | none => rfl
    | some position =>
      cases row.get? column with
      | none => rfl
      | some value => rfl

theorem require_cons_cases {cell : String × Cell} {row : Row} {column : String} {position : Nat}
    {value : Cell} (h : Row.require (cell :: row) column = .ok (position, value)) :
    cell.1 = column ∧ position = 0 ∧ value = cell.2 ∨
      cell.1 ≠ column ∧ ∃ rest, position = rest + 1 ∧ row.require column = .ok (rest, value) := by
  rw [require_cons] at h
  split at h
  · next hname =>
    cases h
    exact .inl ⟨hname, rfl, rfl⟩
  · next hname =>
    obtain ⟨⟨rest, there⟩, hrest, heq⟩ := map_eq_ok.mp h
    cases heq
    exact .inr ⟨hname, rest, rfl, hrest⟩

theorem exists_require_of_get? {row : Row} {column : String} {value : Cell}
    (h : row.get? column = some value) :
    ∃ position, row.require column = .ok (position, value) := by
  induction row with
  | nil => cases h
  | cons cell row ih =>
    rw [get?_cons] at h
    rw [require_cons]
    split at h
    · next hname =>
      obtain rfl := Option.some.inj h
      exact ⟨0, if_pos hname⟩
    · next hname =>
      obtain ⟨position, hposition⟩ := ih h
      rw [if_neg hname, hposition]
      exact ⟨position + 1, rfl⟩

/-- What is put into the cell of a column is found there. -/
theorem require_setAt {row : Row} {column : String} {position : Nat} {value : Cell}
    (h : row.require column = .ok (position, value)) (other : Cell) :
    (row.setAt position other).require column = .ok (position, other) := by
  induction row generalizing position with
  | nil => cases h
  | cons cell row ih =>
    obtain ⟨hname, rfl, -⟩ | ⟨hname, rest, rfl, hrest⟩ := require_cons_cases h
    · rw [setAt, List.modify_zero_cons, require_cons, if_pos hname]
    · have hfound := ih hrest
      rw [setAt] at hfound
      rw [setAt, List.modify_succ_cons, require_cons, if_neg hname, hfound]
      rfl

theorem setAt_of_require {row : Row} {column : String} {position : Nat} {value : Cell}
    (h : row.require column = .ok (position, value)) : row.setAt position value = row := by
  induction row generalizing position with
  | nil => cases h
  | cons cell row ih =>
    obtain ⟨-, rfl, rfl⟩ | ⟨-, rest, rfl, hrest⟩ := require_cons_cases h
    · rfl
    · exact congrArg (cell :: ·) (ih hrest)

theorem setAt_setAt (row : Row) (position : Nat) (value other : Cell) :
    (row.setAt position value).setAt position other = row.setAt position other := by
  rw [setAt, setAt, setAt, List.modify_modify_eq]
  rfl

theorem put_inj {column : String} {value other : Cell} {row : Row} :
    put column value row = put column other row ↔ value = other := by
  induction row with
  | nil => simp [put]
  | cons cell row ih =>
    unfold put
    split
    · simp
    · simp [ih]

section
variable (row : Row)

theorem rewritten_fillColumn (column value : String) :
    row.Rewritten column (row.fillColumn column value) := by
  unfold fillColumn
  split
  · next position _ hposition _ =>
    split
    · exact .value _ hposition
    · exact .same
  · exact .same

theorem rewritten_changeText (column : String) (change : TextChange) :
    row.Rewritten column (row.changeText column change) := by
  unfold changeText
  split
  · next position _ hposition _ => exact .value _ hposition
  · exact .same

theorem convertColumn_eq_ok {column : String} {target : TargetType} {after : Row} :
    row.convertColumn column target = .ok after ↔ ∃ position value converted,
      row.require column = .ok (position, value) ∧ value.convert? target = some converted ∧
        after = row.setAt position converted := by
  simp only [convertColumn, bind_eq_ok, Prod.exists]
  refine exists_congr fun position => exists_congr fun value => ?_
  cases value.convert? target with
  | none => simp [throw, throwThe, MonadExceptOf.throw]
  | some converted => simp [pure_eq_ok, eq_comm (a := after)]

theorem gives_rewritten_convertColumn (column : String) (target : TargetType) :
    Gives (row.convertColumn column target) (row.Rewritten column) := by
  intro after h
  obtain ⟨position, value, converted, hfound, -, rfl⟩ := row.convertColumn_eq_ok.mp h
  exact .value _ (find?_of_require hfound)

theorem gives_rewritten_splitColumn (column separator : String) :
    Gives (row.splitColumn column separator) fun parts =>
      ∀ part ∈ parts, row.Rewritten column part := by
  intro parts h
  obtain ⟨⟨position, value⟩, hfound, h⟩ := bind_eq_ok.mp h
  simp only at h
  split at h
  · rw [← pure_eq_ok.mp h]
    exact List.forall_mem_singleton.mpr .same
  · rw [← pure_eq_ok.mp h, List.forall_mem_map]
    exact fun piece _ => .value _ (find?_of_require hfound)

theorem gives_free_renameColumn (old new : String) :
    Gives (row.renameColumn old new) fun after =>
      ∃ position, row.find? old = some position ∧
        (∀ existing, row.find? new = some existing → existing = position) ∧
        after = row.renameAt position new := by
  intro after h
  obtain ⟨⟨position, value⟩, hfound, h⟩ := bind_eq_ok.mp h
  have hposition : row.find? old = some position := find?_of_require hfound
  simp only at h
  split at h
  · next hnone => exact ⟨position, hposition, by simp [hnone], (pure_eq_ok.mp h).symm⟩
  · next existing hexisting =>
    split at h
    · next heq =>
      exact ⟨position, hposition, by simp [hexisting, heq], (pure_eq_ok.mp h).symm⟩
    · cases h

theorem gives_put_copyColumn (source destination : String) (force : Bool) :
    Gives (row.copyColumn source destination force) fun after =>
      ∃ value, after = put destination value row := by
  intro after h
  obtain ⟨⟨_, value⟩, -, h⟩ := bind_eq_ok.mp h
  simp only at h
  split at h
  · cases h
  · exact ⟨value, (pure_eq_ok.mp h).symm⟩

end

end Row

/-- What a directive may make of a row, whatever its expressions come to. -/
inductive RowDirective.Makes (row : Row) : RowDirective → Row → Prop where
  | rename {old new : String} {position : Nat} : row.find? old = some position →
      (∀ existing, row.find? new = some existing → existing = position) →
      Makes row (.rename old new) (row.renameAt position new)
  | drop {columns : List String} :
      Makes row (.drop columns) (row.keep fun name => !columns.contains name)
  | keep {columns : List String} :
      Makes row (.keep columns) (row.keep fun name => columns.contains name)
  | copy {source destination : String} {force : Bool} (value : Cell) :
      Makes row (.copy source destination force) (Row.put destination value row)
  | setColumn {column : String} {expression : Expression} (value : Cell) :
      Makes row (.setColumn column expression) (Row.put column value row)
  | fill {column value : String} {after : Row} : row.Rewritten column after →
      Makes row (.fill column value) after
  | setType {column : String} {target : TargetType} {after : Row} : row.Rewritten column after →
      Makes row (.setType column target) after
  | change {column : String} {edit : TextChange} {after : Row} : row.Rewritten column after →
      Makes row (.change column edit) after
  | split {column separator : String} {after : Row} : row.Rewritten column after →
      Makes row (.split column separator) after
  | filter {condition : Expression} : Makes row (.filter condition) row
  | divert {condition : Expression} {message : Option String} :
      Makes row (.divert condition message) row

/-- The rows of the outcomes that a directive has for a row are what it may make of it. -/
theorem RowDirective.gives_makes_apply (directive : RowDirective) (store : Store) (row : Row) :
    Gives (directive.apply store row) fun outcomes =>
      ∀ outcome ∈ outcomes, directive.Makes row outcome.row := by
  cases directive with
  | rename old new =>
    apply Gives.map
    intro after hafter
    obtain ⟨position, hold, hnew, rfl⟩ := row.gives_free_renameColumn old new after hafter
    exact List.forall_mem_singleton.mpr (.rename hold hnew)
  | drop columns => exact .map (.bind fun _ => .pure (List.forall_mem_singleton.mpr .drop))
  | keep columns => exact .pure (List.forall_mem_singleton.mpr .keep)
  | copy source destination force =>
    apply Gives.map
    intro after hafter
    obtain ⟨value, rfl⟩ := row.gives_put_copyColumn source destination force after hafter
    exact List.forall_mem_singleton.mpr (.copy value)
  | setColumn column expression =>
    exact .map fun value _ => List.forall_mem_singleton.mpr (.setColumn value)
  | fill column value =>
    exact .pure (List.forall_mem_singleton.mpr (.fill (row.rewritten_fillColumn column value)))
  | setType column target =>
    apply Gives.map
    intro after hafter
    exact List.forall_mem_singleton.mpr
      (.setType (row.gives_rewritten_convertColumn column target after hafter))
  | change column edit =>
    exact .pure (List.forall_mem_singleton.mpr (.change (row.rewritten_changeText column edit)))
  | filter condition =>
    apply Gives.map
    intro found _
    cases found with
    | true => simp
    | false => exact List.forall_mem_singleton.mpr .filter
  | divert condition message =>
    apply Gives.map
    intro outcome houtcome
    rw [List.forall_mem_singleton, gives_row_divertIf condition message store row outcome houtcome]
    exact .divert
  | split column separator =>
    apply Gives.map
    intro parts hparts
    rw [List.forall_mem_map]
    exact fun part hpart =>
      .split (row.gives_rewritten_splitColumn column separator parts hparts part hpart)

/-- Every outcome for a batch is one that the directive has for a row of it. -/
theorem RowDirective.exists_apply_of_mem_applyAll {directive : RowDirective}
    (h : directive.applyAll store rows = .ok outcomes) :
    ∀ outcome ∈ outcomes, ∃ row ∈ rows, ∃ made, directive.apply store row = .ok made ∧
      outcome ∈ made := by
  induction rows generalizing outcomes with
  | nil =>
    cases h
    simp
  | cons row rows ih =>
    simp only [applyAll, bind_eq_ok, pure_eq_ok] at h
    obtain ⟨first, hfirst, others, hothers, rfl⟩ := h
    rw [List.forall_mem_append]
    constructor
    · intro outcome houtcome
      exact ⟨row, List.mem_cons_self, first, hfirst, houtcome⟩
    · intro outcome houtcome
      obtain ⟨source, hsource, hmade⟩ := ih hothers outcome houtcome
      exact ⟨source, List.mem_cons_of_mem _ hsource, hmade⟩

theorem RowDirective.exists_row_of_mem_applyAll {directive : RowDirective}
    (h : directive.applyAll store rows = .ok outcomes) :
    ∀ outcome ∈ outcomes, ∃ row ∈ rows, directive.Makes row outcome.row := by
  intro outcome houtcome
  obtain ⟨row, hrow, made, hmade, hmem⟩ := exists_apply_of_mem_applyAll h outcome houtcome
  exact ⟨row, hrow, directive.gives_makes_apply store row made hmade outcome hmem⟩

/-- Where each row has one outcome, something that is read off the outcomes is read off the rows. -/
theorem RowDirective.map_applyAll {α : Type} {directive : RowDirective} {f : Outcome → α}
    {g : Row → α}
    (hrow : ∀ row, Gives (directive.apply store row) fun outcomes => outcomes.map f = [g row])
    (h : directive.applyAll store rows = .ok outcomes) : outcomes.map f = rows.map g := by
  induction rows generalizing outcomes with
  | nil =>
    cases h
    rfl
  | cons row rows ih =>
    simp only [applyAll, bind_eq_ok, pure_eq_ok] at h
    obtain ⟨first, hfirst, rest, hrest, rfl⟩ := h
    rw [List.map_append, hrow row first hfirst, ih hrest]
    rfl

/-- Where each row has one outcome, a batch comes out if and only if each of its rows does. -/
theorem RowDirective.applyAll_eq_ok_iff_forall₂ {directive : RowDirective}
    {made : Row → Outcome → Prop}
    (hrow : ∀ row outcomes, directive.apply store row = .ok outcomes ↔
      ∃ outcome, made row outcome ∧ outcomes = [outcome]) :
    directive.applyAll store rows = .ok outcomes ↔ List.Forall₂ made rows outcomes := by
  induction rows generalizing outcomes with
  | nil =>
    rw [List.forall₂_nil_left_iff]
    exact ⟨fun h => by cases h; rfl, by rintro rfl; rfl⟩
  | cons row rows ih =>
    simp only [applyAll, bind_eq_ok, pure_eq_ok, hrow, ih, List.forall₂_cons_left_iff]
    constructor
    · rintro ⟨_, ⟨outcome, houtcome, rfl⟩, others, hothers, rfl⟩
      exact ⟨outcome, others, houtcome, hothers, rfl⟩
    · rintro ⟨outcome, others, houtcome, hothers, rfl⟩
      exact ⟨_, ⟨outcome, houtcome, rfl⟩, others, hothers, rfl⟩

theorem RowDirective.applyAll_map {directive : RowDirective} {before after : Row → Row}
    (hrow : ∀ row ∈ rows, directive.apply store (before row) = .ok [.keep (after row)]) :
    directive.applyAll store (rows.map before) = .ok ((rows.map after).map .keep) := by
  induction rows with
  | nil => rfl
  | cons row rows ih =>
    rw [List.forall_mem_cons] at hrow
    rw [List.map_cons, applyAll, hrow.1, ih hrow.2]
    rfl

/-- Where each row comes out as one row, so does the batch, and the variables stay as they are. -/
theorem Directive.execute_row_map {directive : RowDirective} (before after : Row → Row)
    (hrow : ∀ row ∈ rows, directive.apply store (before row) = .ok [.keep (after row)]) :
    (Directive.builtin (.row directive)).execute (rows.map before) store =
      (.ok ((rows.map after).map .keep), store) :=
  execute_row_eq_ok.mpr ⟨RowDirective.applyAll_map hrow, rfl⟩

theorem RowDirective.applyAll_setType_eq_ok {column : String} {target : TargetType} :
    (RowDirective.setType column target).applyAll store rows = .ok outcomes ↔
      List.Forall₂ (fun row outcome =>
        ∃ after, row.convertColumn column target = .ok after ∧ outcome = .keep after)
        rows outcomes := by
  refine applyAll_eq_ok_iff_forall₂ fun row outcomes => ?_
  rw [apply, map_eq_ok]
  constructor
  · rintro ⟨after, hafter, rfl⟩
    exact ⟨_, ⟨after, hafter, rfl⟩, rfl⟩
  · rintro ⟨_, ⟨after, hafter, rfl⟩, rfl⟩
    exact ⟨after, hafter, rfl⟩

theorem RowDirective.exists_outcome_of_applyAll_setType {column : String} {target : TargetType}
    (h : (RowDirective.setType column target).applyAll store rows = .ok outcomes) {i : Nat}
    {row : Row} (hrow : rows[i]? = some row) :
    ∃ after, row.convertColumn column target = .ok after ∧ outcomes[i]? = some (.keep after) := by
  obtain ⟨hlength, hmade⟩ := List.forall₂_iff_get.mp (applyAll_setType_eq_ok.mp h)
  obtain ⟨hi, rfl⟩ := List.getElem?_eq_some_iff.mp hrow
  have hi' : i < outcomes.length := hlength ▸ hi
  obtain ⟨after, hafter, houtcome⟩ := hmade i hi hi'
  exact ⟨after, hafter, List.getElem?_eq_some_iff.mpr ⟨hi', houtcome⟩⟩

/-- What a directive of the library may make of a row: the row itself, unless it works on rows. -/
def Builtin.Makes (directive : Builtin) (row after : Row) : Prop :=
  match directive with
  | .row directive => directive.Makes row after
  | .setVariable _ _ | .incrementVariable _ _ _ | .sample _ => after = row

theorem Builtin.exists_row_of_mem_outcomes {directive : Builtin}
    (h : directive.execute rows store = (.ok outcomes, after)) :
    ∀ outcome ∈ outcomes, ∃ row ∈ rows, directive.Makes row outcome.row := by
  cases directive with
  | row directive =>
    obtain ⟨happly, -⟩ := Directive.execute_row_eq_ok.mp h
    exact RowDirective.exists_row_of_mem_applyAll happly
  | setVariable name expression =>
    obtain ⟨-, rfl⟩ := keepAll_eq_ok.mp h
    exact List.forall_mem_map.mpr fun row hrow => ⟨row, hrow, rfl⟩
  | incrementVariable name delta condition =>
    obtain ⟨-, rfl⟩ := keepAll_eq_ok.mp h
    exact List.forall_mem_map.mpr fun row hrow => ⟨row, hrow, rfl⟩
  | sample sampling =>
    cases h
    rw [List.forall_mem_map]
    exact fun row hrow => ⟨row, (sampling.select_sublist rows).subset hrow, rfl⟩

end RowRecipe
