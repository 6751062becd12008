import RowRecipe.Proofs.Catalog
import RowRecipe.Proofs.LineEnds

/-!
# The numbers of lines

The logical lines of a recipe have numbers that strictly increase, also where lines do not count or
go on in others. Of the number of a line nothing depends when the line is read, but that the step
has it, or the failure.
-/
namespace RowRecipe

namespace LineOptions
variable {options : LineOptions} {physical : List String} {lines : List LogicalLine}
variable {number : Nat} {pending : Option (Nat × List Char)}

/-- Logical lines come one after another from the physical line on that the first one begins in,
which is an earlier one if it goes on. -/
theorem numbers_of_linesFrom (hbegun : (pending.getD (number, [])).1 ≤ number)
    (h : options.linesFrom number pending physical = .ok lines) :
    (∀ line ∈ lines, (pending.getD (number, [])).1 ≤ line.number) ∧
      lines.Pairwise (·.number < ·.number) := by
  induction physical generalizing number pending lines with
  | nil =>
    cases pending with
    | none =>
      cases h
      simp
    | some begun => cases h
  | cons line physical ih =>
    rcases linesFrom_cons_eq_ok h with
      ⟨-, hrest⟩ | ⟨part, -, hrest⟩ | ⟨part, others, -, hrest, rfl⟩
    · cases pending with
      | none =>
        obtain ⟨hbound, hordered⟩ := ih (by simp) hrest
        exact ⟨fun line hline => Nat.le_of_succ_le (hbound line hline), hordered⟩
      | some begun =>
        obtain ⟨hbound, hordered⟩ := ih (by exact Nat.le_succ_of_le hbegun) hrest
        exact ⟨hbound, hordered⟩
    · obtain ⟨hbound, hordered⟩ := ih (by exact Nat.le_succ_of_le hbegun) hrest
      exact ⟨hbound, hordered⟩
    · obtain ⟨hbound, hordered⟩ := ih (by simp) hrest
      have hlater : ∀ line ∈ others, (pending.getD (number, [])).1 < line.number :=
        fun line hline => Nat.lt_of_le_of_lt hbegun (hbound line hline)
      refine ⟨List.forall_mem_cons.mpr ⟨Nat.le_refl _, fun line hline => ?_⟩,
        List.pairwise_cons.mpr ⟨hlater, hordered⟩⟩
      exact Nat.le_of_lt (hlater line hline)

theorem pairwise_number_logicalLines (h : options.logicalLines physical = .ok lines) :
    lines.Pairwise (·.number < ·.number) :=
  (numbers_of_linesFrom (by simp) h).2

end LineOptions

/-- The line with another number. -/
def LogicalLine.renumber (f : Nat → Nat) (line : LogicalLine) : LogicalLine :=
  { line with number := f line.number }

def RecipeError.renumber (f : Nat → Nat) : RecipeError → RecipeError
  | .line source problem => .line (source.renumber f) problem
  | .unknownDirective number name => .unknownDirective (f number) name

def Step.renumber (f : Nat → Nat) (step : Step) : Step :=
  { step with line := step.line.renumber f }

namespace Registry
variable {registry : Registry} {line : LogicalLine} {lines : List LogicalLine}
variable {steps : List Step}

theorem bind_renumber (registry : Registry) (f : Nat → Nat) (line : LogicalLine) :
    registry.bind (line.renumber f) =
      mapBoth (·.renumber f) (·.renumber f) (registry.bind line) := by
  unfold bind
  have htext : (line.renumber f).text = line.text := rfl
  have hentry : ∀ entry tokens,
      bindEntry entry (line.renumber f) tokens = bindEntry entry line tokens :=
    fun entry tokens => rfl
  rw [htext]
  cases tokenize line.text with
  | error fault => rfl
  | ok tokens =>
    simp only [hentry]
    cases registry.get? (tokens.headD "") with
    | none => rfl
    | some entry =>
      simp only
      cases bindEntry entry line tokens <;> rfl

theorem number_of_bind_eq_error {fault : RecipeError} (h : registry.bind line = .error fault) :
    fault.number = line.number := by
  rcases bind_eq_error_iff.mp h with
    ⟨failure, -, rfl⟩ | ⟨tokens, -, ⟨-, rfl⟩ | ⟨entry, problem, -, -, rfl⟩⟩ <;> rfl

theorem bindAll_renumber (registry : Registry) (f : Nat → Nat) (lines : List LogicalLine) :
    registry.bindAll (lines.map (·.renumber f)) =
      mapBoth (·.map (·.renumber f)) (·.renumber f) (registry.bindAll lines) := by
  induction lines with
  | nil => rfl
  | cons line lines ih =>
    rw [List.map_cons, bindAll, bindAll, bind_renumber, ih]
    cases registry.bind line with
    | error fault => rfl
    | ok step => cases registry.bindAll lines <;> rfl

/-- Lines fail with the first of them that fails. -/
theorem exists_first_of_bindAll_eq_error {fault : RecipeError}
    (h : registry.bindAll lines = .error fault) :
    ∃ before line after, lines = before ++ line :: after ∧
      (∀ earlier ∈ before, ∃ step, registry.bind earlier = .ok step) ∧
      registry.bind line = .error fault := by
  induction lines with
  | nil => cases h
  | cons line lines ih =>
    simp only [bindAll, bind_eq_error] at h
    rcases h with hline | ⟨step, hstep, hrest | ⟨steps, -, hpure⟩⟩
    · exact ⟨[], line, lines, rfl, by simp, hline⟩
    · obtain ⟨before, failing, after, rfl, hbefore, hfailing⟩ := ih hrest
      exact ⟨line :: before, failing, after, rfl,
        List.forall_mem_cons.mpr ⟨⟨step, hstep⟩, hbefore⟩, hfailing⟩
    · cases hpure

theorem exists_number_of_bindAll_eq_error {fault : RecipeError}
    (h : registry.bindAll lines = .error fault) : ∃ line ∈ lines, fault.number = line.number := by
  obtain ⟨before, line, after, rfl, -, hline⟩ := exists_first_of_bindAll_eq_error h
  exact ⟨line, by simp, number_of_bind_eq_error hline⟩

theorem map_line_bindAll (h : registry.bindAll lines = .ok steps) :
    steps.map Step.line = lines := by
  induction lines generalizing steps with
  | nil =>
    cases h
    rfl
  | cons line lines ih =>
    simp only [bindAll, bind_eq_ok, pure_eq_ok] at h
    obtain ⟨step, hstep, rest, hrest, rfl⟩ := h
    obtain ⟨tokens, entry, -, -, -, -, hline⟩ := bind_eq_ok_iff.mp hstep
    rw [List.map_cons, hline, ih hrest]

end Registry

end RowRecipe
