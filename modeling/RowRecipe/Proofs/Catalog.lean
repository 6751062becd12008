import RowRecipe.Proofs.Fallible
import RowRecipe.Recipe

/-!
# Steps of the library

An entry of the library only makes directives of the library, and such as its name says. So the
steps of a recipe that is read with the standard registry are what they are called.
-/
namespace RowRecipe

def TextChange.name : TextChange → String
  | .upper => "uppercase"
  | .lower => "lowercase"
  | .trim => "trim"
  | .replace _ _ => "find-and-replace"

def RowDirective.name : RowDirective → String
  | .rename _ _ => "rename"
  | .drop _ => "drop"
  | .keep _ => "keep"
  | .copy _ _ _ => "copy"
  | .setColumn _ _ => "set-column"
  | .fill _ _ => "fill-null-or-empty"
  | .setType _ _ => "set-type"
  | .change _ edit => edit.name
  | .filter _ => "filter-row-if-true"
  | .divert _ _ => "send-to-error"
  | .split _ _ => "split-to-rows"

/-- The name that recipes have for a directive of the library. -/
def Builtin.name : Builtin → String
  | .row directive => directive.name
  | .setVariable _ _ => "set-variable"
  | .incrementVariable _ _ _ => "increment-variable"
  | .sample _ => "sample"

/-- A directive that is one of the library and has a name there. -/
def Directive.IsNamed (directive : Directive) (name : String) : Prop :=
  ∃ builtin, directive = .builtin builtin ∧ builtin.name = name

namespace Catalog

theorem gives_row {x : Except ArgumentError RowDirective} {name : String}
    (h : Gives x fun directive => directive.name = name) :
    Gives (x.map fun directive => .builtin (.row directive)) (Directive.IsNamed · name) :=
  .map fun directive hdirective => ⟨.row directive, rfl, h directive hdirective⟩

/-- An entry of the library makes directives of its name. -/
theorem gives_isNamed (arguments : Arguments) :
    ∀ entry ∈ entries, Gives (entry.configure arguments) (Directive.IsNamed · entry.name) := by
  simp only [entries, List.forall_mem_cons]
  refine ⟨?_, ?_, ?_, ?_, ?_, ?_, ?_, ?_, ?_, ?_, ?_, ?_, ?_, ?_, ?_, ?_, ?_, by simp⟩
  · exact .bind fun _ => .bind fun _ => .pure ⟨_, rfl, rfl⟩
  · exact .bind fun _ => .bind fun _ => .bind fun _ => .pure ⟨_, rfl, rfl⟩
  · exact gives_row (.bind fun _ => .bind fun _ => .pure rfl)
  · exact gives_row (.bind fun _ => .pure rfl)
  · exact gives_row (.bind fun _ => .pure rfl)
  · exact gives_row (.bind fun _ => .bind fun _ => .bind fun _ => .pure rfl)
  · exact gives_row (.bind fun _ => .bind fun _ => .pure rfl)
  · exact gives_row (.bind fun _ => .bind fun _ => .pure rfl)
  · exact gives_row (.bind fun _ => .bind fun _ => .pure rfl)
  · exact gives_row (.bind fun _ => .pure rfl)
  · exact gives_row (.bind fun _ => .pure rfl)
  · exact gives_row (.bind fun _ => .pure rfl)
  · exact gives_row (.bind fun _ => .bind fun _ => .bind fun _ => .pure rfl)
  · exact gives_row (.bind fun _ => .pure rfl)
  · exact gives_row (.bind fun _ => .bind fun _ => .pure rfl)
  · exact gives_row (.bind fun _ => .bind fun _ => .pure rfl)
  · exact .bind fun _ => .bind fun _ => .pure ⟨_, rfl, rfl⟩

end Catalog

theorem mem_of_registeredLast? {name : String} {registered : List Entry} {entry : Entry}
    (h : registeredLast? name registered = some entry) :
    entry ∈ registered ∧ entry.name = name := by
  induction registered with
  | nil => cases h
  | cons first rest ih =>
    rw [registeredLast?_cons, Option.or_eq_some_iff] at h
    rcases h with hlater | ⟨-, hfirst⟩
    · obtain ⟨hmem, hname⟩ := ih hlater
      exact ⟨List.mem_cons_of_mem _ hmem, hname⟩
    · obtain ⟨hname, ⟨⟩⟩ := Option.ite_none_right_eq_some.mp hfirst
      exact ⟨List.mem_cons_self, hname⟩

namespace Registry
variable {registry : Registry} {line : LogicalLine} {lines : List LogicalLine}
variable {step : Step} {steps : List Step}

/-- What there is to know of a line that is read: its first token names an entry, which takes the
tokens and makes the directive. -/
theorem bind_eq_ok_iff :
    registry.bind line = .ok step ↔
      ∃ tokens entry, tokenize line.text = .ok tokens ∧
        registry.get? (tokens.headD "") = some entry ∧
        bindEntry entry line tokens = .ok (step.arguments, step.directive) ∧
        step.name = tokens.headD "" ∧ step.line = line := by
  constructor
  · intro h
    unfold bind at h
    split at h
    · cases h
    next tokens htokens =>
    simp only at h
    split at h
    · cases h
    next entry hentry =>
    split at h
    · cases h
    next arguments directive hmade =>
    cases h
    exact ⟨tokens, entry, htokens, hentry, hmade, rfl, rfl⟩
  · rintro ⟨tokens, entry, htokens, hentry, hmade, hname, rfl⟩
    rw [← hname] at hentry
    simp only [bind, htokens, ← hname, hentry, hmade]

/-- A line that fails has no tokens, or names no entry, or names one that does not take them. -/
theorem bind_eq_error_iff {fault : RecipeError} :
    registry.bind line = .error fault ↔
      (∃ failure, tokenize line.text = .error failure ∧ fault = .line line (.token failure)) ∨
        ∃ tokens, tokenize line.text = .ok tokens ∧
          (registry.get? (tokens.headD "") = none ∧
              fault = .unknownDirective line.number (tokens.headD "") ∨
            ∃ entry problem, registry.get? (tokens.headD "") = some entry ∧
              bindEntry entry line tokens = .error problem ∧ fault = .line line problem) := by
  constructor
  · intro h
    unfold bind at h
    split at h
    · next failure hfailure =>
      cases h
      exact .inl ⟨failure, hfailure, rfl⟩
    next tokens htokens =>
    simp only at h
    split at h
    · next hentry =>
      cases h
      exact .inr ⟨tokens, htokens, .inl ⟨hentry, rfl⟩⟩
    next entry hentry =>
    split at h
    · next problem hproblem =>
      cases h
      exact .inr ⟨tokens, htokens, .inr ⟨entry, problem, hentry, hproblem, rfl⟩⟩
    · cases h
  · rintro (⟨failure, hfailure, rfl⟩ | ⟨tokens, htokens, ⟨hentry, rfl⟩ |
      ⟨entry, problem, hentry, hproblem, rfl⟩⟩)
    · simp only [bind, hfailure]
    · simp only [bind, htokens, hentry]
    · simp only [bind, htokens, hentry, hproblem]

theorem bindEntry_eq_ok_iff {entry : Entry} {tokens : List String}
    {made : Arguments × Directive} :
    bindEntry entry line tokens = .ok made ↔
      ∃ bindings, entry.usage.pattern.bindings tokens = .ok bindings ∧
        entry.usage.bind bindings line.text = .ok made.1 ∧ entry.configure made.1 = .ok made.2 := by
  constructor
  · intro h
    unfold bindEntry at h
    split at h
    · cases h
    next bindings hbindings =>
    split at h
    · cases h
    next arguments hbind =>
    split at h
    · cases h
    next directive hmade =>
    cases h
    exact ⟨bindings, hbindings, hbind, hmade⟩
  · rintro ⟨bindings, hbindings, hbind, hmade⟩
    simp only [bindEntry, hbindings, hbind, hmade]

theorem exists_line_of_bindAll (h : registry.bindAll lines = .ok steps) :
    ∀ step ∈ steps, ∃ line ∈ lines, registry.bind line = .ok step := by
  induction lines generalizing steps with
  | nil =>
    cases h
    simp
  | cons line lines ih =>
    simp only [bindAll, bind_eq_ok, pure_eq_ok] at h
    obtain ⟨first, hfirst, rest, hrest, rfl⟩ := h
    rw [List.forall_mem_cons]
    refine ⟨⟨line, List.mem_cons_self, hfirst⟩, ?_⟩
    intro step hstep
    obtain ⟨other, hother, hbind⟩ := ih hrest step hstep
    exact ⟨other, List.mem_cons_of_mem _ hother, hbind⟩

theorem readLines_eq_bindAll {options : LineOptions} {recipe : List String}
    (h : options.logicalLines recipe = .ok lines) :
    registry.readLines options recipe = registry.bindAll lines := by
  rw [readLines, h]
  rfl

/-- A recipe of one logical line is read as that line is. -/
theorem readLines_eq_map {options : LineOptions} {recipe : List String}
    (h : options.logicalLines recipe = .ok [line]) :
    registry.readLines options recipe = (registry.bind line).map ([·]) := by
  rw [readLines_eq_bindAll h, bindAll, bindAll]
  cases registry.bind line <;> rfl

theorem mem_entries_of_get?_standard {name : String} {entry : Entry}
    (h : standard.get? name = some entry) : entry ∈ Catalog.entries ∧ entry.name = name := by
  rw [standard, get?, firstOf_cons, firstOf, Option.or_none, system, get?] at h
  exact mem_of_registeredLast? h

/-- A step of a recipe that is read with the standard registry is what the entry of its name makes
of its arguments. -/
theorem exists_entry_of_readLines {options : LineOptions} {recipe : List String}
    (h : standard.readLines options recipe = .ok steps) :
    ∀ step ∈ steps, ∃ entry ∈ Catalog.entries, entry.name = step.name ∧
      entry.configure step.arguments = .ok step.directive := by
  obtain ⟨lines, -, hlines⟩ := bind_eq_ok.mp h
  intro step hstep
  obtain ⟨line, -, hline⟩ := exists_line_of_bindAll hlines step hstep
  obtain ⟨tokens, entry, -, hentry, hmade, hname, -⟩ := bind_eq_ok_iff.mp hline
  obtain ⟨hmem, hentryName⟩ := mem_entries_of_get?_standard hentry
  obtain ⟨bindings, -, -, hdirective⟩ := bindEntry_eq_ok_iff.mp hmade
  exact ⟨entry, hmem, hentryName.trans hname.symm, hdirective⟩

/-- The steps of a recipe that is read with the standard registry are what they are called. -/
theorem isNamed_of_readLines {options : LineOptions} {recipe : List String}
    (h : standard.readLines options recipe = .ok steps) :
    ∀ step ∈ steps, step.directive.IsNamed step.name := by
  intro step hstep
  obtain ⟨entry, hmem, hname, hdirective⟩ := exists_entry_of_readLines h step hstep
  have hnamed := Catalog.gives_isNamed step.arguments entry hmem _ hdirective
  rwa [hname] at hnamed

end Registry

end RowRecipe
