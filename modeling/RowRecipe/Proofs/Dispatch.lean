import RowRecipe.Proofs.LineEnds
import RowRecipe.Proofs.SameTokens

/-!
# First tokens

The first token of a logical line names the entry that takes the line. There always is a first
token: a logical line ends with a visible character, and a visible character begins a token even if
it is a quote with nothing behind it. An entry is registered under the name that its pattern begins
with, so the first token takes the first word of the pattern, and whether the tokens match is
decided behind it.

Main statement: `Registry.exists_first_token`.
-/
namespace RowRecipe

namespace LineOptions
variable {options : LineOptions} {physical : List String} {lines : List LogicalLine}

theorem exists_visible_of_logicalLines (h : options.logicalLines physical = .ok lines) :
    ∀ line ∈ lines, ∃ c ∈ line.text.toList, Text.isBlank c = false := by
  intro line hline
  obtain ⟨c, hc, hvisible, -⟩ := ends_of_linesFrom h line hline
  exact ⟨c, List.mem_of_getLast? hc, hvisible⟩

end LineOptions

theorem tokenize_ne_nil {text : String} {tokens : List String} (h : tokenize text = .ok tokens)
    (hvisible : ∃ c ∈ text.toList, Text.isBlank c = false) : tokens ≠ [] := by
  obtain ⟨own, hreads, rfl⟩ := reads_of_tokenize h
  rw [ne_eq, List.map_eq_nil_iff]
  exact hreads.ne_nil (.inr hvisible)

/-- A pattern that begins with the first token matches if its rest matches the other tokens. -/
theorem Pattern.bindings_literal_cons (name : String) (rest : Pattern) (others : List String) :
    Pattern.bindings (.literal name :: rest) (name :: others) = Pattern.bindings rest others := by
  rw [Pattern.bindings, takeAll, PatternToken.take, if_pos rfl, Pattern.bindings, ok_bind,
    bind_assoc]
  rfl

namespace Registry
variable {registry : Registry} {entry : Entry} {line : LogicalLine} {tokens : List String}
variable {options : LineOptions} {physical : List String} {lines : List LogicalLine}

theorem bindings_of_mismatch {pattern : Pattern} {mismatch : Pattern.Mismatch}
    (h : bindEntry entry line tokens = .error (.mismatch pattern mismatch)) :
    pattern = entry.usage.pattern ∧ entry.usage.pattern.bindings tokens = .error mismatch := by
  unfold bindEntry at h
  split at h
  · next other hother =>
    cases h
    exact ⟨rfl, hother⟩
  split at h
  · cases h
  split at h <;> cases h

theorem bind_eq_error_iff_of_tokenize {fault : RecipeError}
    (htokens : tokenize line.text = .ok tokens) :
    registry.bind line = .error fault ↔
      registry.get? (tokens.headD "") = none ∧
          fault = .unknownDirective line.number (tokens.headD "") ∨
        ∃ entry problem, registry.get? (tokens.headD "") = some entry ∧
          bindEntry entry line tokens = .error problem ∧ fault = .line line problem := by
  simp [bind_eq_error_iff, htokens]

/-- Every logical line that is cut into tokens has a first token. An entry that the registry has for
it has a pattern that begins with it, so it is what a step is called and what an unknown directive
is called, and tokens that do not match the entry do not match it behind the name. -/
theorem exists_first_token (registry : Registry) (h : options.logicalLines physical = .ok lines)
    (hline : line ∈ lines) (htokens : tokenize line.text = .ok tokens) :
    ∃ name others, tokens = name :: others ∧
      (∀ entry, registry.get? name = some entry →
        entry.usage.pattern.head? = some (.literal name) ∧
        entry.usage.pattern.bindings tokens = Pattern.bindings entry.usage.pattern.tail others) ∧
      (∀ step, registry.bind line = .ok step → step.name = name) ∧
      (∀ number unknown, registry.bind line = .error (.unknownDirective number unknown) →
        number = line.number ∧ unknown = name ∧ registry.get? name = none) ∧
      ∀ source pattern mismatch,
        registry.bind line = .error (.line source (.mismatch pattern mismatch)) →
          source = line ∧ pattern.head? = some (.literal name) ∧
          Pattern.bindings pattern.tail others = .error mismatch := by
  obtain ⟨name, others, rfl⟩ := List.exists_cons_of_ne_nil
    (tokenize_ne_nil htokens (LineOptions.exists_visible_of_logicalLines h line hline))
  have hentries : ∀ entry, registry.get? name = some entry →
      entry.usage.pattern.head? = some (.literal name) ∧
      entry.usage.pattern.bindings (name :: others) =
        Pattern.bindings entry.usage.pattern.tail others := by
    intro entry hentry
    obtain rfl := name_of_get? registry hentry
    exact ⟨rfl, Pattern.bindings_literal_cons _ _ _⟩
  refine ⟨name, others, rfl, hentries, ?_, ?_, ?_⟩
  · intro step hstep
    obtain ⟨tokens, -, hcut, -, -, hname, -⟩ := bind_eq_ok_iff.mp hstep
    obtain rfl := Except.ok.inj (htokens.symm.trans hcut)
    exact hname
  · intro number unknown herror
    rcases (bind_eq_error_iff_of_tokenize htokens).mp herror with
      ⟨hnone, hfault⟩ | ⟨entry, problem, -, -, hfault⟩
    · cases hfault
      exact ⟨rfl, rfl, hnone⟩
    · cases hfault
  · intro source pattern mismatch herror
    rcases (bind_eq_error_iff_of_tokenize htokens).mp herror with
      ⟨-, hfault⟩ | ⟨entry, problem, hentry, hproblem, hfault⟩
    · cases hfault
    · cases hfault
      obtain ⟨rfl, hmismatch⟩ := bindings_of_mismatch hproblem
      obtain ⟨hhead, hrest⟩ := hentries entry hentry
      exact ⟨rfl, hhead, hrest.symm.trans hmismatch⟩

end Registry

/-- An entry without a name. -/
def Entry.nameless : Entry :=
  Catalog.rowEntry "" [.define "columns" .list] "Removes the listed columns" fun arguments => do
    return .drop (← arguments.list "columns")

/-- The first token of a line may be the empty text of two quotes, which names an entry. -/
theorem Registry.exists_first_token_nameless :
    LineOptions.standard.logicalLines ["# columns", "'' \\", "a b"] = .ok [⟨2, "'' a b"⟩] ∧
      tokenize "'' a b" = .ok ["", "a", "b"] ∧
      ∃ entry, (Registry.layers [.entries [.nameless], .standard]).get? "" = some entry ∧
        Pattern.bindings entry.usage.pattern.tail ["a", "b"] = .error (.unexpected "b") := by
  have hlines : LineOptions.standard.logicalLines ["# columns", "'' \\", "a b"] =
      .ok [⟨2, "'' a b"⟩] := by rfl
  have htokens : tokenize "'' a b" = .ok ["", "a", "b"] := by rfl
  obtain ⟨name, others, hcons, hentries, -, -, -⟩ :=
    exists_first_token (.layers [.entries [.nameless], .standard]) hlines List.mem_cons_self
      htokens
  obtain ⟨rfl, rfl⟩ := List.cons.inj hcons
  refine ⟨hlines, htokens, .nameless, rfl, ?_⟩
  rw [← (hentries .nameless rfl).2]
  rfl

end RowRecipe
