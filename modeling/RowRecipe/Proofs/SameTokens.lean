import RowRecipe.Proofs.Catalog

/-!
# Lines with the same tokens

A line says what its tokens say: lines with the same tokens call the same entry with the same
argument values. The text of a line is only handed on, so an entry that makes its directive out of
the values alone, as all entries of the library do, makes the same directive in both.
-/
namespace RowRecipe

/-- The step in a line that calls the same entry with the same values. -/
def Step.moveTo (line : LogicalLine) (step : Step) : Step :=
  { step with line := line, arguments := { step.arguments with line := line.text } }

def RecipeError.moveTo (line : LogicalLine) : RecipeError → RecipeError
  | .line _ problem => .line line problem
  | .unknownDirective _ name => .unknownDirective line.number name

/-- The directive does not depend on the text of the line. -/
def Entry.IsByValues (entry : Entry) : Prop :=
  ∀ arguments line, entry.configure { arguments with line := line } = entry.configure arguments

theorem Catalog.isByValues_of_mem : ∀ entry ∈ entries, entry.IsByValues := by
  simp only [entries, List.forall_mem_cons]
  refine ⟨?_, ?_, ?_, ?_, ?_, ?_, ?_, ?_, ?_, ?_, ?_, ?_, ?_, ?_, ?_, ?_, ?_, by simp⟩
  all_goals exact fun _ _ => rfl

theorem Usage.bind_eq_mapBoth (usage : Usage) (bindings : Bindings) (text other : String) :
    usage.bind bindings other =
      mapBoth (fun arguments => { arguments with line := other }) id
        (usage.bind bindings text) := by
  rw [Usage.bind, Usage.bind]
  cases bindParameters bindings usage.parameters SortedMap.empty <;> rfl

namespace Registry

def IsByValues (registry : Registry) : Prop :=
  ∀ name entry, registry.get? name = some entry → entry.IsByValues

theorem isByValues_standard : standard.IsByValues := by
  intro name entry hentry
  exact Catalog.isByValues_of_mem entry (mem_entries_of_get?_standard hentry).1

mutual

theorem name_of_get? {name : String} {entry : Entry} :
    ∀ registry : Registry, registry.get? name = some entry → entry.name = name
  | .entries _, h => (mem_of_registeredLast? h).2
  | .layers registries, h => name_of_firstOf registries h

theorem name_of_firstOf {name : String} {entry : Entry} :
    ∀ registries : List Registry, firstOf name registries = some entry → entry.name = name
  | [], h => nomatch h
  | registry :: registries, h => by
    rw [firstOf_cons, Option.or_eq_some_iff] at h
    rcases h with hfound | ⟨-, hrest⟩
    · exact name_of_get? registry hfound
    · exact name_of_firstOf registries hrest

end

/-- A line with a text calls an entry with some argument values. -/
def Calls (registry : Registry) (text : String) (entry : Entry) (values : SortedMap Argument) :
    Prop :=
  ∃ tokens bindings, tokenize text = .ok tokens ∧ registry.get? (tokens.headD "") = some entry ∧
    entry.usage.pattern.bindings tokens = .ok bindings ∧
      entry.usage.bind bindings text = .ok ⟨values, text⟩

variable {registry : Registry} {entry : Entry} {tokens : List String} {values : SortedMap Argument}
variable {line : LogicalLine} {a b : String}

theorem Calls.of_tokenize_eq (h : registry.Calls a entry values) (hsame : tokenize b = tokenize a) :
    registry.Calls b entry values := by
  obtain ⟨tokens, bindings, htokens, hentry, hbindings, hbind⟩ := h
  refine ⟨tokens, bindings, hsame.trans htokens, hentry, hbindings, ?_⟩
  rw [Usage.bind_eq_mapBoth entry.usage bindings a b, hbind, mapBoth_ok]

theorem calls_congr (hsame : tokenize a = tokenize b) :
    registry.Calls a entry values ↔ registry.Calls b entry values :=
  ⟨fun h => h.of_tokenize_eq hsame.symm, fun h => h.of_tokenize_eq hsame⟩

/-- What is read of a line is the directive that the entry it calls makes out of its arguments. -/
theorem bind_eq_ok_iff_calls {step : Step} :
    registry.bind line = .ok step ↔
      ∃ entry values, registry.Calls line.text entry values ∧
        entry.configure ⟨values, line.text⟩ = .ok step.directive ∧
        step.name = entry.name ∧ step.line = line ∧ step.arguments = ⟨values, line.text⟩ := by
  rw [bind_eq_ok_iff]
  constructor
  · rintro ⟨tokens, entry, htokens, hentry, hmade, hname, hline⟩
    obtain ⟨bindings, hbindings, hbind, hdirective⟩ := bindEntry_eq_ok_iff.mp hmade
    obtain ⟨values, -, hvalues⟩ := map_eq_ok.mp hbind
    rw [← hvalues] at hbind hdirective
    exact ⟨entry, values, ⟨tokens, bindings, htokens, hentry, hbindings, hbind⟩, hdirective,
      hname.trans (name_of_get? registry hentry).symm, hline, hvalues.symm⟩
  · rintro ⟨entry, values, ⟨tokens, bindings, htokens, hentry, hbindings, hbind⟩, hdirective,
      hname, hline, harguments⟩
    rw [← harguments] at hbind hdirective
    exact ⟨tokens, entry, htokens, hentry,
      bindEntry_eq_ok_iff.mpr ⟨bindings, hbindings, hbind, hdirective⟩,
      hname.trans (name_of_get? registry hentry), hline⟩

theorem bindEntry_move (hentry : entry.IsByValues) (line other : LogicalLine)
    (tokens : List String) :
    bindEntry entry other tokens =
      mapBoth (fun made => ({ made.1 with line := other.text }, made.2)) id
        (bindEntry entry line tokens) := by
  rw [bindEntry, bindEntry]
  cases entry.usage.pattern.bindings tokens with
  | error mismatch => rfl
  | ok bindings =>
    simp only [Usage.bind_eq_mapBoth entry.usage bindings line.text other.text]
    cases entry.usage.bind bindings line.text with
    | error fault => rfl
    | ok arguments =>
      simp only [mapBoth_ok, hentry arguments other.text]
      cases entry.configure arguments <;> rfl

theorem bind_move (hregistry : registry.IsByValues) (line other : LogicalLine)
    (hline : tokenize line.text = .ok tokens) (hother : tokenize other.text = .ok tokens) :
    registry.bind other = mapBoth (·.moveTo other) (·.moveTo other) (registry.bind line) := by
  simp only [bind, hline, hother]
  cases hentry : registry.get? (tokens.headD "") with
  | none => rfl
  | some entry =>
    simp only [bindEntry_move (hregistry _ entry hentry) line other]
    cases bindEntry entry line tokens <;> rfl

end Registry

end RowRecipe
