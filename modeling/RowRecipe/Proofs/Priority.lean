import RowRecipe.Proofs.SameTokens

/-!
# Registries of lower priority

A registry that is put behind others is only asked for names that those do not know. So a recipe
that is read without it is read with it in the same way, and a recipe that fails for any reason but
a name that only the last registry knows fails with it in the same way.

Main statement: `Registry.readLines_layers_concat`.
-/
namespace RowRecipe.Registry

/-- What a registry finds, the other finds as well. -/
def Extends (whole upper : Registry) : Prop :=
  ∀ name entry, upper.get? name = some entry → whole.get? name = some entry

theorem firstOf_concat (name : String) (registries : List Registry) (lower : Registry) :
    firstOf name (registries ++ [lower]) = (firstOf name registries).or (lower.get? name) := by
  induction registries with
  | nil => rw [List.nil_append, firstOf_cons, firstOf, Option.or_none, Option.none_or]
  | cons registry registries ih =>
    rw [List.cons_append, firstOf_cons, firstOf_cons, ih, Option.or_assoc]

theorem get?_layers_concat (name : String) (registries : List Registry) (lower : Registry) :
    (layers (registries ++ [lower])).get? name =
      ((layers registries).get? name).or (lower.get? name) :=
  firstOf_concat name registries lower

theorem extends_layers_concat (registries : List Registry) (lower : Registry) :
    (layers (registries ++ [lower])).Extends (layers registries) := by
  intro name entry h
  rw [get?_layers_concat, h, Option.some_or]

section
variable {whole upper : Registry} {options : LineOptions} {line : LogicalLine}
variable {lines : List LogicalLine} {recipe : List String} {text : String} {entry : Entry}
variable {values : SortedMap Argument}

theorem Calls.of_extends (h : whole.Extends upper) (hcalls : upper.Calls text entry values) :
    whole.Calls text entry values := by
  obtain ⟨tokens, bindings, htokens, hentry, hbindings, hbind⟩ := hcalls
  exact ⟨tokens, bindings, htokens, h _ _ hentry, hbindings, hbind⟩

/-- The name of a line is looked up once, and nothing else depends on the registry. -/
theorem bind_eq_of_extends (h : whole.Extends upper)
    (hunknown : ∀ number name, upper.bind line = .error (.unknownDirective number name) →
      whole.get? name = upper.get? name) : whole.bind line = upper.bind line := by
  cases htokens : tokenize line.text with
  | error fault => simp only [bind, htokens]
  | ok tokens =>
    cases hentry : upper.get? (tokens.headD "") with
    | none =>
      have hnone := hunknown line.number (tokens.headD "") (by simp only [bind, htokens, hentry])
      simp only [bind, htokens, hnone]
    | some entry => simp only [bind, htokens, hentry, h _ _ hentry]

theorem bindAll_eq_of_extends (h : whole.Extends upper)
    (hunknown : ∀ number name, upper.bindAll lines = .error (.unknownDirective number name) →
      whole.get? name = upper.get? name) : whole.bindAll lines = upper.bindAll lines := by
  induction lines with
  | nil => rfl
  | cons line lines ih =>
    rw [bindAll] at hunknown
    have hline : whole.bind line = upper.bind line := by
      refine bind_eq_of_extends h ?_
      intro number name hfault
      exact hunknown number name (bind_eq_error.mpr (.inl hfault))
    rw [bindAll, bindAll, hline]
    cases hstep : upper.bind line with
    | error fault => rfl
    | ok step =>
      have hlines : whole.bindAll lines = upper.bindAll lines := by
        refine ih ?_
        intro number name hfault
        exact hunknown number name
          (bind_eq_error.mpr (.inr ⟨step, hstep, bind_eq_error.mpr (.inl hfault)⟩))
      rw [hlines]

theorem readLines_eq_of_extends (h : whole.Extends upper)
    (hunknown : ∀ number name,
      upper.readLines options recipe = .error (.unknownDirective number name) →
        whole.get? name = upper.get? name) :
    whole.readLines options recipe = upper.readLines options recipe := by
  rw [readLines] at hunknown
  rw [readLines, readLines]
  cases hlines : options.logicalLines recipe with
  | error fault => rfl
  | ok lines =>
    refine bindAll_eq_of_extends h ?_
    intro number name hfault
    exact hunknown number name (bind_eq_error.mpr (.inr ⟨lines, hlines, hfault⟩))

theorem exists_calls_of_readLines {steps : List Step}
    (h : upper.readLines options recipe = .ok steps) :
    ∀ step ∈ steps, ∃ entry, entry.name = step.name ∧
      upper.Calls step.line.text entry step.arguments.values := by
  obtain ⟨lines, -, hlines⟩ := bind_eq_ok.mp h
  intro step hstep
  obtain ⟨line, -, hline⟩ := exists_line_of_bindAll hlines step hstep
  obtain ⟨entry, values, hcalls, -, hname, hlineOf, harguments⟩ := bind_eq_ok_iff_calls.mp hline
  rw [hlineOf, harguments]
  exact ⟨entry, hname.symm, hcalls⟩

end

/-- A registry of lower priority changes nothing where a recipe is read without it: the steps are
the same, and so are the entries that they call. It changes nothing either where a recipe fails
without it, unless the failure is a name that the registry knows. -/
theorem readLines_layers_concat (registries : List Registry) (lower : Registry)
    (options : LineOptions) (recipe : List String) :
    (∀ steps, (layers registries).readLines options recipe = .ok steps →
      (layers (registries ++ [lower])).readLines options recipe = .ok steps ∧
        ∀ step ∈ steps, ∃ entry, entry.name = step.name ∧
          (layers registries).Calls step.line.text entry step.arguments.values ∧
          (layers (registries ++ [lower])).Calls step.line.text entry step.arguments.values) ∧
    ∀ fault, (layers registries).readLines options recipe = .error fault →
      (∀ number name, fault = .unknownDirective number name → lower.get? name = none) →
        (layers (registries ++ [lower])).readLines options recipe = .error fault := by
  have hextends := extends_layers_concat registries lower
  constructor
  · intro steps hsteps
    refine ⟨?_, ?_⟩
    · rw [← hsteps]
      refine readLines_eq_of_extends hextends ?_
      intro number name hfault
      rw [hsteps] at hfault
      cases hfault
    · intro step hstep
      obtain ⟨entry, hname, hcalls⟩ := exists_calls_of_readLines hsteps step hstep
      exact ⟨entry, hname, hcalls, hcalls.of_extends hextends⟩
  · intro fault hfault hunknown
    rw [← hfault]
    refine readLines_eq_of_extends hextends ?_
    intro number name hname
    rw [hfault] at hname
    rw [get?_layers_concat, hunknown number name (Except.error.inj hname), Option.or_none]

/-- An entry that drops columns where the library renames one. -/
def dropping : Entry :=
  { Catalog.drop with usage := .declare "rename" [.define "columns" .list] }

/-- A line that both registries could read, each in its way. -/
def renamingStep : Step :=
  ⟨"rename", ⟨1, "rename a b"⟩,
    ⟨.ofList [("old", .columnName "a"), ("new", .columnName "b")], "rename a b"⟩,
    .builtin (.row (.rename "a" "b"))⟩

theorem readLines_layers_concat_dropping :
    (layers [system]).readLines .standard ["rename a b"] = .ok [renamingStep] ∧
      (layers [system, entries [dropping]]).readLines .standard ["rename a b"] =
        .ok [renamingStep] ∧
      (layers [system]).readLines .standard ["explode a"] =
        .error (.unknownDirective 1 "explode") ∧
      (entries [dropping]).get? "explode" = none ∧
      (layers [system, entries [dropping]]).readLines .standard ["explode a"] =
        .error (.unknownDirective 1 "explode") := by
  have hread : (layers [system]).readLines .standard ["rename a b"] = .ok [renamingStep] := by
    have hstep : (layers [system]).bind ⟨1, "rename a b"⟩ = .ok renamingStep :=
      bind_eq_ok_iff.mpr ⟨["rename", "a", "b"], Catalog.rename, rfl, rfl, rfl, rfl, rfl⟩
    have hlines : LineOptions.standard.logicalLines ["rename a b"] = .ok [⟨1, "rename a b"⟩] := rfl
    rw [readLines_eq_map hlines, hstep]
    rfl
  have hfail : (layers [system]).readLines .standard ["explode a"] =
      .error (.unknownDirective 1 "explode") := by
    have htokens : tokenize "explode a" = .ok ["explode", "a"] := rfl
    have hentry : (layers [system]).get? "explode" = none := rfl
    have hline : (layers [system]).bind ⟨1, "explode a"⟩ =
        .error (.unknownDirective 1 "explode") := by
      simp only [bind, htokens, List.headD_cons, hentry]
    have hlines : LineOptions.standard.logicalLines ["explode a"] = .ok [⟨1, "explode a"⟩] := rfl
    rw [readLines_eq_map hlines, hline]
    rfl
  have hunknown : (entries [dropping]).get? "explode" = none := rfl
  refine ⟨hread, ?_, hfail, hunknown, ?_⟩
  · exact ((readLines_layers_concat [system] (entries [dropping]) .standard _).1 _ hread).1
  · refine (readLines_layers_concat [system] (entries [dropping]) .standard _).2 _ hfail ?_
    rintro _ _ ⟨⟩
    exact hunknown

end RowRecipe.Registry
