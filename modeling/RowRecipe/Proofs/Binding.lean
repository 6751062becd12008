import RowRecipe.Proofs.Choice
import RowRecipe.Recipe.Usage

/-!
# Arguments of tokens that match

A usage declares parameters, and its pattern has an argument for each of them. Tokens that match the
pattern therefore bind every parameter that is required, and no name that is not declared, so that
none is missing when the bindings are read. What can go wrong is only that a token is not of the
kind of its parameter.

Main statement: `Usage.bind_of_bindings`.
-/
namespace RowRecipe

section
variable {slots : List Slot} {parameter : Parameter}

mutual

theorem UsageToken.required_eq_false :
    ∀ {token : UsageToken}, parameter ∈ token.parameters false → parameter.required = false
  | .parameter _ _, h => by rw [List.mem_singleton.mp h]
  | .keyword _, h => nomatch h
  | .optional _, h => by
    rw [UsageToken.parameters] at h
    exact required_eq_false_of_mem h

/-- No parameter in a group is required. -/
theorem required_eq_false_of_mem :
    ∀ {tokens : List UsageToken}, parameter ∈ parametersOf false tokens →
      parameter.required = false
  | [], h => nomatch h
  | token :: tokens, h => by
    rcases List.mem_append.mp h with h | h
    · exact token.required_eq_false h
    · exact required_eq_false_of_mem h

end

/-- Whatever groups are missing, there is a slot for a parameter that is required. -/
theorem mem_slots_of_required {tokens : List UsageToken}
    (hslots : Pattern.Flattens (patternTokens tokens) slots)
    (hmem : parameter ∈ parametersOf true tokens) (hrequired : parameter.required = true) :
    .argument parameter.name ∈ slots := by
  induction tokens generalizing slots with
  | nil => cases hmem
  | cons token tokens ih =>
    obtain _ | ⟨htoken, hothers⟩ := hslots
    rw [List.mem_append]
    rcases List.mem_append.mp hmem with hmem | hmem
    · cases token with
      | parameter name kind =>
        obtain rfl := List.mem_singleton.mp hmem
        cases htoken
        exact .inl List.mem_cons_self
      | keyword word => cases hmem
      | optional inner =>
        rw [UsageToken.parameters] at hmem
        rw [required_eq_false_of_mem hmem] at hrequired
        cases hrequired
    · exact .inr (ih hothers hmem)

mutual

theorem UsageToken.exists_parameter_of_slot {name : String} :
    ∀ {token : UsageToken} {required : Bool} {slots : List Slot},
      token.patternToken.Flattens slots → .argument name ∈ slots →
      ∃ parameter ∈ token.parameters required, parameter.name = name
  | .parameter other kind, required, _, hslots, hmem => by
    cases hslots
    obtain rfl : name = other := by simpa using hmem
    exact ⟨_, List.mem_cons_self, rfl⟩
  | .keyword word, _, _, hslots, hmem => by
    cases hslots
    simp at hmem
  | .optional inner, _, _, hslots, hmem => by
    cases hslots with
    | missing => cases hmem
    | present hinner => exact exists_parameter_of_slot hinner hmem

/-- Every slot with a name is that of a parameter. -/
theorem exists_parameter_of_slot {name : String} :
    ∀ {tokens : List UsageToken} {required : Bool} {slots : List Slot},
      Pattern.Flattens (patternTokens tokens) slots → .argument name ∈ slots →
      ∃ parameter ∈ parametersOf required tokens, parameter.name = name
  | [], _, _, hslots, hmem => by
    cases hslots
    cases hmem
  | token :: tokens, _, _, hslots, hmem => by
    obtain _ | ⟨htoken, hothers⟩ := hslots
    rcases List.mem_append.mp hmem with hmem | hmem
    · obtain ⟨parameter, hparameter, hname⟩ := token.exists_parameter_of_slot htoken hmem
      exact ⟨parameter, List.mem_append_left _ hparameter, hname⟩
    · obtain ⟨parameter, hparameter, hname⟩ := exists_parameter_of_slot hothers hmem
      exact ⟨parameter, List.mem_append_right _ hparameter, hname⟩

end

end

namespace Usage
variable {usage : Usage} {tokens : List String} {bindings : Bindings}

theorem exists_filled_of_bindings (h : usage.pattern.bindings tokens = .ok bindings) :
    ∃ slots bound, Pattern.Flattens (patternTokens usage.tokens) slots ∧
      bindings = SortedMap.ofList bound ∧
      ∀ name, name ∈ bound.map Prod.fst ↔ .argument name ∈ slots := by
  obtain ⟨slots, bound, hslots, hfilled, rfl⟩ := Pattern.exists_filled_of_bindings h
  obtain _ | ⟨hname, hslots⟩ := hslots
  cases hname
  refine ⟨_, bound, hslots, rfl, ?_⟩
  intro name
  rw [hfilled.mem_names_iff]
  simp

theorem isSome_of_required (h : usage.pattern.bindings tokens = .ok bindings)
    {parameter : Parameter} (hmem : parameter ∈ usage.parameters)
    (hrequired : parameter.required = true) :
    (bindings.get? parameter.name).isSome = true := by
  obtain ⟨slots, bound, hslots, rfl, hnames⟩ := exists_filled_of_bindings h
  rw [isSome_get?_ofList, hnames]
  exact mem_slots_of_required hslots hmem hrequired

theorem exists_parameter_of_bindings (h : usage.pattern.bindings tokens = .ok bindings)
    {name token : String} (htoken : bindings.get? name = some token) :
    ∃ parameter ∈ usage.parameters, parameter.name = name := by
  obtain ⟨slots, bound, hslots, rfl, hnames⟩ := exists_filled_of_bindings h
  have hsome := Option.isSome_of_eq_some htoken
  rw [isSome_get?_ofList, hnames] at hsome
  exact exists_parameter_of_slot hslots hsome

end Usage

/-- A parameter that is bound to no token, or to one of its kind. -/
def Parameter.Readable (bindings : Bindings) (parameter : Parameter) : Prop :=
  ∀ token, bindings.get? parameter.name = some token →
    ∃ argument, Argument.read parameter.kind parameter.name token = .ok argument

/-- What is wrong with the token of the first parameter that is bound to a token not of its kind. -/
def FirstUnreadable (bindings : Bindings) (parameters : List Parameter) (fault : ArgumentError) :
    Prop :=
  ∃ before parameter after token, parameters = before ++ parameter :: after ∧
    (∀ earlier ∈ before, earlier.Readable bindings) ∧
    bindings.get? parameter.name = some token ∧
    Argument.read parameter.kind parameter.name token = .error fault

section
variable {bindings : Bindings} {parameter : Parameter} {parameters : List Parameter}
variable {fault : ArgumentError} {values result : SortedMap Argument}

theorem firstUnreadable_cons_iff :
    FirstUnreadable bindings (parameter :: parameters) fault ↔
      (∃ token, bindings.get? parameter.name = some token ∧
        Argument.read parameter.kind parameter.name token = .error fault) ∨
      parameter.Readable bindings ∧ FirstUnreadable bindings parameters fault := by
  constructor
  · rintro ⟨before, failing, after, token, heq, hbefore, htoken, hread⟩
    cases before with
    | nil =>
      obtain ⟨rfl, rfl⟩ := List.cons.inj heq
      exact .inl ⟨token, htoken, hread⟩
    | cons first before =>
      obtain ⟨rfl, rfl⟩ := List.cons.inj heq
      obtain ⟨hfirst, hbefore⟩ := List.forall_mem_cons.mp hbefore
      exact .inr ⟨hfirst, before, failing, after, token, rfl, hbefore, htoken, hread⟩
  · rintro (⟨token, htoken, hread⟩ | ⟨hfirst, before, failing, after, token, rfl, hbefore, h⟩)
    · exact ⟨[], parameter, parameters, token, rfl, by simp, htoken, hread⟩
    · exact ⟨parameter :: before, failing, after, token, rfl,
        List.forall_mem_cons.mpr ⟨hfirst, hbefore⟩, h⟩

namespace Usage

theorem bindParameters_eq_error_iff
    (hrequired : ∀ parameter ∈ parameters, parameter.required = true →
      (bindings.get? parameter.name).isSome = true) :
    bindParameters bindings parameters values = .error fault ↔
      FirstUnreadable bindings parameters fault := by
  induction parameters generalizing values with
  | nil => simp [bindParameters, FirstUnreadable]
  | cons parameter parameters ih =>
    obtain ⟨hfirst, hrest⟩ := List.forall_mem_cons.mp hrequired
    rw [firstUnreadable_cons_iff, bindParameters, Parameter.Readable]
    cases hget : bindings.get? parameter.name with
    | none =>
      have hoptional : parameter.required = false := by simpa [hget] using hfirst
      simp [hoptional, ih hrest]
    | some token =>
      simp only [bind_eq_error, ih hrest, Option.some.injEq, forall_eq', exists_eq_left']
      cases Argument.read parameter.kind parameter.name token with
      | error other => simp
      | ok argument => simp

/-- What is read: the arguments of the parameters that are bound, with names that differ, and what
was there before. -/
theorem get?_of_bindParameters (hnames : (parameters.map Parameter.name).Nodup)
    (h : bindParameters bindings parameters values = .ok result) :
    (∀ parameter ∈ parameters, ∀ token, bindings.get? parameter.name = some token →
      ∃ argument, Argument.read parameter.kind parameter.name token = .ok argument ∧
        result.get? parameter.name = some argument) ∧
    ∀ name, bindings.get? name = none ∨ name ∉ parameters.map Parameter.name →
      result.get? name = values.get? name := by
  induction parameters generalizing values with
  | nil =>
    cases h
    simp
  | cons parameter parameters ih =>
    obtain ⟨hfirst, hrest⟩ := List.nodup_cons.mp hnames
    rw [List.forall_mem_cons, List.map_cons]
    simp only [List.mem_cons, not_or]
    rw [bindParameters] at h
    cases hget : bindings.get? parameter.name with
    | none =>
      simp only [hget] at h
      split at h
      · cases h
      obtain ⟨hread, hkept⟩ := ih hrest h
      refine ⟨⟨by simp, hread⟩, ?_⟩
      rintro name (hname | ⟨-, hname⟩)
      · exact hkept name (.inl hname)
      · exact hkept name (.inr hname)
    | some token =>
      simp only [hget] at h
      obtain ⟨argument, hargument, h⟩ := bind_eq_ok.mp h
      obtain ⟨hread, hkept⟩ := ih hrest h
      refine ⟨⟨?_, hread⟩, ?_⟩
      · rintro _ ⟨⟩
        refine ⟨argument, hargument, ?_⟩
        rw [hkept _ (.inr hfirst), SortedMap.get?_insert, if_pos rfl]
      · rintro name (hname | ⟨hne, hname⟩)
        · have hne : parameter.name ≠ name := by
            rintro rfl
            rw [hget] at hname
            cases hname
          rw [hkept name (.inl hname), SortedMap.get?_insert, if_neg hne]
        · rw [hkept name (.inr hname), SortedMap.get?_insert, if_neg (Ne.symm hne)]

theorem kindOf?_of_mem {usage : Usage} (hnames : (usage.parameters.map Parameter.name).Nodup)
    (hmem : parameter ∈ usage.parameters) : usage.kindOf? parameter.name = some parameter.kind := by
  rw [kindOf?]
  generalize usage.parameters = parameters at hnames hmem
  induction parameters with
  | nil => cases hmem
  | cons first parameters ih =>
    obtain ⟨hfirst, hrest⟩ := List.nodup_cons.mp hnames
    rcases List.mem_cons.mp hmem with rfl | hmem
    · simp
    · have hne : first.name ≠ parameter.name := by
        intro heq
        exact hfirst (heq ▸ List.mem_map_of_mem hmem)
      rw [List.find?_cons_of_neg (by simpa using hne)]
      exact ih hrest hmem

end Usage

theorem Argument.read_ne_missing (kind : Kind) (name token other : String) :
    Argument.read kind name token ≠ .error (.missing other) := by
  cases kind <;> simp only [Argument.read] <;> try split
  all_goals simp

end

namespace Usage
variable {usage : Usage} {tokens : List String} {bindings : Bindings} {values : SortedMap Argument}

theorem bind_eq_error_iff (h : usage.pattern.bindings tokens = .ok bindings) (line : String)
    (fault : ArgumentError) :
    usage.bind bindings line = .error fault ↔ FirstUnreadable bindings usage.parameters fault := by
  rw [bind, map_eq_error, bindParameters_eq_error_iff]
  exact fun parameter hmem hrequired => isSome_of_required h hmem hrequired

theorem exists_argument_of_bindParameters (hnames : (usage.parameters.map Parameter.name).Nodup)
    (h : usage.pattern.bindings tokens = .ok bindings)
    (hvalues : bindParameters bindings usage.parameters SortedMap.empty = .ok values)
    {name token : String} (htoken : bindings.get? name = some token) :
    ∃ kind argument, usage.kindOf? name = some kind ∧
      Argument.read kind name token = .ok argument ∧ values.get? name = some argument := by
  obtain ⟨parameter, hmem, rfl⟩ := exists_parameter_of_bindings h htoken
  obtain ⟨argument, hargument, hvalue⟩ :=
    (get?_of_bindParameters hnames hvalues).1 parameter hmem token htoken
  exact ⟨parameter.kind, argument, kindOf?_of_mem hnames hmem, hargument, hvalue⟩

theorem contains_of_bindParameters (hnames : (usage.parameters.map Parameter.name).Nodup)
    (h : usage.pattern.bindings tokens = .ok bindings)
    (hvalues : bindParameters bindings usage.parameters SortedMap.empty = .ok values)
    (name : String) : values.contains name = bindings.contains name := by
  rw [SortedMap.contains, SortedMap.contains]
  cases htoken : bindings.get? name with
  | none =>
    rw [(get?_of_bindParameters hnames hvalues).2 name (.inl htoken)]
    rfl
  | some token =>
    obtain ⟨kind, argument, -, -, hvalue⟩ :=
      exists_argument_of_bindParameters hnames h hvalues htoken
    rw [hvalue]
    rfl

/-- Tokens that match the pattern of a usage give its arguments: none is missing, and each bound
token is read as the kind that is declared for its name. If tokens are not of the kinds that they
should be, the first parameter with such a token says what is wrong. -/
theorem bind_of_bindings (hnames : (usage.parameters.map Parameter.name).Nodup)
    (h : usage.pattern.bindings tokens = .ok bindings) (line : String) :
    (∀ name, usage.bind bindings line ≠ .error (.missing name)) ∧
    ((∃ arguments, usage.bind bindings line = .ok arguments) ↔
      ∀ name token, bindings.get? name = some token →
        ∃ kind argument, usage.kindOf? name = some kind ∧
          Argument.read kind name token = .ok argument) ∧
    (∀ arguments, usage.bind bindings line = .ok arguments →
      arguments.line = line ∧
      (∀ name, arguments.values.contains name = bindings.contains name) ∧
      ∀ name token, bindings.get? name = some token →
        ∃ kind argument, usage.kindOf? name = some kind ∧
          Argument.read kind name token = .ok argument ∧
          arguments.values.get? name = some argument) ∧
    ∀ fault, usage.bind bindings line = .error fault ↔
      FirstUnreadable bindings usage.parameters fault := by
  refine ⟨?_, ⟨?_, ?_⟩, ?_, bind_eq_error_iff h line⟩
  · intro name hmissing
    obtain ⟨before, parameter, after, token, -, -, -, hread⟩ :=
      (bind_eq_error_iff h line _).mp hmissing
    exact Argument.read_ne_missing _ _ _ _ hread
  · rintro ⟨arguments, harguments⟩ name token htoken
    obtain ⟨values, hvalues, -⟩ := map_eq_ok.mp harguments
    obtain ⟨kind, argument, hkind, hargument, -⟩ :=
      exists_argument_of_bindParameters hnames h hvalues htoken
    exact ⟨kind, argument, hkind, hargument⟩
  · intro hread
    cases hbind : usage.bind bindings line with
    | ok arguments => exact ⟨arguments, rfl⟩
    | error fault =>
      obtain ⟨before, parameter, after, token, hparameters, -, htoken, hfault⟩ :=
        (bind_eq_error_iff h line fault).mp hbind
      have hmem : parameter ∈ usage.parameters := by simp [hparameters]
      obtain ⟨kind, argument, hkind, hargument⟩ := hread parameter.name token htoken
      rw [kindOf?_of_mem hnames hmem] at hkind
      obtain rfl := Option.some.inj hkind
      rw [hfault] at hargument
      cases hargument
  · intro arguments harguments
    obtain ⟨values, hvalues, rfl⟩ := map_eq_ok.mp harguments
    exact ⟨rfl, contains_of_bindParameters hnames h hvalues,
      fun name token => exists_argument_of_bindParameters hnames h hvalues⟩

/-- Declares a column, and a separator with a limit that may be missing together. -/
def splitting : Usage :=
  .declare "split" [.define "column" .columnName,
    .optional [.keyword "by", .define "separator" .text, .defineOptional "limit" .number]]

def splittingBindings (limit : String) : Bindings :=
  .ofList [("column", "c"), ("separator", "';'"), ("limit", limit)]

/-- The last token is bound to a parameter that takes numbers, and is none. -/
theorem bind_of_bindings_splitting :
    (splitting.parameters.map Parameter.name).Nodup ∧
      splitting.pattern.bindings ["split", "c", "by", "';'", "many"] =
        .ok (splittingBindings "many") ∧
      splitting.bind (splittingBindings "many") "split c by ';' many" =
        .error (.invalidNumber "limit" "many") := by
  have hnames : (splitting.parameters.map Parameter.name).Nodup := by decide
  have hmatch : splitting.pattern.bindings ["split", "c", "by", "';'", "many"] =
      .ok (splittingBindings "many") := rfl
  refine ⟨hnames, hmatch, ?_⟩
  obtain ⟨-, -, -, herror⟩ := bind_of_bindings hnames hmatch "split c by ';' many"
  rw [herror]
  refine ⟨[⟨"column", .columnName, true⟩, ⟨"separator", .text, false⟩],
    ⟨"limit", .number, false⟩, [], "many", rfl, ?_, rfl, rfl⟩
  simp only [List.forall_mem_cons]
  exact ⟨fun token _ => ⟨_, rfl⟩, fun token _ => ⟨_, rfl⟩, by simp⟩

end Usage

end RowRecipe
