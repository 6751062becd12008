import RowRecipe.Proofs.Binding
import RowRecipe.Proofs.Greedy

/-!
# Usages that are extended

A group that is put behind a pattern is tried when no tokens are left. Of no tokens it takes none,
whether it matches them, as groups in a group do, or fails at a word or an argument. So tokens that
match a pattern match it with the group behind it, and bind the same. A directive whose usage is
extended in this way takes the lines that it took, and has the same arguments there if the new
parameters have names of their own.

Main statement: `Pattern.bindings_append_group`.
-/
namespace RowRecipe

theorem takeAll_append_group {pattern : List PatternToken} {tokens : List String}
    {bound : List (String × String)} (h : takeAll pattern tokens = .ok (bound, []))
    (group : List PatternToken) :
    takeAll (pattern ++ [.optional group]) tokens = .ok (bound, []) := by
  have hgroup : takeAll [.optional group] [] = .ok ([], []) := by
    rw [takeAll_single, PatternToken.take_optional_nil]
  rw [takeAll_append, h, ok_bind]
  simp only [hgroup, ok_bind, List.append_nil]
  rfl

theorem Pattern.bindings_append_optional {pattern : Pattern} {tokens : List String}
    {bindings : Bindings} (h : pattern.bindings tokens = .ok bindings)
    (group : List PatternToken) :
    Pattern.bindings (pattern ++ [.optional group]) tokens = .ok bindings := by
  obtain ⟨⟨bound, rest⟩, htaken, hrest⟩ := bind_eq_ok.mp h
  cases rest with
  | cons extra rest => cases hrest
  | nil =>
    rw [Pattern.bindings, takeAll_append_group htaken group]
    exact hrest

/-! ### Usages -/

theorem patternTokens_append (a b : List UsageToken) :
    patternTokens (a ++ b) = patternTokens a ++ patternTokens b := by
  induction a with
  | nil => rfl
  | cons token a ih => simp only [List.cons_append, patternTokens, ih]

theorem parametersOf_append (required : Bool) (a b : List UsageToken) :
    parametersOf required (a ++ b) = parametersOf required a ++ parametersOf required b := by
  induction a with
  | nil => rfl
  | cons token a ih => simp only [List.cons_append, parametersOf, ih, List.append_assoc]

theorem declaredTokens_append (a b : List Declaration) :
    declaredTokens (a ++ b) = declaredTokens a ++ declaredTokens b := by
  induction a with
  | nil => rfl
  | cons declaration a ih => simp only [List.cons_append, declaredTokens, ih, List.append_assoc]

namespace Usage
variable {bindings : Bindings} {parameters others : List Parameter} {values : SortedMap Argument}

/-- Parameters that may be missing, and are, add nothing to what is read. -/
theorem bindParameters_of_unbound
    (h : ∀ parameter ∈ others, parameter.required = false ∧ bindings.get? parameter.name = none) :
    bindParameters bindings others values = .ok values := by
  induction others with
  | nil => rfl
  | cons parameter others ih =>
    obtain ⟨⟨hrequired, hunbound⟩, hothers⟩ := List.forall_mem_cons.mp h
    simp only [bindParameters, hunbound, hrequired, Bool.false_eq_true, if_false]
    exact ih hothers

theorem bindParameters_append_of_unbound
    (h : ∀ parameter ∈ others, parameter.required = false ∧ bindings.get? parameter.name = none) :
    bindParameters bindings (parameters ++ others) values =
      bindParameters bindings parameters values := by
  induction parameters generalizing values with
  | nil => exact bindParameters_of_unbound h
  | cons parameter parameters ih =>
    simp only [List.cons_append, bindParameters, ih]

variable {directive line : String} {declarations inner : List Declaration} {tokens : List String}

/-- A group that is declared behind a usage stands behind it, unless there is nothing in it. -/
theorem declare_optional (directive : String) (declarations inner : List Declaration) :
    declare directive (declarations ++ [.optional inner]) =
      if declaredTokens inner = [] then declare directive declarations
      else ⟨directive, declaredTokens declarations ++ [.optional (declaredTokens inner)]⟩ := by
  simp only [declare, declaredTokens_append, declaredTokens, Declaration.tokens]
  cases declaredTokens inner with
  | nil => simp
  | cons token rest => simp

theorem bindings_declare_optional
    (h : (declare directive declarations).pattern.bindings tokens = .ok bindings)
    (inner : List Declaration) :
    (declare directive (declarations ++ [.optional inner])).pattern.bindings tokens =
      .ok bindings := by
  rw [declare_optional]
  split
  · exact h
  · have hpattern : pattern
        ⟨directive, declaredTokens declarations ++ [.optional (declaredTokens inner)]⟩ =
          (declare directive declarations).pattern ++
            [.optional (patternTokens (declaredTokens inner))] := by
      rw [pattern, patternTokens_append]
      rfl
    rw [hpattern]
    exact Pattern.bindings_append_optional h _

theorem bind_declare_optional
    (h : (declare directive declarations).pattern.bindings tokens = .ok bindings)
    (hnames : ∀ parameter ∈ parametersOf false (declaredTokens inner),
      parameter.name ∉ (declare directive declarations).parameters.map Parameter.name) :
    (declare directive (declarations ++ [.optional inner])).bind bindings line =
      (declare directive declarations).bind bindings line := by
  rw [declare_optional]
  split
  · rfl
  · have hparameters : parameters
        ⟨directive, declaredTokens declarations ++ [.optional (declaredTokens inner)]⟩ =
          (declare directive declarations).parameters ++
            parametersOf false (declaredTokens inner) := by
      rw [parameters, parametersOf_append]
      simp only [parametersOf, UsageToken.parameters, List.append_nil]
      rfl
    rw [bind, bind, hparameters, bindParameters_append_of_unbound]
    intro parameter hparameter
    refine ⟨required_eq_false_of_mem hparameter, ?_⟩
    by_contra hbound
    obtain ⟨token, htoken⟩ := Option.ne_none_iff_exists'.mp hbound
    obtain ⟨other, hother, hname⟩ := exists_parameter_of_bindings h htoken
    exact hnames parameter hparameter (hname ▸ List.mem_map_of_mem hother)

end Usage

namespace Pattern

/-- Tokens that match a pattern match it with any group behind it, and bind the same. A usage that
is extended by a group takes the tokens that it took, and makes the same arguments of them if the
parameters of the group have names that it had not. -/
theorem bindings_append_group {pattern : Pattern} {tokens : List String} {bindings : Bindings}
    (h : pattern.bindings tokens = .ok bindings) :
    (∀ group, Pattern.bindings (pattern ++ [.optional group]) tokens = .ok bindings) ∧
    ∀ directive declarations inner, (Usage.declare directive declarations).pattern = pattern →
      let extended := Usage.declare directive (declarations ++ [.optional inner])
      extended.pattern.bindings tokens = .ok bindings ∧
      ((∀ parameter ∈ parametersOf false (declaredTokens inner),
          parameter.name ∉ (Usage.declare directive declarations).parameters.map Parameter.name) →
        ∀ line, extended.bind bindings line =
          (Usage.declare directive declarations).bind bindings line) := by
  refine ⟨bindings_append_optional h, ?_⟩
  rintro directive declarations inner rfl
  exact ⟨Usage.bindings_declare_optional h inner,
    fun hnames line => Usage.bind_declare_optional h hnames⟩

/-- Declares what is copied, and where to if that is said. -/
def copyingDeclarations : List Declaration :=
  [.define "source" .columnName, .optional [.keyword "to", .define "target" .columnName]]

def copyingBindings : Bindings :=
  .ofList [("source", "a"), ("target", "b")]

/-- The usage is extended by groups in a group. These fail, at a word and at an argument, and the
group around them takes nothing. -/
theorem bindings_append_group_copying :
    let usage := Usage.declare "copying" copyingDeclarations
    let extended := Usage.declare "copying" (copyingDeclarations ++
      [.optional [.optional [.keyword "as", .define "type" .identifier],
        .defineOptional "force" .boolean]])
    usage.pattern.bindings ["copying", "a", "to", "b"] = .ok copyingBindings ∧
      Pattern.bindings (usage.pattern ++ [.optional [.literal "as", .argument "type"]])
        ["copying", "a", "to", "b"] = .ok copyingBindings ∧
      extended.pattern.bindings ["copying", "a", "to", "b"] = .ok copyingBindings ∧
      extended.bind copyingBindings "copying a to b" =
        .ok ⟨.ofList [("source", .columnName "a"), ("target", .columnName "b")],
          "copying a to b"⟩ := by
  intro usage extended
  have hmatch : usage.pattern.bindings ["copying", "a", "to", "b"] = .ok copyingBindings := rfl
  obtain ⟨hgroup, hextended⟩ := bindings_append_group hmatch
  obtain ⟨hbindings, hbind⟩ := hextended "copying" copyingDeclarations
    [.optional [.keyword "as", .define "type" .identifier], .defineOptional "force" .boolean] rfl
  refine ⟨hmatch, hgroup _, hbindings, ?_⟩
  rw [hbind (by decide)]
  rfl

end Pattern

end RowRecipe
