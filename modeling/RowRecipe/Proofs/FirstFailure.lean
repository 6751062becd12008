import RowRecipe.Proofs.Grouping

/-!
# The line that a recipe fails in

A recipe is read twice: first its physical lines are grouped, up to the end, and then the logical
lines are read one after another. So among the lines that are read as directives the first that
fails is reported, and all lines before it are understood. But where the last group is open, that is
all that is reported, whatever the lines before it say.

Main statement: `Registry.exists_before_of_readLines_eq_error`.
-/
namespace RowRecipe

/-- The last line of a recipe goes on, and there is nothing that it goes on in. -/
def RecipeError.IsOpenEnd : RecipeError → Prop
  | .line _ (.openEnd _) => True
  | _ => False

namespace LineOptions
variable {options : LineOptions} {physical : List String} {lines : List LogicalLine}
variable {init rest : List (List (String × Nat))} {group : List (String × Nat)}

/-! ### The lines before a group -/

/-- A line that counts stands in the recipe behind as many lines as its number says. -/
theorem exists_front_of_countedFrom {before after : List (String × Nat)} {line : String × Nat}
    {number : Nat} (h : options.countedFrom number physical = before ++ line :: after) :
    ∃ front back, physical = front ++ line.1 :: back ∧ number + front.length = line.2 ∧
      options.countedFrom number front = before := by
  induction physical generalizing number before with
  | nil => simp [countedFrom] at h
  | cons first physical ih =>
    rw [countedFrom_cons] at h
    split at h
    · next hcounts =>
      cases before with
      | nil =>
        obtain ⟨rfl, -⟩ := List.cons.inj h
        exact ⟨[], physical, rfl, rfl, rfl⟩
      | cons other before =>
        obtain ⟨rfl, hrest⟩ := List.cons.inj h
        obtain ⟨front, back, rfl, hnumber, hfront⟩ := ih hrest
        refine ⟨first :: front, back, rfl, ?_, ?_⟩
        · rw [List.length_cons]
          omega
        · rw [countedFrom_cons, if_pos hcounts, hfront]
    · next hcounts =>
      obtain ⟨front, back, rfl, hnumber, hfront⟩ := ih h
      refine ⟨first :: front, back, rfl, ?_, ?_⟩
      · rw [List.length_cons]
        omega
      · rw [countedFrom_cons, if_neg hcounts, hfront]

/-- The first of some groups are the groups of their lines. -/
theorem groups_flatten {lines : List (String × Nat)} (h : options.groups lines = init ++ rest) :
    options.groups init.flatten = init := by
  have hcut := List.isChain_getLast_head_splitBy
    (fun (line _ : String × Nat) => options.goesOn line.1) lines
  have hmem : ∀ group ∈ init, group ∈ options.groups lines := by
    intro group hgroup
    rw [h]
    exact List.mem_append_left _ hgroup
  refine List.splitBy_flatten ?_ ?_ ?_
  · exact fun hnil => List.nil_notMem_splitBy _ _ (hmem [] hnil)
  · exact fun group hgroup => List.isChain_of_mem_splitBy (hmem group hgroup)
  · change (options.groups lines).IsChain _ at hcut
    rw [h] at hcut
    exact hcut.left_of_append

/-- The physical lines before a group are, on their own, the groups before it. -/
theorem exists_front_of_groups
    (h : options.groups (options.counted physical) = init ++ group :: rest) :
    ∃ front line back, physical = front ++ line :: back ∧
      front.length + 1 = (options.lineOf group).number ∧
      options.logicalLines front = .ok (init.map options.lineOf) := by
  have hcut := options.cutsInto_groups (options.counted physical)
  rw [h] at hcut
  have hends : ∀ group ∈ init, ∀ last ∈ group.getLast?, options.goesOn last.1 = false := by
    intro other hother
    refine hcut.ends other ?_
    rw [List.dropLast_append_cons]
    exact List.mem_append_left _ hother
  obtain ⟨line, others, rfl⟩ : ∃ line others, group = line :: others := by
    refine List.exists_cons_of_ne_nil ?_
    rintro rfl
    exact hcut.ne_nil (by simp)
  have hcounted : options.countedFrom 1 physical =
      init.flatten ++ line :: (others ++ rest.flatten) := by
    have hflatten := hcut.flatten
    rw [List.flatten_append, List.flatten_cons, List.cons_append] at hflatten
    exact hflatten.symm
  obtain ⟨front, back, hphysical, hnumber, hfront⟩ := exists_front_of_countedFrom hcounted
  refine ⟨front, line.1, back, hphysical, ?_, ?_⟩
  · rw [Nat.add_comm, hnumber]
    rfl
  · have hcountedFront : options.counted front = init.flatten := hfront
    have happend := readGroups_append hends []
    rw [List.append_nil] at happend
    rw [logicalLines_eq_readGroups, hcountedFront, groups_flatten h, happend, readGroups]
    simp [Except.map]

theorem map_lineOf_of_readGroups {groups : List (List (String × Nat))}
    (h : options.readGroups groups = .ok lines) : groups.map options.lineOf = lines := by
  induction groups generalizing lines with
  | nil =>
    cases h
    rfl
  | cons group groups ih =>
    rw [readGroups] at h
    split at h
    · cases h
    · obtain ⟨others, hothers, rfl⟩ := map_eq_ok.mp h
      rw [List.map_cons, ih hothers]

theorem exists_group_of_readGroups_eq_error {groups : List (List (String × Nat))}
    {fault : RecipeError} (h : options.readGroups groups = .error fault) :
    ∃ init group rest, groups = init ++ group :: rest ∧
      fault = .line (options.lineOf group) (.openEnd options.marker) := by
  induction groups with
  | nil => cases h
  | cons group groups ih =>
    rw [readGroups] at h
    split at h
    · cases h
      exact ⟨[], group, groups, rfl, rfl⟩
    · obtain ⟨init, opened, rest, rfl, hfault⟩ := ih (map_eq_error.mp h)
      exact ⟨group :: init, opened, rest, rfl, hfault⟩

/-- The physical lines before a logical line are, on their own, the logical lines before it. -/
theorem exists_front_of_logicalLines {before after : List LogicalLine} {line : LogicalLine}
    (h : options.logicalLines physical = .ok (before ++ line :: after)) :
    ∃ front first back, physical = front ++ first :: back ∧ front.length + 1 = line.number ∧
      options.logicalLines front = .ok before := by
  rw [logicalLines_eq_readGroups] at h
  obtain ⟨init, others, hgroups, hbefore, hothers⟩ :=
    List.map_eq_append_iff.mp (map_lineOf_of_readGroups h)
  obtain ⟨group, rest, rfl, rfl, -⟩ := List.map_eq_cons_iff.mp hothers
  rw [← hbefore]
  exact exists_front_of_groups hgroups

/-- The physical lines before a group that is open leave nothing open. -/
theorem exists_front_of_logicalLines_eq_error {fault : RecipeError}
    (h : options.logicalLines physical = .error fault) :
    fault.IsOpenEnd ∧
      ∃ front first back before, physical = front ++ first :: back ∧
        front.length + 1 = fault.number ∧ options.logicalLines front = .ok before := by
  rw [logicalLines_eq_readGroups] at h
  obtain ⟨init, group, rest, hgroups, rfl⟩ := exists_group_of_readGroups_eq_error h
  obtain ⟨front, first, back, hphysical, hnumber, hfront⟩ := exists_front_of_groups hgroups
  exact ⟨trivial, front, first, back, _, hphysical, hnumber, hfront⟩

end LineOptions

/-! ### The line that fails -/

namespace Registry
variable {registry : Registry} {options : LineOptions} {physical : List String}
variable {line : LogicalLine} {fault : RecipeError}

/-- The tokens of a line call an entry, which makes a directive of the arguments in them. -/
def Understands (registry : Registry) (line : LogicalLine) : Prop :=
  ∃ entry values directive, registry.Calls line.text entry values ∧
    entry.configure ⟨values, line.text⟩ = .ok directive

theorem understands_iff : registry.Understands line ↔ ∃ step, registry.bind line = .ok step := by
  constructor
  · rintro ⟨entry, values, directive, hcalls, hdirective⟩
    refine ⟨⟨entry.name, line, ⟨values, line.text⟩, directive⟩, ?_⟩
    exact bind_eq_ok_iff_calls.mpr ⟨entry, values, hcalls, hdirective, rfl, rfl, rfl⟩
  · rintro ⟨step, hstep⟩
    obtain ⟨entry, values, hcalls, hdirective, -⟩ := bind_eq_ok_iff_calls.mp hstep
    exact ⟨entry, values, step.directive, hcalls, hdirective⟩

theorem not_isOpenEnd_of_bind_eq_error (h : registry.bind line = .error fault) :
    ¬fault.IsOpenEnd := by
  rcases bind_eq_error_iff.mp h with
    ⟨failure, -, rfl⟩ | ⟨tokens, -, ⟨-, rfl⟩ | ⟨entry, problem, -, hproblem, rfl⟩⟩
  · exact id
  · exact id
  · unfold bindEntry at hproblem
    split at hproblem
    · cases hproblem
      exact id
    split at hproblem
    · cases hproblem
      exact id
    split at hproblem
    · cases hproblem
      exact id
    · cases hproblem

theorem readLines_eq_error_of_logicalLines (registry : Registry)
    (h : options.logicalLines physical = .error fault) :
    registry.readLines options physical = .error fault := by
  rw [readLines, h]
  rfl

/-- A recipe fails in a line before which all is grouped on its own. It is the first logical line
that the registry does not understand. But a recipe with an open end fails with that, whether a
registry understands the lines before or not. -/
theorem exists_before_of_readLines_eq_error
    (h : registry.readLines options physical = .error fault) :
    ∃ front first back before, physical = front ++ first :: back ∧
      front.length + 1 = fault.number ∧ options.logicalLines front = .ok before ∧
      (¬fault.IsOpenEnd →
        (∀ line ∈ before, registry.Understands line) ∧
          ∃ line after, options.logicalLines physical = .ok (before ++ line :: after) ∧
            registry.bind line = .error fault) ∧
      (fault.IsOpenEnd → ∀ other : Registry, other.readLines options physical = .error fault) := by
  rcases bind_eq_error.mp h with hopen | ⟨lines, hlines, hfails⟩
  · obtain ⟨hfault, front, first, back, before, hphysical, hnumber, hfront⟩ :=
      LineOptions.exists_front_of_logicalLines_eq_error hopen
    exact ⟨front, first, back, before, hphysical, hnumber, hfront, fun hnot => absurd hfault hnot,
      fun _ other => other.readLines_eq_error_of_logicalLines hopen⟩
  · obtain ⟨before, line, after, rfl, hbefore, hline⟩ := exists_first_of_bindAll_eq_error hfails
    obtain ⟨front, first, back, hphysical, hnumber, hfront⟩ :=
      LineOptions.exists_front_of_logicalLines hlines
    have hfault : ¬fault.IsOpenEnd := not_isOpenEnd_of_bind_eq_error hline
    rw [← number_of_bind_eq_error hline] at hnumber
    refine ⟨front, first, back, before, hphysical, hnumber, hfront, fun _ => ⟨?_, ?_⟩,
      fun hopen => absurd hopen hfault⟩
    · exact fun earlier hearlier => understands_iff.mpr (hbefore earlier hearlier)
    · exact ⟨line, after, hlines, hline⟩

/-- The first of two groups is understood, and the second calls what is not there. -/
theorem exists_before_of_readLines_eq_error_unknown :
    let physical := ["# names", "rename \\", "  a b", "", "explode \\", "// c", "c"]
    standard.readLines .standard physical = .error (.unknownDirective 5 "explode") ∧
      LineOptions.standard.logicalLines (physical.take 4) = .ok [⟨2, "rename a b"⟩] ∧
      standard.Understands ⟨2, "rename a b"⟩ := by
  intro physical
  have hlines : LineOptions.standard.logicalLines physical =
      .ok [⟨2, "rename a b"⟩, ⟨5, "explode c"⟩] := rfl
  have hknown : ∃ step, standard.bind ⟨2, "rename a b"⟩ = .ok step :=
    ⟨⟨"rename", ⟨2, "rename a b"⟩,
      ⟨.ofList [("old", .columnName "a"), ("new", .columnName "b")], "rename a b"⟩,
      .builtin (.row (.rename "a" "b"))⟩,
      bind_eq_ok_iff.mpr ⟨["rename", "a", "b"], Catalog.rename, rfl, rfl, rfl, rfl, rfl⟩⟩
  have htokens : tokenize "explode c" = .ok ["explode", "c"] := rfl
  have hunknown : standard.bind ⟨5, "explode c"⟩ = .error (.unknownDirective 5 "explode") :=
    bind_eq_error_iff.mpr (.inr ⟨["explode", "c"], htokens, .inl ⟨rfl, rfl⟩⟩)
  have hfault : standard.readLines .standard physical =
      .error (.unknownDirective 5 "explode") := by
    obtain ⟨step, hstep⟩ := hknown
    rw [readLines_eq_bindAll hlines]
    simp only [bindAll, hstep, hunknown, ok_bind]
    rfl
  obtain ⟨front, first, back, before, hphysical, hnumber, hfront, hearlier, -⟩ :=
    exists_before_of_readLines_eq_error hfault
  have hlength : front.length = 4 := Nat.succ.inj hnumber
  have htake : physical.take 4 = front := by
    rw [hphysical, ← hlength, List.take_left]
  rw [← htake] at hfront
  obtain rfl : [⟨2, "rename a b"⟩] = before := Except.ok.inj hfront
  exact ⟨hfault, hfront, (hearlier id).1 _ List.mem_cons_self⟩

/-- The first line calls what is not there, but the second, which goes on, is reported. -/
theorem readLines_unknown_before_open :
    let physical := ["explode b", "uppercase \\"]
    let fault := RecipeError.line ⟨2, "uppercase"⟩ (.openEnd '\\')
    standard.readLines .standard physical = .error fault ∧ fault.number = 2 ∧
      LineOptions.standard.logicalLines (physical.take 1) = .ok [⟨1, "explode b"⟩] ∧
      standard.bind ⟨1, "explode b"⟩ = .error (.unknownDirective 1 "explode") ∧
      ¬standard.Understands ⟨1, "explode b"⟩ := by
  intro physical fault
  have htokens : tokenize "explode b" = .ok ["explode", "b"] := rfl
  have hunknown : standard.bind ⟨1, "explode b"⟩ = .error (.unknownDirective 1 "explode") :=
    bind_eq_error_iff.mpr (.inr ⟨["explode", "b"], htokens, .inl ⟨rfl, rfl⟩⟩)
  refine ⟨readLines_eq_error_of_logicalLines standard rfl, rfl, rfl, hunknown, ?_⟩
  rw [understands_iff]
  rintro ⟨step, hstep⟩
  cases hunknown.symm.trans hstep

end Registry

end RowRecipe
