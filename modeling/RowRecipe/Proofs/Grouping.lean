import Mathlib.Data.List.SplitBy
import RowRecipe.Proofs.Numbering
import RowRecipe.Proofs.Pieces

/-!
# Logical lines as groups

The lines that count, numbered among all lines, are cut behind each one that does not go on. Each
group is a logical line: it has the number of its first line, and says what its lines say, as far as
they say anything, with a blank between them. If the last line that counts goes on, the last group
is open, and reading the lines fails at it.

Main statement: `LineOptions.logicalLines_eq_groups`. Its proof runs through the physical lines with
the lines of the open group in front of them (`linesFrom_eq_readGroups`).
-/
namespace RowRecipe

theorem isChain_iff_forall_mem_dropLast {α : Type} {P : α → Prop} {entries : List α} :
    entries.IsChain (fun a _ => P a) ↔ ∀ a ∈ entries.dropLast, P a := by
  induction entries with
  | nil => simp
  | cons a entries ih =>
    cases entries with
    | nil => simp
    | cons b entries =>
      rw [List.isChain_cons_cons, ih, List.dropLast_cons_cons, List.forall_mem_cons]

namespace LineOptions

/-- Whether a line goes on in the next line that counts. -/
def goesOn (options : LineOptions) (line : String) : Bool :=
  (Text.trimChars line.toList).getLast? == some options.marker

/-- What a line says, without the marker at its end. -/
def said (options : LineOptions) (line : String) : List Char :=
  if options.goesOn line then Text.dropBlankEnd (Text.trimChars line.toList).dropLast
  else Text.trimChars line.toList

/-- The lines that count, when the first of all lines has some number. -/
def countedFrom (options : LineOptions) (number : Nat) (physical : List String) :
    List (String × Nat) :=
  (physical.zipIdx number).filter fun line => options.counts line.1

/-- The lines that count, with their numbers. -/
def counted (options : LineOptions) (physical : List String) : List (String × Nat) :=
  options.countedFrom 1 physical

/-- The longest groups of lines in which each line but the last goes on. -/
def groups (options : LineOptions) (lines : List (String × Nat)) : List (List (String × Nat)) :=
  lines.splitBy fun line _ => options.goesOn line.1

/-- What the lines of a group say, with a blank between lines that say anything. -/
def joined (options : LineOptions) (group : List (String × Nat)) : List Char :=
  Text.joinWith [' '] ((group.map fun line => options.said line.1).filter (· ≠ []))

/-- The logical line that a group is. -/
def lineOf (options : LineOptions) (group : List (String × Nat)) : LogicalLine :=
  ⟨(group.map Prod.snd).headD 0, String.ofList (options.joined group)⟩

/-- Groups that are the given lines in order, cut behind each line that does not go on. -/
structure CutsInto (options : LineOptions) (lines : List (String × Nat))
    (groups : List (List (String × Nat))) : Prop where
  flatten : groups.flatten = lines
  ne_nil : [] ∉ groups
  goesOn : ∀ group ∈ groups, ∀ line ∈ group.dropLast, options.goesOn line.1 = true
  ends : ∀ group ∈ groups.dropLast, ∀ last ∈ group.getLast?, options.goesOn last.1 = false

section
variable {options : LineOptions} {before rest lines : List (String × Nat)} {line : String × Nat}

theorem cutsInto_groups (options : LineOptions) (lines : List (String × Nat)) :
    options.CutsInto lines (options.groups lines) where
  flatten := List.flatten_splitBy _ lines
  ne_nil := List.nil_notMem_splitBy _ lines
  goesOn := by
    intro group hgroup
    exact isChain_iff_forall_mem_dropLast.mp (List.isChain_of_mem_splitBy hgroup)
  ends := by
    intro group hgroup last hlast
    have hchain := List.isChain_getLast_head_splitBy
      (fun (line _ : String × Nat) => options.goesOn line.1) lines
    have hends := isChain_iff_forall_mem_dropLast.mp <| hchain.imp
      (S := fun a _ => ∀ last ∈ a.getLast?, options.goesOn last.1 = false) <| by
        rintro a b ⟨ha, hb, hab⟩ last hlast
        rwa [List.getLast_of_mem_getLast? hlast] at hab
    exact hends group hgroup last hlast

theorem groups_append_cons (hbefore : ∀ line ∈ before, options.goesOn line.1 = true)
    (hline : options.goesOn line.1 = false) (rest : List (String × Nat)) :
    options.groups (before ++ line :: rest) = (before ++ [line]) :: options.groups rest := by
  have hchain : (before ++ [line]).IsChain fun a _ => options.goesOn a.1 = true :=
    isChain_iff_forall_mem_dropLast.mpr (by simpa using hbefore)
  have hcut : ∀ a ∈ (before ++ [line]).getLast?, ∀ b ∈ rest.head?, options.goesOn a.1 = false := by
    simp [hline]
  rw [List.append_cons, groups, List.splitBy_append hcut,
    List.splitBy_of_isChain (by simp) hchain]
  rfl

theorem groups_of_goesOn (hne : lines ≠ []) (h : ∀ line ∈ lines, options.goesOn line.1 = true) :
    options.groups lines = [lines] := by
  refine List.splitBy_of_isChain hne (isChain_iff_forall_mem_dropLast.mpr ?_)
  exact fun line hline => h line (List.dropLast_subset lines hline)

theorem joined_concat (options : LineOptions) (before : List (String × Nat))
    (line : String × Nat) :
    options.joined (before ++ [line]) =
      joinParts (options.joined before) (options.said line.1) := by
  have hparts : ∀ part ∈ (before.map fun line => options.said line.1).filter (· ≠ []),
      part ≠ [] := by
    simp
  rw [joined, joined, List.map_append, List.filter_append]
  generalize (before.map fun line => options.said line.1).filter (· ≠ []) = parts at hparts
  by_cases hsaid : options.said line.1 = []
  · simp [joinParts, hsaid]
  · have hlast : ([line].map fun line => options.said line.1).filter (· ≠ []) =
        [options.said line.1] := by
      simp [hsaid]
    rw [hlast]
    cases parts with
    | nil => exact (joinParts_nil _).symm
    | cons part parts =>
      have hne := Text.joinWith_ne_nil [' '] hparts (List.cons_ne_nil part parts)
      rw [Text.joinWith_concat _ _ (List.cons_ne_nil part parts), joinParts_of_ne_nil hne hsaid]
      simp

/-! ### Reading the lines -/

/-- The logical lines of groups, up to one that is open. -/
def readGroups (options : LineOptions) :
    List (List (String × Nat)) → Except RecipeError (List LogicalLine)
  | [] => .ok []
  | group :: groups =>
    if ∃ last ∈ group.getLast?, options.goesOn last.1 = true then
      .error (.line (options.lineOf group) (.openEnd options.marker))
    else (options.readGroups groups).map (options.lineOf group :: ·)

theorem readGroups_cons_of_ends {group : List (String × Nat)}
    (h : ∀ last ∈ group.getLast?, options.goesOn last.1 = false)
    (groups : List (List (String × Nat))) :
    options.readGroups (group :: groups) =
      (options.readGroups groups).map (options.lineOf group :: ·) := by
  rw [readGroups, if_neg]
  rintro ⟨last, hlast, hgoesOn⟩
  rw [h last hlast] at hgoesOn
  cases hgoesOn

/-- What is pending while a group is open: its number, and what its lines say. -/
def pendingOf (options : LineOptions) : List (String × Nat) → Option (Nat × List Char)
  | [] => none
  | line :: lines => some (line.2, options.joined (line :: lines))

theorem getD_pendingOf (options : LineOptions) (before : List (String × Nat))
    (line : String × Nat) :
    (options.pendingOf before).getD (line.2, []) =
      ((options.lineOf (before ++ [line])).number, options.joined before) := by
  cases before <;> rfl

theorem pendingOf_concat (options : LineOptions) (before : List (String × Nat))
    (line : String × Nat) :
    options.pendingOf (before ++ [line]) =
      some ((options.lineOf (before ++ [line])).number,
        joinParts (options.joined before) (options.said line.1)) := by
  rw [← joined_concat]
  cases before <;> rfl

theorem part?_eq (options : LineOptions) (line : String) :
    options.part? line =
      if options.counts line then some (options.said line, options.goesOn line) else none := by
  split
  · next hcounts =>
    have hsome : options.part? line ≠ none := by
      rw [Ne, part?_eq_none_iff, hcounts]
      decide
    simp only [part?] at hsome
    simp only [part?, said, goesOn, beq_iff_eq]
    split
    · next h => exact absurd (if_pos h) hsome
    · split <;> simp_all
  · next hcounts => exact part?_eq_none_iff.mpr (by simpa using hcounts)

theorem countedFrom_cons (options : LineOptions) (number : Nat) (line : String)
    (physical : List String) :
    options.countedFrom number (line :: physical) =
      if options.counts line then (line, number) :: options.countedFrom (number + 1) physical
      else options.countedFrom (number + 1) physical := by
  simp only [countedFrom, List.zipIdx_cons, List.filter_cons]

/-- The physical lines are read as the lines that count, those of the open group in front: one that
goes on is one more of them for the lines behind it, and one that ends a group leaves none. -/
theorem linesFrom_eq_readGroups (hbefore : ∀ line ∈ before, options.goesOn line.1 = true)
    (number : Nat) (physical : List String) :
    options.linesFrom number (options.pendingOf before) physical =
      options.readGroups (options.groups (before ++ options.countedFrom number physical)) := by
  induction physical generalizing number before with
  | nil =>
    have hcounted : options.countedFrom number [] = [] := rfl
    rw [hcounted, List.append_nil]
    cases before with
    | nil => rfl
    | cons line before =>
      have hopen : ∃ last ∈ (line :: before).getLast?, options.goesOn last.1 = true :=
        ⟨_, List.getLast?_eq_some_getLast (List.cons_ne_nil line before),
          hbefore _ (List.getLast_mem _)⟩
      rw [groups_of_goesOn (List.cons_ne_nil line before) hbefore, readGroups, if_pos hopen]
      rfl
  | cons line physical ih =>
    have hpart := part?_eq options line
    have hbegun := options.getD_pendingOf before (line, number)
    rw [countedFrom_cons]
    cases hcounts : options.counts line with
    | false => rw [linesFrom_cons_of_not_counts hcounts, ih hbefore, if_neg Bool.false_ne_true]
    | true =>
      rw [hcounts, if_pos rfl] at hpart
      rw [if_pos rfl]
      cases hgoesOn : options.goesOn line with
      | true =>
        have hpending := options.pendingOf_concat before (line, number)
        have hnext : ∀ other ∈ before ++ [(line, number)], options.goesOn other.1 = true :=
          List.forall_mem_append.mpr ⟨hbefore, List.forall_mem_singleton.mpr hgoesOn⟩
        rw [hgoesOn] at hpart
        rw [linesFrom_cons_of_goesOn hpart hbegun, ← hpending, ih hnext, List.append_assoc,
          List.singleton_append]
      | false =>
        have hnone : ∀ other ∈ ([] : List (String × Nat)), options.goesOn other.1 = true := by simp
        have hrest : options.linesFrom (number + 1) none physical =
            options.readGroups (options.groups (options.countedFrom (number + 1) physical)) :=
          ih hnone (number + 1)
        rw [hgoesOn] at hpart
        have hlast : options.goesOn (line, number).1 = false := hgoesOn
        have hgroups := groups_append_cons hbefore hlast (options.countedFrom (number + 1) physical)
        have hends : ∀ last ∈ (before ++ [(line, number)]).getLast?,
            options.goesOn last.1 = false := by
          simp [hgoesOn]
        rw [linesFrom_cons_of_ends hpart (ends_of_part? hpart).ne_nil hbegun, hrest, hgroups,
          readGroups_cons_of_ends hends, lineOf, joined_concat]

theorem logicalLines_eq_readGroups (options : LineOptions) (physical : List String) :
    options.logicalLines physical =
      options.readGroups (options.groups (options.counted physical)) := by
  have hnone : ∀ other ∈ ([] : List (String × Nat)), options.goesOn other.1 = true := by simp
  exact linesFrom_eq_readGroups hnone 1 physical

namespace CutsInto
variable {groups : List (List (String × Nat))} {group : List (String × Nat)}

theorem getLast?_eq (h : options.CutsInto lines (groups ++ [group])) :
    lines.getLast? = group.getLast? := by
  have hne : group ≠ [] := by
    rintro rfl
    exact h.ne_nil (by simp)
  rw [← h.flatten, List.flatten_append, List.flatten_singleton,
    List.getLast?_append_of_ne_nil _ hne]

theorem forall_ends (h : options.CutsInto lines groups)
    (hlast : ∀ last ∈ lines.getLast?, options.goesOn last.1 = false) :
    ∀ group ∈ groups, ∀ last ∈ group.getLast?, options.goesOn last.1 = false := by
  induction groups using List.reverseRecOn with
  | nil => simp
  | append_singleton init group =>
    have hinit := h.ends
    rw [List.dropLast_concat] at hinit
    rw [h.getLast?_eq] at hlast
    rw [List.forall_mem_append, List.forall_mem_singleton]
    exact ⟨hinit, hlast⟩

theorem exists_open (h : options.CutsInto lines groups)
    (hlast : ∃ last ∈ lines.getLast?, options.goesOn last.1 = true) :
    ∃ init group, groups = init ++ [group] ∧
      (∀ group ∈ init, ∀ last ∈ group.getLast?, options.goesOn last.1 = false) ∧
      ∃ last ∈ group.getLast?, options.goesOn last.1 = true := by
  induction groups using List.reverseRecOn with
  | nil =>
    obtain ⟨last, hlast, -⟩ := hlast
    rw [← h.flatten] at hlast
    cases hlast
  | append_singleton init group =>
    have hinit := h.ends
    rw [List.dropLast_concat] at hinit
    rw [h.getLast?_eq] at hlast
    exact ⟨init, group, rfl, hinit, hlast⟩

end CutsInto

theorem readGroups_append {init : List (List (String × Nat))}
    (h : ∀ group ∈ init, ∀ last ∈ group.getLast?, options.goesOn last.1 = false)
    (groups : List (List (String × Nat))) :
    options.readGroups (init ++ groups) =
      (options.readGroups groups).map (init.map options.lineOf ++ ·) := by
  induction init with
  | nil => cases hgroups : options.readGroups groups <;> simp [hgroups, Except.map]
  | cons group init ih =>
    obtain ⟨hgroup, hinit⟩ := List.forall_mem_cons.mp h
    rw [List.cons_append, readGroups_cons_of_ends hgroup, ih hinit]
    cases options.readGroups groups <;> rfl

/-- The logical lines are the groups of the lines that count, unless the last of these lines goes
on: then the last group is open. Their numbers increase, and they are trimmed texts. -/
theorem logicalLines_eq_groups (options : LineOptions) (physical : List String) :
    let lines := options.counted physical
    let groups := options.groups lines
    options.CutsInto lines groups ∧
      ((∃ last ∈ lines.getLast?, options.goesOn last.1 = true) →
        ∃ group ∈ groups.getLast?, options.logicalLines physical =
          .error (.line (options.lineOf group) (.openEnd options.marker))) ∧
      ((∀ last ∈ lines.getLast?, options.goesOn last.1 = false) →
        options.logicalLines physical = .ok (groups.map options.lineOf)) ∧
      ∀ logical, options.logicalLines physical = .ok logical →
        logical.Pairwise (·.number < ·.number) ∧
          ∀ line ∈ logical, line.text ≠ "" ∧ Text.trim line.text = line.text := by
  intro lines groups
  have hcut : options.CutsInto lines groups := options.cutsInto_groups lines
  have hnone : ∀ other ∈ ([] : List (String × Nat)), options.goesOn other.1 = true := by simp
  have hread : options.logicalLines physical = options.readGroups groups :=
    linesFrom_eq_readGroups hnone 1 physical
  refine ⟨hcut, ?_, ?_, ?_⟩
  · intro hlast
    obtain ⟨init, group, hgroups, hinit, hopen⟩ := hcut.exists_open hlast
    refine ⟨group, by simp [hgroups], ?_⟩
    rw [hread, hgroups, readGroups_append hinit, readGroups, if_pos hopen]
    rfl
  · intro hlast
    have happend := readGroups_append (hcut.forall_ends hlast) []
    rw [hread, ← List.append_nil groups, happend, readGroups]
    simp [Except.map]
  · intro logical hlogical
    refine ⟨pairwise_number_logicalLines hlogical, ?_⟩
    intro line hline
    have htrimmed := isTrimmed_of_linesFrom (by simp) hlogical line hline
    exact ⟨ne_empty_of_linesFrom hlogical line hline, Text.trim_eq_self_iff.mpr htrimmed⟩

/-- Comments and blank lines stand among the lines of a directive, two of which say nothing. When
another directive goes on in a comment only, that one is open. -/
theorem logicalLines_eq_groups_scattered :
    let scattered := ["# names", "rename a \\", "", " \\ ", "// to", "\\", "  b  ", "trim b"]
    standard.logicalLines scattered = .ok [⟨2, "rename a b"⟩, ⟨8, "trim b"⟩] ∧
      standard.logicalLines (scattered ++ ["trim \\", "c  \\", "#"]) =
        .error (.line ⟨9, "trim c"⟩ (.openEnd '\\')) := by
  intro scattered
  obtain ⟨-, -, hclosed, -⟩ := logicalLines_eq_groups standard scattered
  obtain ⟨-, hopen, -, -⟩ :=
    logicalLines_eq_groups standard (scattered ++ ["trim \\", "c  \\", "#"])
  obtain ⟨group, hgroup, herror⟩ := hopen ⟨("c  \\", 10), rfl, rfl⟩
  have hgroup : [("trim \\", 9), ("c  \\", 10)] = group := Option.some.inj hgroup
  refine ⟨hclosed ?_, ?_⟩
  · rintro _ ⟨⟩
    rfl
  · rw [herror, ← hgroup]
    rfl

end

end LineOptions

end RowRecipe
