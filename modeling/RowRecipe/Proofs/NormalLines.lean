import RowRecipe.Proofs.Numbering

/-!
# Logical lines as physical lines

A logical line may stand in a recipe as it is. It is trimmed, what it begins with is no comment, and
the marker is not behind it, though it may hold markers and comment starts further in. So a recipe
of logical lines is read as the recipe that they come from, each line with its place as its number.

Main statement: `Registry.readLines_map_text`.
-/
namespace RowRecipe

/-- The place of the line with a number among some lines, from one on. -/
def place (lines : List LogicalLine) (number : Nat) : Nat :=
  lines.findIdx (fun line => line.number == number) + 1

section
variable {lines : List LogicalLine}

theorem place_number_getElem (h : lines.Pairwise (·.number < ·.number)) {i : Nat}
    (hi : i < lines.length) : place lines lines[i].number = i + 1 := by
  have hearlier : ∀ j (hji : j < i), (lines[j].number == lines[i].number) = false := by
    intro j hji
    have hlt := List.pairwise_iff_getElem.mp h j i (by omega) hi hji
    simp only [beq_eq_false_iff_ne]
    omega
  have hindex : lines.findIdx (fun line => line.number == lines[i].number) = i := by
    rw [List.findIdx_eq hi]
    exact ⟨beq_self_eq_true _, hearlier⟩
  rw [place, hindex]

theorem map_place_number (h : lines.Pairwise (·.number < ·.number)) :
    lines.map (fun line => place lines line.number) = List.range' 1 lines.length := by
  apply List.ext_getElem
  · simp
  · intro i hi _
    rw [List.length_map] at hi
    rw [List.getElem_map, List.getElem_range', place_number_getElem h hi]
    omega

end

namespace LineOptions
variable {options : LineOptions} {physical : List String} {lines : List LogicalLine}
variable {number : Nat} {pending : Option (Nat × List Char)} {a b : List Char}

theorem isComment_of_prefix (h : a <+: b) (hb : options.isComment b = false) :
    options.isComment a = false := by
  rw [isComment, List.any_eq_false] at hb ⊢
  intro start hstart hprefix
  have hshort := List.isPrefixOf_iff_prefix.mp hprefix
  exact hb start hstart (List.isPrefixOf_iff_prefix.mpr (hshort.trans h))

theorem isComment_joinParts
    (hstarts : ∀ start ∈ options.commentStarts, ∀ c ∈ start.toList, Text.isBlank c = false)
    (ha : a ≠ [] → options.isComment a = false) (hb : b ≠ [] → options.isComment b = false)
    (hne : joinParts a b ≠ []) : options.isComment (joinParts a b) = false := by
  unfold joinParts at hne ⊢
  split_ifs at hne ⊢ with hempty hfirst
  · exact ha hne
  · exact hb hne
  · exact isComment_append hstarts (by decide) (ha hfirst) b

/-- What a line says is no comment, since the line is none. -/
theorem isComment_of_part? {line : String} {part : List Char} {goesOn : Bool}
    (h : options.part? line = some (part, goesOn)) : options.isComment part = false := by
  refine isComment_of_prefix (prefix_of_part? h) ?_
  by_contra hcomment
  have hnone : options.part? line = none := by
    rw [part?, if_pos (.inr (by simpa using hcomment))]
  rw [hnone] at h
  cases h

theorem stands_of_logicalLines
    (hstarts : ∀ start ∈ options.commentStarts, ∀ c ∈ start.toList, Text.isBlank c = false)
    (h : options.logicalLines physical = .ok lines) : ∀ line ∈ lines, options.Stands line.text := by
  have hcomment : ∀ line ∈ lines,
      line.text.toList ≠ [] → options.isComment line.text.toList = false := by
    refine forall_text_of_linesFrom
      (P := fun cs => cs ≠ [] → options.isComment cs = false) ?_ ?_ ?_ (by simp) h
    · exact fun hne => absurd rfl hne
    · exact fun a b => isComment_joinParts hstarts
    · exact fun line _ part goesOn hpart _ => isComment_of_part? hpart
  intro line hline
  have htrimmed := isTrimmed_of_linesFrom (by simp) h line hline
  have hends := ends_of_linesFrom h line hline
  exact ⟨Text.trim_eq_self_iff.mpr htrimmed, ne_empty_of_linesFrom h line hline,
    hcomment line hline hends.ne_nil⟩

/-- Lines that may stand as they are, one behind the other, are read as they are. -/
theorem linesFrom_map_text (hstands : ∀ line ∈ lines, options.Stands line.text)
    (hmarker : ∀ line ∈ lines, line.text.toList.getLast? ≠ some options.marker)
    (hnumbers : lines.map LogicalLine.number = List.range' number lines.length) :
    options.linesFrom number none (lines.map LogicalLine.text) = .ok lines := by
  induction lines generalizing number with
  | nil => rfl
  | cons line lines ih =>
    obtain ⟨hline, hstands⟩ := List.forall_mem_cons.mp hstands
    obtain ⟨hlast, hmarker⟩ := List.forall_mem_cons.mp hmarker
    rw [List.map_cons, List.length_cons, List.range'_succ, List.cons.injEq] at hnumbers
    obtain ⟨hnumber, hnumbers⟩ := hnumbers
    rw [List.map_cons, linesFrom_cons_of_ends (part?_of_stands hline hlast) hline.toList_ne_nil rfl,
      ih hstands hmarker hnumbers, Option.getD_none, joinParts_nil, String.ofList_toList, ← hnumber]
    rfl

end LineOptions

/-- Logical lines that are read as physical ones stay as they are, with their places as numbers. A
recipe of them has the steps of the recipe that they come from, or fails as it does in the line that
it fails in. -/
theorem Registry.readLines_map_text {options : LineOptions} {physical : List String}
    {lines : List LogicalLine}
    (hstarts : ∀ start ∈ options.commentStarts, ∀ c ∈ start.toList, Text.isBlank c = false)
    (h : options.logicalLines physical = .ok lines) :
    lines.map (fun line => place lines line.number) = List.range' 1 lines.length ∧
      options.logicalLines (lines.map LogicalLine.text) =
        .ok (lines.map (·.renumber (place lines))) ∧
      ∀ registry : Registry,
        registry.readLines options (lines.map LogicalLine.text) =
            mapBoth (·.map (·.renumber (place lines))) (·.renumber (place lines))
              (registry.readLines options physical) ∧
          ∀ fault, registry.readLines options physical = .error fault →
            ∃ line ∈ lines, fault.number = line.number := by
  have hplaces := map_place_number (LineOptions.pairwise_number_logicalLines h)
  have hstands := LineOptions.stands_of_logicalLines hstarts h
  have hmarker : ∀ line ∈ lines, line.text.toList.getLast? ≠ some options.marker :=
    fun line hline => (LineOptions.ends_of_linesFrom h line hline).getLast?_ne
  have hlogical : options.logicalLines (lines.map LogicalLine.text) =
      .ok (lines.map (·.renumber (place lines))) := by
    have htexts : (lines.map (·.renumber (place lines))).map LogicalLine.text =
        lines.map LogicalLine.text := by
      rw [List.map_map]
      rfl
    have hnumbers : (lines.map (·.renumber (place lines))).map LogicalLine.number =
        List.range' 1 (lines.map (·.renumber (place lines))).length := by
      rw [List.map_map, List.length_map]
      exact hplaces
    rw [LineOptions.logicalLines, ← htexts]
    exact LineOptions.linesFrom_map_text (List.forall_mem_map.mpr hstands)
      (List.forall_mem_map.mpr hmarker) hnumbers
  refine ⟨hplaces, hlogical, ?_⟩
  intro registry
  rw [readLines_eq_bindAll hlogical, readLines_eq_bindAll h]
  exact ⟨registry.bindAll_renumber (place lines) lines,
    fun fault => exists_number_of_bindAll_eq_error⟩

/-- A directive that goes on, and one that no registry knows, with a marker and a comment in it. -/
theorem Registry.readLines_map_text_unknown :
    let physical := ["// names", "rename \\", "  a b ", "", "bogus # \\", "c\\d"]
    LineOptions.standard.logicalLines ["rename a b", "bogus # c\\d"] =
        .ok [⟨1, "rename a b"⟩, ⟨2, "bogus # c\\d"⟩] ∧
      standard.readLines .standard physical = .error (.unknownDirective 5 "bogus") ∧
      standard.readLines .standard ["rename a b", "bogus # c\\d"] =
        .error (.unknownDirective 2 "bogus") := by
  intro physical
  have hlines : LineOptions.standard.logicalLines physical =
      .ok [⟨2, "rename a b"⟩, ⟨5, "bogus # c\\d"⟩] := rfl
  have hknown : ∃ step, standard.bind ⟨2, "rename a b"⟩ = .ok step :=
    ⟨⟨"rename", ⟨2, "rename a b"⟩,
      ⟨.ofList [("old", .columnName "a"), ("new", .columnName "b")], "rename a b"⟩,
      .builtin (.row (.rename "a" "b"))⟩,
      bind_eq_ok_iff.mpr ⟨["rename", "a", "b"], Catalog.rename, rfl, rfl, rfl, rfl, rfl⟩⟩
  have hunknown : standard.bind ⟨5, "bogus # c\\d"⟩ = .error (.unknownDirective 5 "bogus") := by
    have htokens : tokenize "bogus # c\\d" = .ok ["bogus", "#", "c\\d"] := rfl
    have hentry : standard.get? "bogus" = none := rfl
    simp only [bind, htokens, List.headD_cons, hentry]
  have hfault : standard.readLines .standard physical = .error (.unknownDirective 5 "bogus") := by
    obtain ⟨step, hstep⟩ := hknown
    rw [readLines_eq_bindAll hlines]
    simp only [bindAll, hstep, hunknown, ok_bind]
    rfl
  obtain ⟨-, hlogical, hregistry⟩ :=
    readLines_map_text LineOptions.visible_standard.commentStarts hlines
  have hread := (hregistry standard).1
  rw [hfault] at hread
  exact ⟨hlogical, hfault, hread⟩

end RowRecipe
