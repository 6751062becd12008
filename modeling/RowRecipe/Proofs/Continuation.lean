import Mathlib.Data.List.Forall2
import RowRecipe.Proofs.SameTokens
import RowRecipe.Proofs.Tokenizing
import RowRecipe.Proofs.Trimming

/-!
# Directives over several lines

A directive may be cut between tokens into pieces that stand in a line each, all but the last with
the marker behind them. Whatever blank lines and comments are put among those lines, one logical
line comes out, and it says what the pieces say in one physical line.

Main statement: `Registry.readLines_continued`.
-/
namespace RowRecipe

/-- A line in which pieces stand one behind the other, with blanks between them. -/
inductive OnOneLine : List String → String → Prop where
  | single (piece : String) : OnOneLine [piece] piece
  | more {pieces : List String} {gap line : String} (piece : String) (hne : gap ≠ "")
      (hgap : Text.isBlankText gap = true) (h : OnOneLine pieces line) :
      OnOneLine (piece :: pieces) (piece ++ gap ++ line)

namespace LineOptions

/-- No blank is part of the marker or of what comments begin with. -/
structure Visible (options : LineOptions) : Prop where
  commentStarts : ∀ start ∈ options.commentStarts, ∀ c ∈ start.toList, Text.isBlank c = false
  marker : Text.isBlank options.marker = false

theorem visible_standard : standard.Visible where
  commentStarts := by
    have h : standard.commentStarts.all (fun start => start.toList.all (!Text.isBlank ·)) = true :=
      rfl
    simpa using h
  marker := rfl

/-- A line that is neither blank nor a comment. -/
def counts (options : LineOptions) (line : String) : Bool :=
  !(Text.isBlankText line || options.isComment (Text.trimChars line.toList))

/-- A piece of a directive that may stand in a line of its own. -/
structure Stands (options : LineOptions) (piece : String) : Prop where
  trimmed : Text.trim piece = piece
  ne_empty : piece ≠ ""
  not_comment : options.isComment piece.toList = false

/-- The lines of a directive in pieces. All but the last go on. -/
def continued (options : LineOptions) : List String → List String
  | [] => []
  | [piece] => [piece]
  | piece :: next :: pieces =>
    (piece ++ " " ++ String.singleton options.marker) :: options.continued (next :: pieces)

end LineOptions

theorem onOneLine_join : ∀ {pieces : List String}, pieces ≠ [] →
    OnOneLine pieces (Text.join " " pieces)
  | [piece], _ => by
    rw [Text.join_single]
    exact .single piece
  | piece :: next :: pieces, _ => by
    rw [Text.join_cons_cons]
    exact .more piece (by decide) (by decide) (onOneLine_join (List.cons_ne_nil _ _))

namespace LineOptions
variable {options : LineOptions} {pieces physical : List String} {piece line : String}
variable {cs : List Char}

theorem Stands.isTrimmed (h : options.Stands piece) : Text.IsTrimmed piece.toList := by
  rw [← Text.trim_eq_self_iff, h.trimmed]

theorem Stands.toList_ne_nil (h : options.Stands piece) : piece.toList ≠ [] := by
  simpa using h.ne_empty

theorem part?_eq_none_iff : options.part? line = none ↔ options.counts line = false := by
  have hblank : Text.isBlankText line = true ↔ Text.trimChars line.toList = [] := by
    rw [Text.isBlankText, List.all_eq_true, Text.trimChars_eq_nil_iff]
  rw [counts, Bool.not_eq_false', Bool.or_eq_true, hblank, part?]
  split
  · next h => simp [h]
  · next h =>
    simp only [h, iff_false]
    split <;> simp

/-- What follows a blank does not make a comment. -/
theorem isComment_append
    (hstarts : ∀ start ∈ options.commentStarts, ∀ c ∈ start.toList, Text.isBlank c = false)
    {c : Char} (hc : Text.isBlank c = true) (hcs : options.isComment cs = false)
    (rest : List Char) : options.isComment (cs ++ c :: rest) = false := by
  rw [isComment, List.any_eq_false] at hcs ⊢
  intro start hstart hprefix
  have hblank : c ∉ start.toList := by
    intro hmem
    rw [hstarts start hstart c hmem] at hc
    cases hc
  have hwhole : cs ++ [c] <+: cs ++ c :: rest := by simp
  rcases List.prefix_or_prefix_of_prefix (List.isPrefixOf_iff_prefix.mp hprefix) hwhole with
    hshort | hlong
  · rcases List.prefix_concat_iff.mp hshort with heq | hshort
    · exact hblank (heq ▸ by simp)
    · exact hcs start hstart (List.isPrefixOf_iff_prefix.mpr hshort)
  · exact hblank (hlong.subset (by simp))

theorem part?_of_stands (hstands : options.Stands piece)
    (hmarker : piece.toList.getLast? ≠ some options.marker) :
    options.part? piece = some (piece.toList, false) := by
  simp only [part?, Text.trimChars_eq_self_iff.mpr hstands.isTrimmed]
  rw [if_neg (by simp [hstands.ne_empty, hstands.not_comment]), if_neg hmarker]

theorem part?_marked (hvisible : options.Visible) (hstands : options.Stands piece) :
    options.part? (piece ++ " " ++ String.singleton options.marker) =
      some (piece.toList, true) := by
  have hchars : (piece ++ " " ++ String.singleton options.marker).toList =
      piece.toList ++ ' ' :: [options.marker] := by
    simp
  have htrimmed : Text.IsTrimmed (piece.toList ++ [' '] ++ [options.marker]) :=
    hstands.isTrimmed.append ⟨by simp [hvisible.marker], by simp [hvisible.marker]⟩
      hstands.toList_ne_nil (by simp) [' ']
  have hcomment := isComment_append hvisible.commentStarts (c := ' ') (by decide)
    hstands.not_comment [options.marker]
  rw [List.append_assoc, List.singleton_append] at htrimmed
  simp only [part?, hchars, Text.trimChars_eq_self_iff.mpr htrimmed]
  rw [if_neg (by simp [hcomment]), if_pos (by simp)]
  have hdrop : (piece.toList ++ ' ' :: [options.marker]).dropLast = piece.toList ++ [' '] := by
    simp
  rw [hdrop, Text.dropBlankEnd_append hstands.isTrimmed.2 (List.forall_mem_singleton.mpr rfl)]

/-! ### The logical line -/

theorem joinParts_nil (cs : List Char) : joinParts [] cs = cs := by
  rw [joinParts]
  split
  · next h => exact h.symm
  · rfl

theorem joinParts_of_ne_nil {a b : List Char} (ha : a ≠ []) (hb : b ≠ []) :
    joinParts a b = a ++ ' ' :: b := by
  rw [joinParts, if_neg hb, if_neg ha]

theorem joinParts_ne_nil {b : List Char} (a : List Char) (hb : b ≠ []) : joinParts a b ≠ [] := by
  rw [joinParts, if_neg hb]
  split <;> simp [hb]

theorem joinParts_assoc (a b c : List Char) :
    joinParts (joinParts a b) c = joinParts a (joinParts b c) := by
  unfold joinParts
  split_ifs <;> simp_all

section
variable {part : List Char} {number : Nat} {pending : Option (Nat × List Char)}

theorem linesFrom_cons_of_not_counts (h : options.counts line = false) :
    options.linesFrom number pending (line :: physical) =
      options.linesFrom (number + 1) pending physical := by
  rw [linesFrom, part?_eq_none_iff.mpr h]

theorem linesFrom_cons_of_goesOn (h : options.part? line = some (part, true))
    {begun : Nat × List Char} (hbegun : pending.getD (number, []) = begun) :
    options.linesFrom number pending (line :: physical) =
      options.linesFrom (number + 1) (some (begun.1, joinParts begun.2 part)) physical := by
  rw [linesFrom, h, hbegun]
  simp only [if_true]

theorem linesFrom_cons_of_ends (h : options.part? line = some (part, false)) (hne : part ≠ [])
    {begun : Nat × List Char} (hbegun : pending.getD (number, []) = begun) :
    options.linesFrom number pending (line :: physical) =
      (options.linesFrom (number + 1) none physical).map
        (⟨begun.1, String.ofList (joinParts begun.2 part)⟩ :: ·) := by
  rw [linesFrom, h, hbegun]
  simp only [Bool.false_eq_true, if_false, joinParts_ne_nil begun.2 hne]

theorem linesFrom_of_not_counts (h : ∀ line ∈ physical, options.counts line = false) :
    options.linesFrom number none physical = .ok [] := by
  induction physical generalizing number with
  | nil => rfl
  | cons line physical ih =>
    obtain ⟨hline, hrest⟩ := List.forall_mem_cons.mp h
    rw [linesFrom_cons_of_not_counts hline, ih hrest]

end

end LineOptions

namespace OnOneLine
variable {options : LineOptions} {pieces : List String} {line : String}
variable {tokens : List (List String)}

theorem ne_nil (h : OnOneLine pieces line) : pieces ≠ [] := by
  cases h <;> exact List.cons_ne_nil _ _

/-- The tokens of a line are those of the pieces in it. -/
theorem tokenize_eq (h : OnOneLine pieces line)
    (htokens : List.Forall₂ (fun piece own => tokenize piece = .ok own) pieces tokens) :
    tokenize line = .ok tokens.flatten := by
  induction h generalizing tokens with
  | single piece =>
    obtain ⟨own, rest, hown, hrest, rfl⟩ := List.forall₂_cons_left_iff.mp htokens
    obtain rfl := List.forall₂_nil_left_iff.mp hrest
    simpa using hown
  | more piece hne hgap h ih =>
    obtain ⟨own, rest, hown, hrest, rfl⟩ := List.forall₂_cons_left_iff.mp htokens
    rw [tokenize_append_gap hown hne hgap, ih hrest, mapBoth_ok, List.flatten_cons]

/-- Pieces that may stand in lines of their own may stand in one. -/
theorem stands (h : OnOneLine pieces line) (hvisible : options.Visible)
    (hstands : ∀ piece ∈ pieces, options.Stands piece) : options.Stands line := by
  induction h with
  | single piece => exact hstands piece List.mem_cons_self
  | @more pieces gap line piece hne hgap h ih =>
    obtain ⟨hpiece, hrest⟩ := List.forall_mem_cons.mp hstands
    have hline := ih hrest
    have htrimmed := hpiece.isTrimmed.append hline.isTrimmed hpiece.toList_ne_nil
      hline.toList_ne_nil gap.toList
    refine ⟨?_, ?_, ?_⟩
    · rw [Text.trim_eq_self_iff]
      simpa using htrimmed
    · simp [hpiece.ne_empty]
    · cases hchars : gap.toList with
      | nil => exact absurd (String.toList_eq_nil_iff.mp hchars) hne
      | cons c rest =>
        rw [Text.isBlankText, hchars, List.all_eq_true] at hgap
        have hcomment := LineOptions.isComment_append hvisible.commentStarts
          (hgap c List.mem_cons_self) hpiece.not_comment (rest ++ line.toList)
        simpa [hchars] using hcomment

theorem getLast?_ne (h : OnOneLine pieces line) (hvisible : options.Visible)
    (hstands : ∀ piece ∈ pieces, options.Stands piece) {c : Char}
    (hlast : ∀ piece ∈ pieces.getLast?, piece.toList.getLast? ≠ some c) :
    line.toList.getLast? ≠ some c := by
  induction h with
  | single piece => exact hlast piece rfl
  | @more pieces gap line piece hne hgap h ih =>
    obtain ⟨hpiece, hrest⟩ := List.forall_mem_cons.mp hstands
    rw [List.getLast?_cons_of_ne_nil h.ne_nil] at hlast
    rw [String.toList_append,
      List.getLast?_append_of_ne_nil _ (h.stands hvisible hrest).toList_ne_nil]
    exact ih hrest hlast

end OnOneLine

namespace LineOptions
variable {options : LineOptions} {pieces physical : List String}

theorem joinParts_join {piece next : String} (hvisible : options.Visible)
    (hpiece : options.Stands piece) (hstands : ∀ piece ∈ next :: pieces, options.Stands piece)
    (text : List Char) :
    joinParts (joinParts text piece.toList) (Text.join " " (next :: pieces)).toList =
      joinParts text (Text.join " " (piece :: next :: pieces)).toList := by
  have hnext := (onOneLine_join (List.cons_ne_nil next pieces)).stands hvisible hstands
  rw [joinParts_assoc, joinParts_of_ne_nil hpiece.toList_ne_nil hnext.toList_ne_nil,
    Text.join_cons_cons]
  simp

theorem continued_ne_nil (hne : pieces ≠ []) : options.continued pieces ≠ [] := by
  match pieces with
  | [] => exact absurd rfl hne
  | [_] => exact List.cons_ne_nil _ _
  | _ :: _ :: _ => exact List.cons_ne_nil _ _

/-- The lines of a directive in pieces, with lines among them that do not count, go on in the text
that has begun, or begin one in the first line that counts. For the lines behind it, a piece that
goes on is part of what has begun. -/
theorem linesFrom_continued (hvisible : options.Visible) (hne : pieces ≠ [])
    (hstands : ∀ piece ∈ pieces, options.Stands piece)
    (hlast : ∀ piece ∈ pieces.getLast?, piece.toList.getLast? ≠ some options.marker)
    (hphysical : physical.filter options.counts = options.continued pieces) {number : Nat}
    {pending : Option (Nat × List Char)} {begun : Nat × List Char}
    (hbegun : pending.getD (number + physical.findIdx options.counts, []) = begun) :
    options.linesFrom number pending physical =
      .ok [⟨begun.1, String.ofList (joinParts begun.2 (Text.join " " pieces).toList)⟩] := by
  induction physical generalizing number pending pieces begun with
  | nil => exact absurd hphysical.symm (continued_ne_nil hne)
  | cons line physical ih =>
    cases hcounts : options.counts line with
    | false =>
      rw [List.filter_cons_of_neg (by simp [hcounts])] at hphysical
      rw [List.findIdx_cons, hcounts, cond_false, Nat.add_comm _ 1, ← Nat.add_assoc] at hbegun
      rw [linesFrom_cons_of_not_counts hcounts, ih hne hstands hlast hphysical hbegun]
    | true =>
      rw [List.filter_cons_of_pos hcounts] at hphysical
      rw [List.findIdx_cons, hcounts, cond_true, Nat.add_zero] at hbegun
      match pieces with
      | [] => exact absurd rfl hne
      | [piece] =>
        obtain ⟨rfl, hrest⟩ := List.cons.inj hphysical
        have hpiece := hstands line List.mem_cons_self
        have hothers : ∀ other ∈ physical, options.counts other = false := by
          simpa using List.filter_eq_nil_iff.mp hrest
        rw [linesFrom_cons_of_ends (part?_of_stands hpiece (hlast line rfl)) hpiece.toList_ne_nil
          hbegun, linesFrom_of_not_counts hothers, Text.join_single]
        rfl
      | piece :: next :: pieces =>
        obtain ⟨rfl, hrest⟩ := List.cons.inj hphysical
        obtain ⟨hpiece, hstands⟩ := List.forall_mem_cons.mp hstands
        rw [linesFrom_cons_of_goesOn (part?_marked hvisible hpiece) hbegun,
          ih (List.cons_ne_nil next pieces) hstands hlast hrest rfl, Option.getD_some,
          joinParts_join hvisible hpiece hstands]

theorem logicalLines_continued (hvisible : options.Visible) (hne : pieces ≠ [])
    (hstands : ∀ piece ∈ pieces, options.Stands piece)
    (hlast : ∀ piece ∈ pieces.getLast?, piece.toList.getLast? ≠ some options.marker)
    (hphysical : physical.filter options.counts = options.continued pieces) :
    options.logicalLines physical =
      .ok [⟨physical.findIdx options.counts + 1, Text.join " " pieces⟩] := by
  rw [logicalLines, linesFrom_continued hvisible hne hstands hlast hphysical rfl,
    Option.getD_none, joinParts_nil, String.ofList_toList, Nat.add_comm]

theorem logicalLines_single {line : String} (hvisible : options.Visible)
    (hstands : options.Stands line) (hmarker : line.toList.getLast? ≠ some options.marker) :
    options.logicalLines [line] = .ok [⟨1, line⟩] := by
  have hcounts : options.counts line = true := by
    rw [← Bool.not_eq_false, ← part?_eq_none_iff, part?_of_stands hstands hmarker]
    simp
  have hphysical : [line].filter options.counts = options.continued [line] :=
    List.filter_cons_of_pos hcounts
  have hlines := logicalLines_continued hvisible (List.cons_ne_nil line [])
    (by simpa using hstands) (by simpa using hmarker) hphysical
  rwa [List.findIdx_cons, hcounts, cond_true, Text.join_single] at hlines

end LineOptions

/-- A directive that is cut between tokens over several lines, with blank lines and comments among
them, is one logical line with the number of its first line and the tokens of the pieces. It calls
what the pieces call in one physical line, and makes the same step of it. -/
theorem Registry.readLines_continued {options : LineOptions} {pieces physical : List String}
    {tokens : List (List String)} (hvisible : options.Visible) (hne : pieces ≠ [])
    (hstands : ∀ piece ∈ pieces, options.Stands piece)
    (htokens : List.Forall₂ (fun piece own => tokenize piece = .ok own) pieces tokens)
    (hlast : ∀ piece ∈ pieces.getLast?, piece.toList.getLast? ≠ some options.marker)
    (hphysical : physical.filter options.counts = options.continued pieces) :
    options.logicalLines physical =
        .ok [⟨physical.findIdx options.counts + 1, Text.join " " pieces⟩] ∧
      tokenize (Text.join " " pieces) = .ok tokens.flatten ∧
      ∀ line, OnOneLine pieces line →
        options.logicalLines [line] = .ok [⟨1, line⟩] ∧
        tokenize line = .ok tokens.flatten ∧
        ∀ registry : Registry,
          (∀ entry values, registry.Calls (Text.join " " pieces) entry values ↔
            registry.Calls line entry values) ∧
          (registry.IsByValues →
            registry.readLines options [line] =
              mapBoth (·.map (·.moveTo ⟨1, line⟩)) (·.moveTo ⟨1, line⟩)
                (registry.readLines options physical)) := by
  have hlogical := LineOptions.logicalLines_continued hvisible hne hstands hlast hphysical
  have hjoined : tokenize (Text.join " " pieces) = .ok tokens.flatten :=
    (onOneLine_join hne).tokenize_eq htokens
  refine ⟨hlogical, hjoined, ?_⟩
  intro line hline
  have hsingle := LineOptions.logicalLines_single hvisible (hline.stands hvisible hstands)
    (hline.getLast?_ne hvisible hstands hlast)
  have htokenize : tokenize line = .ok tokens.flatten := hline.tokenize_eq htokens
  refine ⟨hsingle, htokenize, ?_⟩
  intro registry
  refine ⟨fun entry values => Registry.calls_congr (hjoined.trans htokenize.symm), ?_⟩
  intro hregistry
  have hmove := bind_move hregistry ⟨physical.findIdx options.counts + 1, Text.join " " pieces⟩
    ⟨1, line⟩ hjoined htokenize
  rw [readLines_eq_map hlogical, readLines_eq_map hsingle, hmove]
  cases registry.bind ⟨physical.findIdx options.counts + 1, Text.join " " pieces⟩ <;> rfl

/-- A piece ends with the marker itself, and blank lines and a comment follow it. -/
theorem Registry.readLines_continued_backslash :
    let physical := ["// slashes", "find-and-replace name \\ \\", "", "  # for", "'# 1'"]
    let line := "find-and-replace name \\ \t'# 1'"
    LineOptions.standard.logicalLines physical =
        .ok [⟨2, "find-and-replace name \\ '# 1'"⟩] ∧
      tokenize line = .ok ["find-and-replace", "name", "\\", "# 1"] ∧
      standard.readLines .standard [line] =
        mapBoth (·.map (·.moveTo ⟨1, line⟩)) (·.moveTo ⟨1, line⟩)
          (standard.readLines .standard physical) := by
  intro physical line
  have hstands : ∀ piece ∈ ["find-and-replace name \\", "'# 1'"],
      LineOptions.standard.Stands piece := by
    simp only [List.forall_mem_cons]
    exact ⟨⟨rfl, by decide, rfl⟩, ⟨rfl, by decide, rfl⟩, by simp⟩
  have htokens : List.Forall₂ (fun piece own => tokenize piece = .ok own)
      ["find-and-replace name \\", "'# 1'"] [["find-and-replace", "name", "\\"], ["# 1"]] :=
    .cons rfl (.cons rfl .nil)
  have hphysical : physical.filter LineOptions.standard.counts =
      LineOptions.standard.continued ["find-and-replace name \\", "'# 1'"] := rfl
  have hgap : Text.isBlankText " \t" = true := by decide
  obtain ⟨hlogical, -, hline⟩ := Registry.readLines_continued LineOptions.visible_standard
    (List.cons_ne_nil _ _) hstands htokens (by simp [LineOptions.standard]) hphysical
  obtain ⟨-, htokenize, hregistry⟩ := hline line (.more _ (by decide) hgap (.single _))
  exact ⟨hlogical, htokenize, (hregistry standard).2 isByValues_standard⟩

end RowRecipe
