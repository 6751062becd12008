import RowRecipe.Proofs.Delimiters

/-!
# The line that the delimiter is told by

The records of a text begin behind the line feeds at its front, but the delimiter is told by the
first line, which is empty there. So a text behind line feeds is read as the text with a semicolon
is, and like the text itself if that has no other delimiter. A byte order mark is taken off only at
the very front of a text, so behind line feeds it is a character like any other.

Main statement: `Csv.ingest_lineFeeds`.
-/
namespace RowRecipe

/-- The delimiter, the columns and the rows of a text. -/
def Csv.ingest (content : String) : Except CsvError (Char × List String × List Row) :=
  (parse content (detectDelimiter content)).map fun table => (detectDelimiter content, table)

/-- Bytes are read by reading their text. -/
theorem readTable_eq_ingest (bytes : List UInt8) :
    readTable bytes = (Encoding.detect bytes).map fun encoding =>
      (Csv.ingest (Encoding.decode encoding bytes)).map fun (delimiter, headers, rows) =>
        ⟨encoding, delimiter, headers, rows⟩ := by
  rw [readTable]
  refine congrFun (congrArg Option.map (funext fun encoding => ?_)) _
  simp only [Csv.ingest]
  generalize Encoding.decode encoding bytes = content
  generalize Csv.detectDelimiter content = delimiter
  cases Csv.parse content delimiter <;> rfl

namespace Csv

section
variable {delimiter : UInt8} {mark other start begun : Mark} {mode : Mode} {draft : Draft}
variable {fields : List (List UInt8)} {field bytes : List UInt8} {cs : List Char}

/-! ### Records behind line feeds -/

/-- The fields of records do not depend on where these begin. -/
theorem map_fields_recordsFrom :
    (recordsFrom delimiter mark mode ⟨start, fields, field⟩ bytes).map Record.fields =
      (recordsFrom delimiter other mode ⟨begun, fields, field⟩ bytes).map Record.fields := by
  induction bytes generalizing mark other mode start begun fields field with
  | nil =>
    rw [recordsFrom, recordsFrom]
    split <;> rfl
  | cons b bytes ih =>
    cases hrole : role delimiter mode b with
    | mk part next =>
      cases part with
      | content =>
        rw [recordsFrom_of_content hrole, recordsFrom_of_content hrole]
        exact ih
      | nothing =>
        rw [recordsFrom_of_nothing hrole, recordsFrom_of_nothing hrole]
        exact ih
      | fieldEnd =>
        rw [recordsFrom_of_fieldEnd hrole, recordsFrom_of_fieldEnd hrole]
        exact ih
      | recordEnd =>
        rw [recordsFrom_of_recordEnd hrole, recordsFrom_of_recordEnd hrole, List.map_cons,
          List.map_cons]
        exact congrArg (_ :: ·) ih

theorem recordsFrom_replicate (delimiter : UInt8) (draft : Draft) (bytes : List UInt8) (count : Nat)
    (mark : Mark) :
    ∃ behind, recordsFrom delimiter mark .between draft (List.replicate count 0x0A ++ bytes) =
      recordsFrom delimiter behind .between draft bytes := by
  induction count generalizing mark with
  | zero => exact ⟨mark, rfl⟩
  | succ count ih =>
    have hfeed : role delimiter .between 0x0A = (.nothing, .between) := rfl
    obtain ⟨behind, hrest⟩ := ih (mark.after 0x0A)
    refine ⟨behind, ?_⟩
    rw [List.replicate_succ, List.cons_append, recordsFrom_of_nothing hfeed, hrest]

theorem encode_replicate (count : Nat) :
    Utf8.encode (List.replicate count '\n') = List.replicate count 0x0A := by
  induction count with
  | zero => rfl
  | succ count ih =>
    rw [List.replicate_succ, Utf8.encode_cons, ih]
    rfl

theorem map_fields_records_replicate (hmark : cs.head? ≠ some '\uFEFF') (count : Nat) :
    (records delimiter (Utf8.encode (List.replicate count '\n' ++ cs))).map Record.fields =
      (records delimiter (Utf8.encode cs)).map Record.fields := by
  have hfront : (List.replicate count '\n' ++ cs).head? ≠ some '\uFEFF' := by
    cases count with
    | zero => exact hmark
    | succ count => simp [List.replicate_succ]
  obtain ⟨behind, hrest⟩ :=
    recordsFrom_replicate delimiter (.starting .start) (Utf8.encode cs) count .start
  rw [records_encode hfront, records_encode hmark, Utf8.encode_append, encode_replicate, hrest]
  exact map_fields_recordsFrom

end

/-! ### Texts behind line feeds -/

/-- So many line feeds. -/
def lineFeeds (count : Nat) : String :=
  String.ofList (List.replicate count '\n')

theorem toList_lineFeeds_append (count : Nat) (content : String) :
    (lineFeeds count ++ content).toList = List.replicate count '\n' ++ content.toList := by
  rw [lineFeeds, String.toList_append, String.toList_ofList]

theorem detectDelimiter_lineFeeds (count : Nat) (content : String) :
    detectDelimiter (lineFeeds count ++ content) =
      if count = 0 then detectDelimiter content else ';' := by
  cases count with
  | zero =>
    rw [if_pos rfl]
    exact congrArg detectDelimiter (String.empty_append ..)
  | succ count =>
    have hfeeds :
        lineFeeds (count + 1) ++ content = "" ++ "\n" ++ (lineFeeds count ++ content) := by
      have hfeed : ("" ++ "\n").toList = ['\n'] := by simp
      rw [← String.toList_inj, toList_lineFeeds_append, String.toList_append,
        toList_lineFeeds_append, List.replicate_succ, hfeed, List.cons_append,
        List.singleton_append]
    rw [if_neg (Nat.succ_ne_zero count), detectDelimiter, hfeeds,
      Text.lines_append_lineFeed (by simp) (by simp), List.headD_cons]
    rfl

theorem not_splits_of_mem_delimiters {delimiter : Char} (h : delimiter ∈ delimiters) (c : Char) :
    ¬Splits (delimiterByte delimiter) c := by
  intro hc
  have hmost := (exists_splits_iff (Nat.not_lt.mp (toNat_le_of_mem_delimiters h))).mp ⟨c, hc⟩
  rcases mem_delimiters_iff.mp h with rfl | rfl | rfl | rfl <;> revert hmost <;> decide

/-- With a given delimiter, line feeds in front of a text change nothing. -/
theorem parse_lineFeeds {content : String} (hmark : content.toList.head? ≠ some '\uFEFF')
    {delimiter : Char} (h : delimiter ∈ delimiters) (count : Nat) :
    parse (lineFeeds count ++ content) delimiter = parse content delimiter := by
  have hsame : Text.isBlankText (lineFeeds count ++ content) = Text.isBlankText content := by
    have hfeeds : (List.replicate count '\n').all Text.isBlank = true := by
      rw [List.all_eq_true]
      intro c hc
      rw [List.eq_of_mem_replicate hc]
      rfl
    rw [Text.isBlankText, toList_lineFeeds_append, List.all_append, hfeeds, Bool.true_and]
    rfl
  cases hblank : Text.isBlankText content with
  | true => rw [parse_of_blank hblank, parse_of_blank (hsame.trans hblank)]
  | false =>
    have hnarrow := toNat_le_of_mem_delimiters h
    rw [parse_of_narrow hblank hnarrow, parse_of_narrow (hsame.trans hblank) hnarrow,
      toList_lineFeeds_append]
    exact tableOf_congr
      (isReadable_of_mem_records fun c _ => not_splits_of_mem_delimiters h c)
      (map_fields_records_replicate hmark count)

/-- The delimiter of a text behind line feeds is the semicolon, whatever its own; with a given
delimiter the two are read alike. So what is read is the same if and only if the delimiter of the
text is the semicolon, or the text is refused alike with its delimiter and with the semicolon. -/
theorem ingest_lineFeeds {content : String} (hmark : content.toList.head? ≠ some '\uFEFF')
    (count : Nat) :
    detectDelimiter (lineFeeds count ++ content) =
        (if count = 0 then detectDelimiter content else ';') ∧
      (∀ delimiter ∈ delimiters,
        parse (lineFeeds count ++ content) delimiter = parse content delimiter) ∧
      (ingest (lineFeeds count ++ content) = ingest content ↔
        count = 0 ∨ detectDelimiter content = ';' ∨
          ∃ fault, parse content ';' = .error fault ∧
            parse content (detectDelimiter content) = .error fault) := by
  refine ⟨detectDelimiter_lineFeeds count content, fun _ h => parse_lineFeeds hmark h count, ?_⟩
  by_cases hcount : count = 0
  · subst hcount
    have hnone : lineFeeds 0 ++ content = content := String.empty_append
    exact iff_of_true (by rw [hnone]) (.inl rfl)
  have hsemicolon : ingest (lineFeeds count ++ content) = (parse content ';').map (';', ·) := by
    rw [ingest, detectDelimiter_lineFeeds, if_neg hcount,
      parse_lineFeeds hmark (by simp [delimiters])]
  rw [hsemicolon, ingest, or_iff_right hcount]
  constructor
  · intro h
    cases hfirst : parse content ';' with
    | ok table =>
      rw [hfirst] at h
      obtain ⟨other, -, heq⟩ := map_eq_ok.mp h.symm
      exact .inl (Prod.mk.inj heq).1
    | error fault =>
      rw [hfirst] at h
      exact .inr ⟨fault, rfl, map_eq_error.mp h.symm⟩
  · rintro (h | ⟨fault, hfirst, hsecond⟩)
    · rw [h]
    · simp only [hfirst, hsecond, Except.map]

/-- A line feed in front of a text with commas, and in front of one with semicolons. -/
theorem ingest_lineFeeds_commas :
    "a,b\n1,2".toList.head? ≠ some '\uFEFF' ∧
      detectDelimiter (lineFeeds 2 ++ "a,b\n1,2") = ';' ∧
      ingest (lineFeeds 2 ++ "a,b\n1,2") ≠ ingest "a,b\n1,2" ∧
      ingest (lineFeeds 2 ++ "a;b\n1;2") = ingest "a;b\n1;2" := by
  have hcommas := @ingest_lineFeeds "a,b\n1,2" (by decide) 2
  have hsemicolons := @ingest_lineFeeds "a;b\n1;2" (by decide) 2
  refine ⟨by decide, hcommas.1, ?_, hsemicolons.2.2.mpr (.inr (.inl rfl))⟩
  rw [Ne, hcommas.2.2]
  rintro (h | h | ⟨fault, h, -⟩)
  · cases h
  · exact absurd h (by decide)
  · cases h

/-- Behind a line feed a table with commas has one column. -/
theorem ingest_behind_lineFeed :
    ingest "\na,b\n1,2" = .ok (';', ["a,b"], [[("a,b", .text "1,2")]]) ∧
      ingest "a,b\n1,2" = .ok (',', ["a", "b"], [[("a", .text "1"), ("b", .text "2")]]) := by
  constructor <;> rfl

end Csv

end RowRecipe
