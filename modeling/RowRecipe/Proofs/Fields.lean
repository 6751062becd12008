import Mathlib.Data.List.DropRight
import RowRecipe.Csv
import RowRecipe.Proofs.Bytes
import RowRecipe.Proofs.Fallible

/-!
# Fields that are texts

A field is a text if its bytes are those of characters; it still is when the blank bytes around it
are cut off. Records of such fields always give rows, whatever their numbers and places. The fields
behind the last column are in no cell, but a record that has something only there is a row with
nothing in it, and would be passed over without them.

Main statement: `Csv.rowsFrom_map_cut`.
-/
namespace RowRecipe

namespace Utf8

/-- Bytes that are those of characters. -/
def IsText (bytes : List UInt8) : Prop :=
  ∃ cs, bytes = encode cs

theorem isText_nil : IsText [] := ⟨[], rfl⟩

theorem isText_encodeChar (c : Char) : IsText (encodeChar c) :=
  ⟨[c], (List.append_nil _).symm⟩

theorem IsText.append {a b : List UInt8} (ha : IsText a) (hb : IsText b) : IsText (a ++ b) := by
  obtain ⟨cs, rfl⟩ := ha
  obtain ⟨ds, rfl⟩ := hb
  exact ⟨cs ++ ds, (encode_append cs ds).symm⟩

/-- A byte below 0x80 is all there is of its character. -/
theorem encodeChar_eq_singleton {c : Char} {b : UInt8} (hb : b ∈ encodeChar c)
    (hsmall : b.toNat < 0x80) : encodeChar c = [b] := by
  have hc := toNat_eq_of_mem_encodeChar hb hsmall
  have hbyte : c.toNat.toUInt8 = b := by
    rw [← UInt8.toNat_inj, toNat_toUInt8 (by omega), hc]
  simp only [encodeChar]
  rw [if_pos (by omega), hbyte]

end Utf8

namespace Csv

/-! ### Blanks around fields -/

theorem toNat_lt_of_isBlankByte {b : UInt8} (h : isBlankByte b = true) : b.toNat < 0x80 := by
  simp only [isBlankByte, Bool.or_eq_true, beq_iff_eq] at h
  rcases h with (((rfl | rfl) | rfl) | rfl) | rfl <;> decide

theorem isText_dropWhile_encode (cs : List Char) :
    Utf8.IsText ((Utf8.encode cs).dropWhile isBlankByte) := by
  induction cs with
  | nil => exact Utf8.isText_nil
  | cons c cs ih =>
    obtain ⟨first, others, hbytes⟩ := List.exists_cons_of_ne_nil (Utf8.encodeChar_ne_nil c)
    by_cases hblank : isBlankByte first = true
    · have hsingle : Utf8.encodeChar c = [first] :=
        Utf8.encodeChar_eq_singleton (hbytes ▸ List.mem_cons_self) (toNat_lt_of_isBlankByte hblank)
      rw [Utf8.encode_cons, hsingle, List.singleton_append, List.dropWhile_cons_of_pos hblank]
      exact ih
    · refine ⟨c :: cs, ?_⟩
      rw [Utf8.encode_cons, hbytes, List.cons_append, List.dropWhile_cons_of_neg hblank]

theorem isText_rdropWhile_encode (cs : List Char) :
    Utf8.IsText ((Utf8.encode cs).rdropWhile isBlankByte) := by
  induction cs using List.reverseRecOn with
  | nil => exact Utf8.isText_nil
  | append_singleton cs c ih =>
    have hlast : Utf8.encode [c] = Utf8.encodeChar c := List.append_nil _
    obtain ⟨front, last, hbytes⟩ :=
      (List.eq_nil_or_concat' (Utf8.encodeChar c)).resolve_left (Utf8.encodeChar_ne_nil c)
    by_cases hblank : isBlankByte last = true
    · have hsingle : Utf8.encodeChar c = [last] :=
        Utf8.encodeChar_eq_singleton (by simp [hbytes]) (toNat_lt_of_isBlankByte hblank)
      rw [Utf8.encode_append, hlast, hsingle, List.rdropWhile_concat_pos _ _ _ hblank]
      exact ih
    · refine ⟨cs ++ [c], ?_⟩
      rw [Utf8.encode_append, hlast, hbytes, ← List.append_assoc,
        List.rdropWhile_concat_neg _ _ _ hblank]

/-- What is left of a text without the blanks around it is a text. -/
theorem isText_trimBytes {bytes : List UInt8} (h : Utf8.IsText bytes) :
    Utf8.IsText (trimBytes bytes) := by
  obtain ⟨cs, rfl⟩ := h
  obtain ⟨kept, hkept⟩ := isText_dropWhile_encode cs
  rw [trimBytes, hkept]
  exact isText_rdropWhile_encode kept

/-! ### The texts of records -/

/-- A record all of whose fields are texts. -/
def Record.IsReadable (record : Record) : Prop :=
  ∀ field ∈ record.fields, Utf8.IsText field

/-- A record without the fields behind the first so many. -/
def Record.cut (width : Nat) (record : Record) : Record :=
  { record with fields := record.fields.take width }

section
variable {fields : List (List UInt8)} {record : Record} {records others : List Record}

theorem exists_textsFrom (h : ∀ field ∈ fields, Utf8.IsText field) :
    ∃ values, ∀ number, textsFrom number fields = .ok values := by
  induction fields with
  | nil => exact ⟨[], fun _ => rfl⟩
  | cons field fields ih =>
    obtain ⟨⟨cs, rfl⟩, hfields⟩ := List.forall_mem_cons.mp h
    obtain ⟨values, hvalues⟩ := ih hfields
    refine ⟨String.ofList (Text.trimChars cs) :: values, fun number => ?_⟩
    simp only [textsFrom, Utf8.decode_encode, hvalues]
    rfl

theorem textsFrom_take {number : Nat} {values : List String}
    (h : textsFrom number fields = .ok values) (width : Nat) :
    textsFrom number (fields.take width) = .ok (values.take width) := by
  induction fields generalizing number values width with
  | nil =>
    cases h
    rw [List.take_nil, List.take_nil]
    rfl
  | cons field fields ih =>
    cases width with
    | zero => rfl
    | succ width =>
      simp only [textsFrom, List.take_succ_cons] at h ⊢
      split at h
      · cases h
      · obtain ⟨others, hothers, rfl⟩ := map_eq_ok.mp h
        rw [ih hothers width]
        rfl

theorem texts_eq_ok_of_textsFrom {values : List String}
    (h : ∀ number, textsFrom number fields = .ok values) (number : Nat) (mark : Mark) :
    texts number ⟨fields, mark⟩ = .ok values := by
  rw [texts, h]
  rfl

/-- The texts of a record do not depend on its number or place, and the first of them not on the
fields behind. -/
theorem exists_texts (h : record.IsReadable) :
    ∃ values, ∀ number mark width,
      texts number ⟨record.fields.map trimBytes, mark⟩ = .ok values ∧
        texts number ⟨(record.fields.take width).map trimBytes, mark⟩ =
          .ok (values.take width) := by
  have htrimmed : ∀ field ∈ record.fields.map trimBytes, Utf8.IsText field :=
    List.forall_mem_map.mpr fun field hfield => isText_trimBytes (h field hfield)
  obtain ⟨values, hvalues⟩ := exists_textsFrom htrimmed
  refine ⟨values, fun number mark width => ⟨texts_eq_ok_of_textsFrom hvalues number mark, ?_⟩⟩
  rw [List.map_take]
  exact texts_eq_ok_of_textsFrom (fun number => textsFrom_take (hvalues number) width) number mark

/-! ### Rows -/

/-- Whether a cell of a row is anything but an empty text. -/
def hasText (row : Row) : Bool :=
  row.any fun cell => cell.2.text? != some ""

theorem rowOf_take (headers values : List String) :
    rowOf headers (values.take headers.length) = rowOf headers values := by
  induction headers generalizing values with
  | nil => rfl
  | cons header headers ih =>
    cases values with
    | nil => rfl
    | cons value values => exact congrArg ((header, .text value) :: ·) (ih values)

theorem hasText_cons_text (name value : String) (row : Row) :
    hasText ((name, .text value) :: row) = (!value.isEmpty || hasText row) := by
  by_cases h : value = ""
  · subst h
    rfl
  · have hvalue : (some value != some "") = true := by simpa using h
    have hempty : value.isEmpty = false := by simpa using h
    rw [hempty]
    exact congrArg (· || hasText row) hvalue

theorem hasText_rowOf (headers values : List String) :
    hasText (rowOf headers values) = !(values.take headers.length).all String.isEmpty := by
  induction headers generalizing values with
  | nil => rfl
  | cons header headers ih =>
    cases values with
    | nil => rw [rowOf, hasText_cons_text, ih, List.take_nil, List.take_nil]; rfl
    | cons value values =>
      rw [rowOf, hasText_cons_text, ih, List.length_cons, List.take_succ_cons, List.all_cons,
        Bool.not_and]

/-- The rows of one record: none, or one. -/
def rowsOf (headers values : List String) : List Row :=
  if values.all String.isEmpty then [] else [rowOf headers values]

theorem rowsFrom_cons {headers values : List String} {number : Nat} {rows : List Row}
    (hvalues : texts number ⟨record.fields.map trimBytes, record.mark⟩ = .ok values)
    (hrows : rowsFrom headers (number + 1) records = .ok rows) :
    rowsFrom headers number (record :: records) = .ok (rowsOf headers values ++ rows) := by
  simp only [rowsFrom, hvalues, hrows, ok_bind, rowsOf]
  split <;> rfl

/-- The row of a record without the fields behind the columns is its row, if that has a text. -/
theorem rowsOf_take (headers values : List String) :
    rowsOf headers (values.take headers.length) = (rowsOf headers values).filter hasText := by
  unfold rowsOf
  by_cases hempty : values.all String.isEmpty = true
  · have hfront : (values.take headers.length).all String.isEmpty = true :=
      List.all_eq_true.mpr fun value hvalue =>
        List.all_eq_true.mp hempty value (List.mem_of_mem_take hvalue)
    rw [if_pos hempty, if_pos hfront, List.filter_nil]
  · rw [if_neg hempty, rowOf_take]
    by_cases hfront : (values.take headers.length).all String.isEmpty = true
    · rw [if_pos hfront, List.filter_cons_of_neg (by simp [hasText_rowOf, hfront]), List.filter_nil]
    · rw [if_neg hfront, List.filter_cons_of_pos (by simpa [hasText_rowOf] using hfront),
        List.filter_nil]

/-- Readable records give rows, and without the fields behind the columns those of the rows that
have a text. -/
theorem exists_rowsFrom (headers : List String) (h : ∀ record ∈ records, record.IsReadable) :
    ∃ rows, (∀ number, rowsFrom headers number records = .ok rows) ∧
      ∀ number, rowsFrom headers number (records.map (Record.cut headers.length)) =
        .ok (rows.filter hasText) := by
  induction records with
  | nil => exact ⟨[], fun _ => rfl, fun _ => rfl⟩
  | cons record records ih =>
    obtain ⟨hrecord, hrecords⟩ := List.forall_mem_cons.mp h
    obtain ⟨values, hvalues⟩ := exists_texts hrecord
    obtain ⟨rows, hrows, hcut⟩ := ih hrecords
    refine ⟨rowsOf headers values ++ rows, fun number => ?_, fun number => ?_⟩
    · exact rowsFrom_cons (hvalues number record.mark 0).1 (hrows (number + 1))
    · rw [List.map_cons, List.filter_append, ← rowsOf_take]
      exact rowsFrom_cons (hvalues number record.mark headers.length).2 (hcut (number + 1))

/-- The rows of readable records depend on their fields alone. -/
theorem rowsFrom_congr (headers : List String) (h : ∀ record ∈ records, record.IsReadable)
    (hfields : records.map Record.fields = others.map Record.fields) (number other : Nat) :
    rowsFrom headers number records = rowsFrom headers other others := by
  induction records generalizing others number other with
  | nil =>
    obtain rfl := List.map_eq_nil_iff.mp hfields.symm
    rfl
  | cons record records ih =>
    obtain ⟨⟨fields, mark⟩, others, rfl, rfl, hothers⟩ := List.map_eq_cons_iff.mp hfields.symm
    obtain ⟨hrecord, hrecords⟩ := List.forall_mem_cons.mp h
    obtain ⟨values, hvalues⟩ := exists_texts hrecord
    obtain ⟨rows, hrows, -⟩ := exists_rowsFrom headers hrecords
    have hsame : rowsFrom headers (other + 1) others = .ok rows :=
      (ih hrecords hothers.symm (number + 1) (other + 1)).symm.trans (hrows (number + 1))
    rw [rowsFrom_cons (hvalues number record.mark 0).1 (hrows (number + 1)),
      rowsFrom_cons (hvalues other mark 0).1 hsame]

/-! ### Tables -/

/-- The table of some records. -/
def tableOf : List Record → Except CsvError (List String × List Row)
  | [] => .error .noHeaders
  | first :: records => do
    let headers ← texts 0 first
    if headers.all String.isEmpty then throw .noHeaders
    return (headers, ← rowsFrom headers 1 records)

theorem parse_of_blank {content : String} (h : Text.isBlankText content = true) (delimiter : Char) :
    parse content delimiter = .error .empty := by
  rw [parse, h]
  rfl

theorem parse_of_wide {content : String} {delimiter : Char}
    (hblank : Text.isBlankText content = false) (hwide : 0xFF < delimiter.toNat) :
    parse content delimiter = .error (.wideDelimiter delimiter) := by
  rw [parse, hblank, if_pos hwide]
  rfl

theorem parse_of_narrow {content : String} {delimiter : Char}
    (hblank : Text.isBlankText content = false) (hnarrow : ¬0xFF < delimiter.toNat) :
    parse content delimiter =
      tableOf (Csv.records delimiter.toNat.toUInt8 (Utf8.encode content.toList)) := by
  rw [parse, hblank, if_neg hnarrow]
  cases Csv.records delimiter.toNat.toUInt8 (Utf8.encode content.toList) <;> rfl

/-- Readable records make a table, unless they have no headers. -/
theorem tableOf_readable (h : ∀ record ∈ records, record.IsReadable) :
    tableOf records = .error .noHeaders ∨
      ∃ headers rows, tableOf records = .ok (headers, rows) := by
  cases records with
  | nil => exact .inl rfl
  | cons first records =>
    obtain ⟨hfirst, hrecords⟩ := List.forall_mem_cons.mp h
    obtain ⟨headers, hheaders⟩ := exists_textsFrom hfirst
    obtain ⟨rows, hrows, -⟩ := exists_rowsFrom headers hrecords
    rw [tableOf, texts_eq_ok_of_textsFrom hheaders, ok_bind]
    split
    · exact .inl rfl
    · rw [hrows]
      exact .inr ⟨headers, rows, rfl⟩

/-- The table of readable records depends on their fields alone. -/
theorem tableOf_congr (h : ∀ record ∈ records, record.IsReadable)
    (hfields : records.map Record.fields = others.map Record.fields) :
    tableOf records = tableOf others := by
  cases records with
  | nil =>
    obtain rfl := List.map_eq_nil_iff.mp hfields.symm
    rfl
  | cons first records =>
    obtain ⟨⟨fields, mark⟩, others, rfl, rfl, hothers⟩ := List.map_eq_cons_iff.mp hfields.symm
    obtain ⟨hfirst, hrecords⟩ := List.forall_mem_cons.mp h
    obtain ⟨headers, hheaders⟩ := exists_textsFrom hfirst
    have hrows := rowsFrom_congr headers hrecords hothers.symm 1 1
    rw [tableOf, tableOf, texts_eq_ok_of_textsFrom hheaders, texts_eq_ok_of_textsFrom hheaders,
      ok_bind, ok_bind, hrows]

/-! ### Fields behind the columns -/

/-- Cutting the fields behind the columns off changes no row that has a text and loses every other
one, so it changes nothing if and only if each row has a text. Records with the same fields in the
columns give the same rows but for those without a text. -/
theorem rowsFrom_map_cut (headers : List String) (number : Nat)
    (h : ∀ record ∈ records, record.IsReadable) :
    ∃ rows, rowsFrom headers number records = .ok rows ∧
      rowsFrom headers number (records.map (Record.cut headers.length)) =
        .ok (rows.filter hasText) ∧
      (rowsFrom headers number (records.map (Record.cut headers.length)) =
        rowsFrom headers number records ↔ ∀ row ∈ rows, hasText row) ∧
      ∀ others : List Record, (∀ record ∈ others, record.IsReadable) →
        records.map (·.fields.take headers.length) = others.map (·.fields.take headers.length) →
        ∃ otherRows, rowsFrom headers number others = .ok otherRows ∧
          otherRows.filter hasText = rows.filter hasText := by
  obtain ⟨rows, hrows, hcut⟩ := exists_rowsFrom headers h
  refine ⟨rows, hrows number, hcut number, ?_, ?_⟩
  · rw [hrows, hcut, Except.ok.injEq, List.filter_eq_self]
  · intro others hothers hsame
    obtain ⟨otherRows, hotherRows, hotherCut⟩ := exists_rowsFrom headers hothers
    refine ⟨otherRows, hotherRows number, ?_⟩
    have hreadable : ∀ record ∈ records.map (Record.cut headers.length), record.IsReadable :=
      List.forall_mem_map.mpr fun record hrecord field hfield =>
        h record hrecord field (List.mem_of_mem_take hfield)
    have hfields : (records.map (Record.cut headers.length)).map Record.fields =
        (others.map (Record.cut headers.length)).map Record.fields := by
      rw [List.map_map, List.map_map]
      exact hsame
    have heq := rowsFrom_congr headers hreadable hfields number number
    rw [hcut, hotherCut, Except.ok.injEq] at heq
    exact heq.symm

/-- The second record has something in it only behind the columns. -/
theorem rowsFrom_map_cut_behind :
    ∃ rows, rowsFrom ["a", "b"] 1
        [⟨[[0x31], [0x32], [0x33]], .start⟩, ⟨[[], [], [0x78]], .start⟩] = .ok rows ∧
      rows.map hasText = [true, false] ∧
      rowsFrom ["a", "b"] 1 [⟨[[0x31], [0x32]], .start⟩, ⟨[[], []], .start⟩] =
        .ok (rows.filter hasText) := by
  have hreadable : ∀ record ∈ ([⟨[[0x31], [0x32], [0x33]], .start⟩,
      ⟨[[], [], [0x78]], .start⟩] : List Record), record.IsReadable := by
    simp only [Record.IsReadable, List.mem_cons, forall_eq_or_imp, List.not_mem_nil, false_imp_iff,
      implies_true, and_true]
    exact ⟨⟨⟨['1'], rfl⟩, ⟨['2'], rfl⟩, ⟨['3'], rfl⟩⟩, ⟨[], rfl⟩, ⟨[], rfl⟩, ⟨['x'], rfl⟩⟩
  obtain ⟨rows, hrows, hcut, -⟩ := rowsFrom_map_cut ["a", "b"] 1 hreadable
  refine ⟨rows, hrows, ?_, hcut⟩
  cases hrows
  rfl

/-- A record with something in it only behind the columns is a row, and none without that. -/
theorem rowsFrom_cut_behind :
    parse "a;b\n;;x" ';' = .ok (["a", "b"], [[("a", .text ""), ("b", .text "")]]) ∧
      rowsFrom ["a", "b"] 1 [⟨[[], [], [0x78]], ⟨1, 4⟩⟩] =
        .ok [[("a", .text ""), ("b", .text "")]] ∧
      rowsFrom ["a", "b"] 1 ([⟨[[], [], [0x78]], ⟨1, 4⟩⟩].map (Record.cut 2)) = .ok [] := by
  refine ⟨?_, ?_, ?_⟩ <;> rfl

end

end Csv

end RowRecipe
