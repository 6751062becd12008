import RowRecipe.Csv
import RowRecipe.Proofs.Bytes
import RowRecipe.Proofs.Fallible
import RowRecipe.Proofs.Writing

/-!
# Written tables

A table is written with each field in quotes, where a quote is written twice. Reading it gives the
table back, whatever stands in its fields: a quoted field ends at a quote that no other one follows,
and no byte inside a character is a quote. Fields with blanks at their ends would be read without
them, and records without a field that has something in it would be passed over.

Main statement: `Csv.parse_written`.
-/
namespace RowRecipe.Csv

/-! ### Writing -/

/-- A character between quotes. -/
def quotedChar (c : Char) : List Char :=
  if c = '"' then ['"', '"'] else [c]

/-- A field in quotes. -/
def quotedField (field : String) : String :=
  String.ofList ('"' :: (field.toList.flatMap quotedChar ++ ['"']))

/-- Fields in quotes with the delimiter between them. -/
def quotedFields (delimiter : Char) (fields : List String) : String :=
  Text.join delimiter.toString (fields.map quotedField)

/-- A record, up to the line feed that ends it. -/
def writtenRecord (delimiter : Char) (fields : List String) : String :=
  quotedFields delimiter fields ++ "\n"

/-- The text of some records. -/
def written (delimiter : Char) (records : List (List String)) : String :=
  String.join (records.map (writtenRecord delimiter))

theorem quotedFields_single (delimiter : Char) (field : String) :
    quotedFields delimiter [field] = quotedField field := by
  rw [quotedFields, List.map_singleton, Text.join_single]

theorem quotedFields_cons_cons (delimiter : Char) (field following : String)
    (fields : List String) :
    quotedFields delimiter (field :: following :: fields) =
      quotedField field ++ delimiter.toString ++ quotedFields delimiter (following :: fields) := by
  rw [quotedFields, List.map_cons, List.map_cons, Text.join_cons_cons]
  rfl

theorem writtenRecord_single (delimiter : Char) (field : String) :
    writtenRecord delimiter [field] = quotedField field ++ "\n" := by
  rw [writtenRecord, quotedFields_single]

theorem writtenRecord_cons_cons (delimiter : Char) (field following : String)
    (fields : List String) :
    writtenRecord delimiter (field :: following :: fields) =
      quotedField field ++ delimiter.toString ++ writtenRecord delimiter (following :: fields) := by
  rw [writtenRecord, quotedFields_cons_cons, String.append_assoc]
  rfl

theorem written_cons (delimiter : Char) (fields : List String) (records : List (List String)) :
    written delimiter (fields :: records) =
      writtenRecord delimiter fields ++ written delimiter records := by
  rw [written, List.map_cons, String.join_cons]
  rfl

theorem exists_writtenRecord (delimiter : Char) {fields : List String} (hfields : fields ≠ []) :
    ∃ field rest, writtenRecord delimiter fields = quotedField field ++ rest := by
  match fields with
  | [] => exact absurd rfl hfields
  | [field] => exact ⟨field, _, writtenRecord_single delimiter field⟩
  | field :: following :: fields =>
    rw [writtenRecord_cons_cons, String.append_assoc]
    exact ⟨field, _, rfl⟩

/-! ### The bytes of what is written -/

/-- The bytes of a text. -/
def bytesOf (text : String) : List UInt8 :=
  Utf8.encode text.toList

theorem bytesOf_append (a b : String) : bytesOf (a ++ b) = bytesOf a ++ bytesOf b := by
  rw [bytesOf, String.toList_append, Utf8.encode_append]
  rfl

theorem mem_delimiters_iff {c : Char} :
    c ∈ delimiters ↔ c = ';' ∨ c = ',' ∨ c = '\t' ∨ c = '|' := by
  simp [delimiters]

/-- The byte of a delimiter. -/
def delimiterByte (delimiter : Char) : UInt8 :=
  delimiter.toNat.toUInt8

theorem bytesOf_toString {delimiter : Char} (h : delimiter ∈ delimiters) :
    bytesOf delimiter.toString = [delimiterByte delimiter] := by
  rcases mem_delimiters_iff.mp h with rfl | rfl | rfl | rfl <;> rfl

/-- What a delimiter and a line feed do behind a closing quote. -/
theorem role_closed {delimiter : Char} (h : delimiter ∈ delimiters) :
    role (delimiterByte delimiter) .closed (delimiterByte delimiter) = (.fieldEnd, .front) ∧
      role (delimiterByte delimiter) .closed 0x0A = (.recordEnd, .between) := by
  rcases mem_delimiters_iff.mp h with rfl | rfl | rfl | rfl <;> exact ⟨rfl, rfl⟩

theorem quote_notMem_encodeChar {c : Char} (h : c ≠ '"') : quote ∉ Utf8.encodeChar c := by
  intro hmem
  have hc := Utf8.toNat_eq_of_mem_encodeChar hmem (by decide)
  exact h (Char.toNat_inj.mp hc)

theorem bytesOf_quotedField (field : String) :
    bytesOf (quotedField field) =
      quote :: (Utf8.encode (field.toList.flatMap quotedChar) ++ [quote]) := by
  rw [bytesOf, quotedField, String.toList_ofList, Utf8.encode_cons, Utf8.encode_append]
  rfl

/-! ### Reading records -/

/-- The place behind some bytes. -/
def Mark.past (mark : Mark) (bytes : List UInt8) : Mark :=
  bytes.foldl Mark.after mark

theorem Mark.past_cons (mark : Mark) (b : UInt8) (bytes : List UInt8) :
    mark.past (b :: bytes) = (mark.after b).past bytes := rfl

theorem Mark.past_append (mark : Mark) (a b : List UInt8) :
    mark.past (a ++ b) = (mark.past a).past b :=
  List.foldl_append

section
variable {delimiter b : UInt8} {mark start : Mark} {mode next : Mode} {draft : Draft}
variable {bytes rest : List UInt8} {fields : List (List UInt8)}

theorem recordsFrom_of_content (h : role delimiter mode b = (.content, next)) :
    recordsFrom delimiter mark mode draft (b :: rest) =
      recordsFrom delimiter (mark.after b) next { draft with field := b :: draft.field } rest := by
  rw [recordsFrom, h]

theorem recordsFrom_of_nothing (h : role delimiter mode b = (.nothing, next)) :
    recordsFrom delimiter mark mode draft (b :: rest) =
      recordsFrom delimiter (mark.after b) next draft rest := by
  rw [recordsFrom, h]

theorem recordsFrom_of_fieldEnd (h : role delimiter mode b = (.fieldEnd, next)) :
    recordsFrom delimiter mark mode draft (b :: rest) =
      recordsFrom delimiter (mark.after b) next draft.endField rest := by
  rw [recordsFrom, h]

theorem recordsFrom_of_recordEnd (h : role delimiter mode b = (.recordEnd, next)) :
    recordsFrom delimiter mark mode draft (b :: rest) =
      draft.finish
        :: recordsFrom delimiter (mark.after b) next (.starting (mark.after b)) rest := by
  rw [recordsFrom, h]

/-- Between quotes, bytes that are no quotes belong to the field. -/
theorem recordsFrom_append_of_notMem (h : quote ∉ bytes) :
    recordsFrom delimiter mark .quoted draft (bytes ++ rest) =
      recordsFrom delimiter (mark.past bytes) .quoted
        { draft with field := bytes.reverse ++ draft.field } rest := by
  induction bytes generalizing mark draft with
  | nil => rfl
  | cons b bytes ih =>
    obtain ⟨hb, hbytes⟩ := List.ne_and_not_mem_of_not_mem_cons h
    have hrole : role delimiter .quoted b = (.content, .quoted) := if_neg (Ne.symm hb)
    rw [List.cons_append, recordsFrom_of_content hrole, ih hbytes, Mark.past_cons,
      List.reverse_cons, List.append_assoc, List.singleton_append]

theorem recordsFrom_quotedChar (c : Char) :
    recordsFrom delimiter mark .quoted draft (Utf8.encode (quotedChar c) ++ rest) =
      recordsFrom delimiter (mark.past (Utf8.encode (quotedChar c))) .quoted
        { draft with field := (Utf8.encodeChar c).reverse ++ draft.field } rest := by
  by_cases hc : c = '"'
  · subst hc
    have hfirst : role delimiter .quoted quote = (.nothing, .closed) := rfl
    have hsecond : role delimiter .closed quote = (.content, .quoted) := rfl
    exact (recordsFrom_of_nothing hfirst).trans (recordsFrom_of_content hsecond)
  · have hbytes : Utf8.encode (quotedChar c) = Utf8.encodeChar c := by
      rw [quotedChar, if_neg hc, Utf8.encode_cons]
      exact List.append_nil _
    rw [hbytes, recordsFrom_append_of_notMem (quote_notMem_encodeChar hc)]

theorem recordsFrom_flatMap_quotedChar (cs : List Char) :
    recordsFrom delimiter mark .quoted draft (Utf8.encode (cs.flatMap quotedChar) ++ rest) =
      recordsFrom delimiter (mark.past (Utf8.encode (cs.flatMap quotedChar))) .quoted
        { draft with field := (Utf8.encode cs).reverse ++ draft.field } rest := by
  induction cs generalizing mark draft with
  | nil => rfl
  | cons c cs ih =>
    rw [List.flatMap_cons, Utf8.encode_append, List.append_assoc, recordsFrom_quotedChar, ih,
      Mark.past_append, Utf8.encode_cons, List.reverse_append, List.append_assoc]

/-- A quote opens a field where one may begin. -/
theorem role_quote (hmode : mode = .between ∨ mode = .front) :
    role delimiter mode quote = (.nothing, .quoted) := by
  rcases hmode with rfl | rfl <;> rfl

theorem recordsFrom_quotedField (hmode : mode = .between ∨ mode = .front) (field : String) :
    recordsFrom delimiter mark mode ⟨start, fields, []⟩ (bytesOf (quotedField field) ++ rest) =
      recordsFrom delimiter (mark.past (bytesOf (quotedField field))) .closed
        ⟨start, fields, (bytesOf field).reverse⟩ rest := by
  have hclose : role delimiter .quoted quote = (.nothing, .closed) := rfl
  rw [bytesOf_quotedField, List.cons_append, recordsFrom_of_nothing (role_quote hmode),
    List.append_assoc, recordsFrom_flatMap_quotedChar, List.singleton_append,
    recordsFrom_of_nothing hclose, Mark.past_cons, Mark.past_append, List.append_nil]
  rfl

end

section
variable {delimiter : Char} {mode : Mode}

/-- A record is read up to the line feed behind it, the fields in front of the first one that is
read being done. -/
theorem recordsFrom_writtenRecord (hdelimiter : delimiter ∈ delimiters)
    (hmode : mode = .between ∨ mode = .front) {fields : List String} (hfields : fields ≠ [])
    (mark start : Mark) (done : List (List UInt8)) (rest : List UInt8) :
    ∃ behind, recordsFrom (delimiterByte delimiter) mark mode ⟨start, done, []⟩
      (bytesOf (writtenRecord delimiter fields) ++ rest) =
      ⟨done.reverse ++ fields.map bytesOf, start⟩
        :: recordsFrom (delimiterByte delimiter) behind .between (.starting behind) rest := by
  obtain ⟨hfieldEnd, hrecordEnd⟩ := role_closed hdelimiter
  induction fields generalizing mark mode done with
  | nil => exact absurd rfl hfields
  | cons field fields ih =>
    cases fields with
    | nil =>
      have hfeed : bytesOf "\n" = [0x0A] := rfl
      rw [writtenRecord_single, bytesOf_append, List.append_assoc, recordsFrom_quotedField hmode,
        hfeed, List.singleton_append, recordsFrom_of_recordEnd hrecordEnd]
      refine ⟨_, congrArg (· :: _) ?_⟩
      simp [Draft.finish, Draft.endField]
    | cons following fields =>
      rw [writtenRecord_cons_cons, bytesOf_append, bytesOf_append, List.append_assoc,
        List.append_assoc, recordsFrom_quotedField hmode, bytesOf_toString hdelimiter,
        List.singleton_append, recordsFrom_of_fieldEnd hfieldEnd]
      obtain ⟨behind, hrest⟩ := ih (.inr rfl) (List.cons_ne_nil _ _) _ (bytesOf field :: done)
      refine ⟨behind, ?_⟩
      rw [Draft.endField, List.reverse_reverse, hrest, List.reverse_cons, List.append_assoc]
      rfl

theorem map_fields_recordsFrom_written (hdelimiter : delimiter ∈ delimiters)
    {records : List (List String)} (hrecords : ∀ fields ∈ records, fields ≠ []) (mark : Mark) :
    (recordsFrom (delimiterByte delimiter) mark .between (.starting mark)
      (bytesOf (written delimiter records))).map Record.fields =
      records.map (·.map bytesOf) := by
  induction records generalizing mark with
  | nil => rfl
  | cons fields records ih =>
    obtain ⟨hfields, hrecords⟩ := List.forall_mem_cons.mp hrecords
    obtain ⟨behind, hread⟩ := recordsFrom_writtenRecord hdelimiter (.inl rfl) hfields mark mark []
      (bytesOf (written delimiter records))
    rw [written_cons, bytesOf_append, Draft.starting, hread, List.map_cons, ih hrecords]
    rfl

end

/-! ### Reading fields -/

theorem trimBytes_eq_self {bytes : List UInt8} (hfront : ∀ b ∈ bytes.head?, isBlankByte b = false)
    (hend : ∀ b ∈ bytes.getLast?, isBlankByte b = false) : trimBytes bytes = bytes := by
  have hdrop (bytes : List UInt8) (h : ∀ b ∈ bytes.head?, isBlankByte b = false) :
      bytes.dropWhile isBlankByte = bytes := by
    rw [List.dropWhile_eq_self_iff]
    cases bytes <;> simp_all
  rw [← List.head?_reverse] at hend
  rw [trimBytes, hdrop bytes hfront, hdrop _ hend, List.reverse_reverse]

theorem isBlankByte_eq_false {c : Char} {b : UInt8} (hb : b ∈ Utf8.encodeChar c)
    (hc : Text.isBlank c = false) : isBlankByte b = false := by
  rw [Bool.eq_false_iff] at hc ⊢
  intro hblank
  apply hc
  simp only [isBlankByte, Bool.or_eq_true, beq_iff_eq] at hblank
  rcases hblank with (((rfl | rfl) | rfl) | rfl) | rfl <;>
    rw [Text.isBlank, Utf8.toNat_eq_of_mem_encodeChar hb (by decide)] <;> decide

theorem trimBytes_encode {cs : List Char} (h : Text.IsTrimmed cs) :
    trimBytes (Utf8.encode cs) = Utf8.encode cs := by
  apply trimBytes_eq_self
  · intro b hb
    obtain ⟨c, hc, hb⟩ := Utf8.exists_of_mem_head?_encode hb
    exact isBlankByte_eq_false hb (h.1 c hc)
  · intro b hb
    obtain ⟨c, hc, hb⟩ := Utf8.exists_of_mem_getLast?_encode hb
    exact isBlankByte_eq_false hb (h.2 c hc)

theorem trimBytes_bytesOf {text : String} (h : Text.trim text = text) :
    trimBytes (bytesOf text) = bytesOf text := by
  rw [Text.trim_eq_self_iff] at h
  exact trimBytes_encode h

theorem textsFrom_map_bytesOf {texts : List String}
    (htexts : ∀ text ∈ texts, Text.trim text = text) (field : Nat) :
    textsFrom field (texts.map bytesOf) = .ok texts := by
  induction texts generalizing field with
  | nil => rfl
  | cons text texts ih =>
    obtain ⟨htext, htexts⟩ := List.forall_mem_cons.mp htexts
    rw [List.map_cons, textsFrom, bytesOf, Utf8.decode_encode]
    simp only [ih htexts]
    exact congrArg (fun text => Except.ok (text :: texts)) htext

theorem rowOf_eq_zip {headers fields : List String} (h : fields.length = headers.length) :
    rowOf headers fields = headers.zip (fields.map .text) := by
  induction headers generalizing fields with
  | nil =>
    obtain rfl := List.eq_nil_of_length_eq_zero h
    rfl
  | cons header headers ih =>
    cases fields with
    | nil => cases h
    | cons field fields => exact congrArg ((header, .text field) :: ·) (ih (Nat.succ.inj h))

theorem texts_eq_ok {record : Record} {fields : List String}
    (hrecord : record.fields = fields.map bytesOf)
    (htrimmed : ∀ field ∈ fields, Text.trim field = field) (number : Nat) :
    texts number record = .ok fields := by
  rw [texts, hrecord, textsFrom_map_bytesOf htrimmed]
  rfl

theorem all_isEmpty_eq_false {fields : List String} (h : ∃ field ∈ fields, field ≠ "") :
    fields.all String.isEmpty = false := by
  simpa [List.all_eq_false] using h

theorem rowsFrom_eq_ok {headers : List String} {records : List Record} {rows : List (List String)}
    (hrecords : records.map Record.fields = rows.map (·.map bytesOf))
    (htrimmed : ∀ row ∈ rows, ∀ field ∈ row, Text.trim field = field)
    (hwide : ∀ row ∈ rows, row.length = headers.length)
    (hcells : ∀ row ∈ rows, ∃ cell ∈ row, cell ≠ "") (number : Nat) :
    rowsFrom headers number records =
      .ok (rows.map fun row => headers.zip (row.map .text)) := by
  induction rows generalizing records number with
  | nil =>
    obtain rfl := List.map_eq_nil_iff.mp hrecords
    rfl
  | cons row rows ih =>
    obtain ⟨record, records, rfl, hrecord, hrecords⟩ := List.map_eq_cons_iff.mp hrecords
    rw [List.forall_mem_cons] at htrimmed hwide hcells
    have htrim : record.fields.map trimBytes = row.map bytesOf := by
      rw [hrecord, List.map_map]
      exact List.map_congr_left fun field hfield => trimBytes_bytesOf (htrimmed.1 field hfield)
    rw [rowsFrom, texts_eq_ok htrim htrimmed.1, ok_bind, ih hrecords htrimmed.2 hwide.2 hcells.2,
      ok_bind, all_isEmpty_eq_false hcells.1, rowOf_eq_zip hwide.1]
    rfl

/-! ### Reading tables -/

/-- A table begins with a quote, and so with no byte order mark. -/
theorem records_written {delimiter : Char} (hdelimiter : delimiter ∈ delimiters)
    {fields : List String} {others : List (List String)}
    (hrecords : ∀ record ∈ fields :: others, record ≠ []) :
    (records (delimiterByte delimiter) (bytesOf (written delimiter (fields :: others)))).map
      Record.fields = (fields :: others).map (·.map bytesOf) := by
  obtain ⟨field, rest, hfirst⟩ := exists_writtenRecord delimiter (hrecords fields (by simp))
  obtain ⟨bytes, hbytes⟩ :
      ∃ bytes, bytesOf (written delimiter (fields :: others)) = quote :: bytes := by
    rw [written_cons, hfirst, bytesOf_append, bytesOf_append, bytesOf_quotedField]
    exact ⟨_, rfl⟩
  have hmark : records (delimiterByte delimiter) (quote :: bytes) =
      recordsFrom (delimiterByte delimiter) .start .between (.starting .start) (quote :: bytes) :=
    rfl
  rw [hbytes, hmark, ← hbytes, map_fields_recordsFrom_written hdelimiter hrecords]

theorem isBlankText_written (delimiter : Char) {fields : List String} (hfields : fields ≠ [])
    (records : List (List String)) :
    Text.isBlankText (written delimiter (fields :: records)) = false := by
  obtain ⟨field, rest, hrecord⟩ := exists_writtenRecord delimiter hfields
  rw [written_cons, hrecord, String.append_assoc, Text.isBlankText, String.toList_append,
    quotedField, String.toList_ofList]
  rfl

theorem toNat_le_of_mem_delimiters {delimiter : Char} (h : delimiter ∈ delimiters) :
    ¬ 0xFF < delimiter.toNat := by
  rcases mem_delimiters_iff.mp h with rfl | rfl | rfl | rfl <;> decide

/-! ### Telling the delimiter -/

theorem mostFrequent_of_le {cs : List Char} {best : Char} {bestCount : Nat} {ds : List Char}
    (h : ∀ d ∈ ds, cs.count d ≤ bestCount) : mostFrequent cs best bestCount ds = best := by
  induction ds with
  | nil => rfl
  | cons d ds ih =>
    obtain ⟨hd, hds⟩ := List.forall_mem_cons.mp h
    rw [mostFrequent]
    simp only [if_neg (Nat.not_lt.mpr hd), ih hds]

/-- The only one of some delimiters that occurs is the most frequent one. -/
theorem mostFrequent_eq {cs : List Char} {best delimiter : Char} {ds : List Char}
    (hdelimiter : delimiter ∈ ds) (hoccurs : delimiter ∈ cs)
    (hothers : ∀ d ∈ ds, d ≠ delimiter → d ∉ cs) : mostFrequent cs best 0 ds = delimiter := by
  induction ds with
  | nil => cases hdelimiter
  | cons d ds ih =>
    rw [List.forall_mem_cons] at hothers
    rw [mostFrequent]
    by_cases hd : d = delimiter
    · subst hd
      simp only [if_pos (List.count_pos_iff.mpr hoccurs)]
      apply mostFrequent_of_le
      intro e he
      by_cases hed : e = d
      · rw [hed]
      · rw [List.count_eq_zero_of_not_mem (hothers.2 e he hed)]
        exact Nat.zero_le _
    · have hcount : cs.count d = 0 := List.count_eq_zero_of_not_mem (hothers.1 hd)
      simp only [hcount, Nat.lt_irrefl, if_false]
      exact ih (List.mem_of_ne_of_mem (Ne.symm hd) hdelimiter) hothers.2

theorem forall_mem_quotedField {P : Char → Prop} (hquote : P '"') {field : String}
    (hfield : ∀ c ∈ field.toList, P c) : ∀ c ∈ (quotedField field).toList, P c := by
  rw [quotedField, String.toList_ofList, List.forall_mem_cons, List.forall_mem_append]
  refine ⟨hquote, ?_, by simpa using hquote⟩
  intro c hc
  obtain ⟨d, hd, hcd⟩ := List.mem_flatMap.mp hc
  rw [quotedChar] at hcd
  split at hcd
  · simp only [List.mem_cons, List.not_mem_nil, or_false, or_self] at hcd
    exact hcd ▸ hquote
  · exact List.mem_singleton.mp hcd ▸ hfield d hd

section
variable {delimiter : Char} {fields : List String}

theorem notMem_quotedFields {c : Char} (hquote : '"' ≠ c) (hc : delimiter ≠ c)
    (hfields : ∀ field ∈ fields, c ∉ field.toList) :
    c ∉ (quotedFields delimiter fields).toList := by
  have hne : ∀ d ∈ (quotedFields delimiter fields).toList, d ≠ c := by
    refine Text.forall_mem_join (by simpa using hc) ?_
    rw [List.forall_mem_map]
    intro field hfield
    exact forall_mem_quotedField hquote fun d hd heq => hfields field hfield (heq ▸ hd)
  exact fun hmem => hne c hmem rfl

theorem getLast?_quotedFields (hfields : fields ≠ []) :
    (quotedFields delimiter fields).toList.getLast? = some '"' := by
  induction fields with
  | nil => exact absurd rfl hfields
  | cons field fields ih =>
    cases fields with
    | nil =>
      rw [quotedFields_single, quotedField, String.toList_ofList, ← List.cons_append,
        List.getLast?_concat]
    | cons following fields =>
      rw [quotedFields_cons_cons, String.toList_append, List.getLast?_append,
        ih (List.cons_ne_nil _ _)]
      rfl

theorem delimiter_mem_quotedFields (htwo : 2 ≤ fields.length) :
    delimiter ∈ (quotedFields delimiter fields).toList := by
  match fields with
  | [] | [_] => simp at htwo
  | field :: following :: fields =>
    rw [quotedFields_cons_cons]
    simp

/-- Where no header has a delimiter in it, those of the first line stand between its fields. -/
theorem detectDelimiter_cons (hdelimiter : delimiter ∈ delimiters) (htwo : 2 ≤ fields.length)
    (hplain : ∀ field ∈ fields, '\n' ∉ field.toList ∧ ∀ d ∈ delimiters, d ∉ field.toList)
    (records : List (List String)) :
    detectDelimiter (written delimiter (fields :: records)) = delimiter := by
  have hfeed : '\n' ∉ (quotedFields delimiter fields).toList :=
    notMem_quotedFields (by decide) (ne_of_mem_of_not_mem hdelimiter (by decide))
      fun field hfield => (hplain field hfield).1
  have hreturn : (quotedFields delimiter fields).toList.getLast? ≠ some '\r' := by
    rw [getLast?_quotedFields (List.length_pos_iff.mp (by omega))]
    decide
  rw [detectDelimiter, written_cons, writtenRecord, Text.lines_append_lineFeed hfeed hreturn,
    List.headD_cons]
  refine mostFrequent_eq hdelimiter (delimiter_mem_quotedFields htwo) ?_
  intro d hd hne
  have hquote : '"' ≠ d := (ne_of_mem_of_not_mem hd (by decide)).symm
  exact notMem_quotedFields hquote hne.symm fun field hfield => (hplain field hfield).2 d hd

end

/-- Reading undoes writing: the headers and the rows are as they were. The delimiter can be told
from the text where there are two headers and none has a line feed or a delimiter in it. -/
theorem parse_written {delimiter : Char} (hdelimiter : delimiter ∈ delimiters)
    {headers : List String} {rows : List (List String)}
    (hnames : ∃ header ∈ headers, header ≠ "")
    (hwide : ∀ row ∈ rows, row.length = headers.length)
    (hcells : ∀ row ∈ rows, ∃ cell ∈ row, cell ≠ "")
    (htrimmed : ∀ record ∈ headers :: rows, ∀ field ∈ record, Text.trim field = field) :
    parse (written delimiter (headers :: rows)) delimiter =
        .ok (headers, rows.map fun row => headers.zip (row.map .text)) ∧
      (2 ≤ headers.length →
        (∀ header ∈ headers, '\n' ∉ header.toList ∧ ∀ d ∈ delimiters, d ∉ header.toList) →
        detectDelimiter (written delimiter (headers :: rows)) = delimiter) := by
  refine ⟨?_, fun htwo hplain => detectDelimiter_cons hdelimiter htwo hplain rows⟩
  have hrecords : ∀ record ∈ headers :: rows, record ≠ [] := by
    have hne (record : List String) : (∃ field ∈ record, field ≠ "") → record ≠ [] := by
      rintro ⟨field, hfield, -⟩
      exact List.ne_nil_of_mem hfield
    exact List.forall_mem_cons.mpr ⟨hne _ hnames, fun row hrow => hne _ (hcells row hrow)⟩
  have hblank := isBlankText_written delimiter (hrecords headers List.mem_cons_self) rows
  obtain ⟨first, others, hread, hfirst, hothers⟩ :=
    List.map_eq_cons_iff.mp (records_written hdelimiter hrecords)
  rw [bytesOf, delimiterByte] at hread
  rw [List.forall_mem_cons] at htrimmed
  rw [parse, hblank, hread]
  simp only [if_neg Bool.false_ne_true, if_neg (toNat_le_of_mem_delimiters hdelimiter),
    texts_eq_ok hfirst htrimmed.1, ok_bind, all_isEmpty_eq_false hnames,
    rowsFrom_eq_ok hothers htrimmed.2 hwide hcells]
  rfl

/-- A table with delimiters, quotes, line feeds and empty texts in its cells. -/
theorem parse_written_awkward :
    written '|' [["note", "say \"hi\""], ["a|b\n\"c\"", ""], ["", "é;😀"]] =
      "\"note\"|\"say \"\"hi\"\"\"\n\"a|b\n\"\"c\"\"\"|\"\"\n\"\"|\"é;😀\"\n" ∧
    parse (written '|' [["note", "say \"hi\""], ["a|b\n\"c\"", ""], ["", "é;😀"]]) '|' =
      .ok (["note", "say \"hi\""],
        [[("note", .text "a|b\n\"c\""), ("say \"hi\"", .text "")],
          [("note", .text ""), ("say \"hi\"", .text "é;😀")]]) ∧
    detectDelimiter (written '|' [["note", "say \"hi\""], ["a|b\n\"c\"", ""], ["", "é;😀"]]) =
      '|' := by
  obtain ⟨hparse, hdetect⟩ := @parse_written '|' (by decide) ["note", "say \"hi\""]
    [["a|b\n\"c\"", ""], ["", "é;😀"]] (by decide) (by decide) (by decide) (by decide)
  exact ⟨by decide, hparse, hdetect (by decide) (by simp [delimiters])⟩

end RowRecipe.Csv
