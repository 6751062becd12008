import RowRecipe.Proofs.Fields
import RowRecipe.Proofs.Tables

/-!
# Delimiters and characters

A delimiter is one byte, but it is checked as a code point: one from 0x80 to 0xFF gets past the
check although two bytes write it. The byte of such a delimiter may be a part of a longer character,
which it then splits into fields that are no texts. Where it splits none, every field is a text.

Main statement: `Csv.foreseen_parse_iff`.
-/
namespace RowRecipe.Csv

/-- A byte is one of several that write a character. -/
def Splits (delimiter : UInt8) (c : Char) : Prop :=
  0x80 ≤ c.toNat ∧ delimiter ∈ Utf8.encodeChar c

/-- What reading a text ends in if no field is found to be no text: nothing is there, or the
delimiter is refused, or there are no headers, or there is a table. -/
inductive Foreseen (content : String) (delimiter : Char) :
    Except CsvError (List String × List Row) → Prop
  | empty (h : Text.isBlankText content = true) : Foreseen content delimiter (.error .empty)
  | wideDelimiter (hblank : Text.isBlankText content = false) (hwide : 0xFF < delimiter.toNat) :
    Foreseen content delimiter (.error (.wideDelimiter delimiter))
  | noHeaders (hblank : Text.isBlankText content = false) (hnarrow : ¬0xFF < delimiter.toNat) :
    Foreseen content delimiter (.error .noHeaders)
  | table (hblank : Text.isBlankText content = false) (hnarrow : ¬0xFF < delimiter.toNat)
    (headers : List String) (rows : List Row) : Foreseen content delimiter (.ok (headers, rows))

/-! ### Bytes of longer characters -/

/-- Where a byte of a field puts the next one. -/
def Mode.inside : Mode → Mode
  | .quoted => .quoted
  | _ => .plain

theorem Mode.inside_inside (mode : Mode) : mode.inside.inside = mode.inside := by
  cases mode <;> rfl

theorem toNat_le_of_mem_encodeChar {c : Char} {b : UInt8} (hc : 0x80 ≤ c.toNat)
    (hb : b ∈ Utf8.encodeChar c) : 0x80 ≤ b.toNat := by
  by_contra hsmall
  have h := Utf8.toNat_eq_of_mem_encodeChar hb (by omega)
  omega

section
variable {delimiter b : UInt8} {mark start : Mark} {mode : Mode} {draft : Draft}
variable {bytes rest : List UInt8} {cs : List Char} {c : Char}

theorem role_content (hdelimiter : b ≠ delimiter) (hb : 0x80 ≤ b.toNat) (mode : Mode) :
    role delimiter mode b = (.content, mode.inside) := by
  have hquote : b ≠ quote := by
    rintro rfl
    exact absurd hb (by decide)
  have hend : isLineEnd b = false := by
    rw [isLineEnd, Bool.or_eq_false_iff, beq_eq_false_iff_ne, beq_eq_false_iff_ne]
    constructor <;> rintro rfl <;> exact absurd hb (by decide)
  have hplain : outside delimiter b = (.content, .plain) := by
    rw [outside, if_neg hdelimiter, hend]
    rfl
  cases mode <;> simp [role, Mode.inside, hquote, hend, hplain]

/-- Such bytes belong to the field, unless they are the delimiter. -/
theorem recordsFrom_append_content (h : ∀ b ∈ bytes, b ≠ delimiter ∧ 0x80 ≤ b.toNat)
    (hne : bytes ≠ []) (mark : Mark) (mode : Mode) (draft : Draft) (rest : List UInt8) :
    recordsFrom delimiter mark mode draft (bytes ++ rest) =
      recordsFrom delimiter (mark.past bytes) mode.inside
        { draft with field := bytes.reverse ++ draft.field } rest := by
  induction bytes generalizing mark mode draft with
  | nil => exact absurd rfl hne
  | cons b bytes ih =>
    obtain ⟨⟨hdelimiter, hb⟩, hbytes⟩ := List.forall_mem_cons.mp h
    rw [List.cons_append, recordsFrom_of_content (role_content hdelimiter hb mode), Mark.past_cons]
    cases bytes with
    | nil => rfl
    | cons following bytes =>
      rw [ih hbytes (List.cons_ne_nil _ _), Mode.inside_inside, List.reverse_cons (a := b),
        List.append_assoc, List.singleton_append]

/-! ### Delimiters that split no character -/

/-- What has been read of a record so far is texts. -/
def Draft.IsReadable (draft : Draft) : Prop :=
  (∀ field ∈ draft.fields, Utf8.IsText field) ∧ Utf8.IsText draft.field.reverse

theorem Draft.isReadable_starting (mark : Mark) : (starting mark).IsReadable :=
  ⟨List.forall_mem_nil _, Utf8.isText_nil⟩

theorem Draft.IsReadable.endField (h : draft.IsReadable) : draft.endField.IsReadable :=
  ⟨List.forall_mem_cons.mpr ⟨h.2, h.1⟩, Utf8.isText_nil⟩

theorem Draft.IsReadable.finish (h : draft.IsReadable) : draft.finish.IsReadable := by
  intro field hfield
  exact h.endField.1 field (List.mem_reverse.mp hfield)

theorem Draft.IsReadable.extend (h : draft.IsReadable) (c : Char) :
    Draft.IsReadable { draft with field := (Utf8.encodeChar c).reverse ++ draft.field } := by
  refine ⟨h.1, ?_⟩
  rw [List.reverse_append, List.reverse_reverse]
  exact h.2.append (Utf8.isText_encodeChar c)

/-- Fields end only between characters, so all of them are texts. -/
theorem isReadable_of_mem_recordsFrom (h : ∀ c ∈ cs, ¬Splits delimiter c)
    (hdraft : draft.IsReadable) :
    ∀ record ∈ recordsFrom delimiter mark mode draft (Utf8.encode cs), record.IsReadable := by
  induction cs generalizing mark mode draft with
  | nil =>
    rw [show Utf8.encode [] = [] from rfl, recordsFrom]
    split
    · exact List.forall_mem_nil _
    · exact List.forall_mem_singleton.mpr hdraft.finish
  | cons c cs ih =>
    obtain ⟨hc, hcs⟩ := List.forall_mem_cons.mp h
    rw [Utf8.encode_cons]
    by_cases hsmall : c.toNat < 0x80
    · -- The character is one byte, which may have any role.
      have hbytes : Utf8.encodeChar c = [c.toNat.toUInt8] := by
        simp only [Utf8.encodeChar, if_pos hsmall]
      rw [hbytes, List.singleton_append]
      cases hrole : role delimiter mode c.toNat.toUInt8 with
      | mk part next =>
        cases part with
        | content =>
          have hextended := hdraft.extend c
          rw [hbytes] at hextended
          rw [recordsFrom_of_content hrole]
          exact ih hcs hextended
        | nothing =>
          rw [recordsFrom_of_nothing hrole]
          exact ih hcs hdraft
        | fieldEnd =>
          rw [recordsFrom_of_fieldEnd hrole]
          exact ih hcs hdraft.endField
        | recordEnd =>
          rw [recordsFrom_of_recordEnd hrole]
          exact List.forall_mem_cons.mpr ⟨hdraft.finish, ih hcs (Draft.isReadable_starting _)⟩
    · -- The character is several bytes, none of which is the delimiter.
      have hlong : 0x80 ≤ c.toNat := Nat.not_lt.mp hsmall
      have hcontent : ∀ b ∈ Utf8.encodeChar c, b ≠ delimiter ∧ 0x80 ≤ b.toNat := by
        intro b hb
        refine ⟨?_, toNat_le_of_mem_encodeChar hlong hb⟩
        rintro rfl
        exact hc ⟨hlong, hb⟩
      rw [recordsFrom_append_content hcontent (Utf8.encodeChar_ne_nil c)]
      exact ih hcs (hdraft.extend c)

/-- A text begins with the bytes of a mark only if it begins with the mark. -/
theorem records_encode (h : cs.head? ≠ some '\uFEFF') :
    records delimiter (Utf8.encode cs) =
      recordsFrom delimiter .start .between (.starting .start) (Utf8.encode cs) := by
  rw [records.eq_def]
  split
  next bytes hbytes =>
    cases cs with
    | nil => cases hbytes
    | cons c cs =>
      obtain ⟨first, others, hc, hhead⟩ := Utf8.exists_head_encodeChar c (Utf8.encode cs)
      rw [Utf8.encode_cons, hc, List.cons_append, List.cons.injEq] at hbytes
      rw [hbytes.1, hbytes.2] at hhead
      have hmark : Utf8.head 0xEF (0xBB :: 0xBF :: bytes) = .char '\uFEFF' 3 := rfl
      rw [hmark, Utf8.Head.char.injEq] at hhead
      exact absurd (congrArg some hhead.1.symm) h
  next => rfl

theorem records_encode_mark (cs : List Char) :
    records delimiter (Utf8.encode ('\uFEFF' :: cs)) =
      recordsFrom delimiter ⟨1, 3⟩ .between (.starting .start) (Utf8.encode cs) :=
  rfl

theorem isReadable_of_mem_records (h : ∀ c ∈ cs, ¬Splits delimiter c) :
    ∀ record ∈ records delimiter (Utf8.encode cs), record.IsReadable := by
  by_cases hmark : cs.head? = some '\uFEFF'
  · obtain ⟨others, rfl⟩ := List.head?_eq_some_iff.mp hmark
    rw [records_encode_mark]
    exact isReadable_of_mem_recordsFrom (List.forall_mem_cons.mp h).2 (Draft.isReadable_starting _)
  · rw [records_encode hmark]
    exact isReadable_of_mem_recordsFrom h (Draft.isReadable_starting _)

/-! ### Delimiters that split a character -/

/-- In a record that has begun the fields that are done come first. -/
theorem exists_recordsFrom_eq_cons (hmode : mode ≠ .between) (delimiter : UInt8)
    (start mark : Mark) (fields : List (List UInt8)) (field bytes : List UInt8) :
    ∃ others records, recordsFrom delimiter mark mode ⟨start, fields, field⟩ bytes =
      ⟨fields.reverse ++ others, start⟩ :: records := by
  induction bytes generalizing mark mode fields field with
  | nil =>
    rw [recordsFrom, if_neg hmode]
    exact ⟨[field.reverse], [], by rw [Draft.finish, Draft.endField, List.reverse_cons]⟩
  | cons b bytes ih =>
    cases hrole : role delimiter mode b with
    | mk part next =>
      have hnext : part ≠ .recordEnd → next ≠ .between := by
        revert hrole
        unfold role outside
        grind
      cases part with
      | content =>
        rw [recordsFrom_of_content hrole]
        exact ih (hnext (by decide)) (mark.after b) fields (b :: field)
      | nothing =>
        rw [recordsFrom_of_nothing hrole]
        exact ih (hnext (by decide)) (mark.after b) fields field
      | fieldEnd =>
        obtain ⟨others, records, hread⟩ := ih (hnext (by decide)) (mark.after b)
          (field.reverse :: fields) []
        rw [recordsFrom_of_fieldEnd hrole, Draft.endField, hread, List.reverse_cons,
          List.append_assoc]
        exact ⟨_, _, rfl⟩
      | recordEnd =>
        rw [recordsFrom_of_recordEnd hrole, Draft.finish, Draft.endField, List.reverse_cons]
        exact ⟨_, _, rfl⟩

/-- Behind a delimiter that begins a character there is a field that begins in its middle. -/
theorem recordsFrom_of_split_front (hfirst : 0xC0 ≤ delimiter.toNat)
    (hbytes : ∀ b ∈ bytes, 0x80 ≤ b.toNat ∧ b.toNat < 0xC0) (hne : bytes ≠ [])
    (start mark : Mark) :
    recordsFrom delimiter mark .plain ⟨start, [], [0x78]⟩ (delimiter :: bytes) =
        [⟨[[0x78], bytes], start⟩] ∧
      textsFrom 0 [[0x78], bytes] = .error (1, 0) := by
  have hcontent : ∀ b ∈ bytes, b ≠ delimiter ∧ 0x80 ≤ b.toNat := by
    intro b hb
    have hrange := hbytes b hb
    refine ⟨?_, hrange.1⟩
    rintro rfl
    omega
  have hend : role delimiter .plain delimiter = (.fieldEnd, .front) := if_pos rfl
  constructor
  · have hread := recordsFrom_append_content hcontent hne (mark.after delimiter) .front
      ⟨start, [[0x78]], []⟩ []
    rw [List.append_nil] at hread
    rw [recordsFrom_of_fieldEnd hend]
    refine hread.trans ?_
    simp [recordsFrom, Mode.inside, Draft.finish, Draft.endField]
  · obtain ⟨second, others, rfl⟩ := List.exists_cons_of_ne_nil hne
    have hone : Utf8.decode [0x78] = .ok ['x'] := rfl
    have hbroken := Utf8.decode_of_continuation (hbytes second List.mem_cons_self) others
    simp only [textsFrom, hone, hbroken]
    rfl

/-- In front of a delimiter inside a character there is a field that ends in its middle. -/
theorem exists_recordsFrom_of_split_inside {first : UInt8} (hfirst : 0x80 ≤ first.toNat)
    (hdelimiter : delimiter ≠ first) (hnot : delimiter ∉ bytes)
    (hbytes : ∀ b ∈ bytes, 0x80 ≤ b.toNat) (hshort : bytes.length + 1 < Utf8.lengthOf first)
    (start mark : Mark) (rest : List UInt8) :
    ∃ fields records,
      recordsFrom delimiter mark .plain ⟨start, [], [0x78]⟩ (first :: bytes ++ delimiter :: rest) =
          ⟨fields, start⟩ :: records ∧
        textsFrom 0 fields = .error (0, 1) := by
  have hcontent : ∀ b ∈ first :: bytes, b ≠ delimiter ∧ 0x80 ≤ b.toNat :=
    List.forall_mem_cons.mpr
      ⟨⟨Ne.symm hdelimiter, hfirst⟩, fun b hb => ⟨ne_of_mem_of_not_mem hb hnot, hbytes b hb⟩⟩
  have hend : role delimiter .plain delimiter = (.fieldEnd, .front) := if_pos rfl
  have hfront : Mode.front ≠ .between := by decide
  obtain ⟨fields, records, hread⟩ := exists_recordsFrom_eq_cons hfront delimiter start
    ((mark.past (first :: bytes)).after delimiter) [0x78 :: first :: bytes] [] rest
  refine ⟨(0x78 :: first :: bytes) :: fields, records, ?_, ?_⟩
  · have hfield : Draft.endField ⟨start, [], (first :: bytes).reverse ++ [0x78]⟩ =
        ⟨start, [0x78 :: first :: bytes], []⟩ := by
      simp [Draft.endField]
    rw [recordsFrom_append_content hcontent (List.cons_ne_nil _ _), show Mode.plain.inside = .plain
      from rfl, recordsFrom_of_fieldEnd hend, hfield, hread]
    rfl
  · obtain ⟨n, hhead⟩ := Utf8.exists_broken_of_short hfirst hshort
    have hone : Utf8.head 0x78 (first :: bytes) = .char 'x' 1 := rfl
    have hbroken : Utf8.strictFrom 0 1 (first :: bytes) = .error 1 := by
      rw [Utf8.strictFrom, hhead]
    have hdecode : Utf8.decode (0x78 :: first :: bytes) = .error 1 := by
      rw [Utf8.decode, Utf8.strictFrom, hone]
      exact congrArg (Except.map ('x' :: ·)) hbroken
    simp only [textsFrom, hdecode]

/-- A character that is split leaves a field that is no text. -/
theorem exists_recordsFrom_of_splits (h : Splits delimiter c) (start mark : Mark) :
    ∃ fields records fault,
      recordsFrom delimiter mark .plain ⟨start, [], [0x78]⟩ (Utf8.encodeChar c) =
          ⟨fields, start⟩ :: records ∧
        textsFrom 0 fields = .error fault := by
  obtain ⟨hlong, hdelimiter⟩ := h
  obtain ⟨first, others, hbytes, hfirst, hlength, hothers⟩ := Utf8.exists_bytes_of_long hlong
  rw [hbytes] at hdelimiter ⊢
  by_cases heq : delimiter = first
  · subst heq
    have hne : others ≠ [] := by
      have htwo := Utf8.two_le_lengthOf delimiter
      rintro rfl
      simp only [List.length_nil] at hlength
      omega
    have hlead : 0xC0 ≤ delimiter.toNat := by omega
    obtain ⟨hread, herror⟩ := recordsFrom_of_split_front hlead hothers hne start mark
    exact ⟨_, _, _, hread, herror⟩
  · obtain ⟨front, behind, rfl, hfront⟩ :=
      List.eq_append_cons_of_mem (List.mem_of_ne_of_mem heq hdelimiter)
    have hshort : front.length + 1 < Utf8.lengthOf first := by
      rw [← hlength, List.length_append, List.length_cons]
      omega
    obtain ⟨fields, records, hread, herror⟩ := exists_recordsFrom_of_split_inside (by omega) heq
      hfront (fun b hb => (hothers b (List.mem_append_left _ hb)).1) hshort start mark behind
    exact ⟨fields, records, _, hread, herror⟩

/-- The code point of a character that has a byte in its form. -/
def splitCode (n : Nat) : Nat :=
  if n < 0xC0 then n + 0x40
  else if n < 0xE0 then (n - 0xC0) * 64
  else if n < 0xF0 then if n = 0xED then 0xD000 else (n - 0xE0) * 4096 + 0x800
  else if n = 0xF0 then 0x10000 else (n - 0xF0) * 0x40000

theorem splits_splitCode : ∀ n < 0xF5, 0x80 ≤ n ∧ n ≠ 0xC0 ∧ n ≠ 0xC1 →
    0x80 ≤ (Char.ofNat (splitCode n)).toNat ∧
      n.toUInt8 ∈ Utf8.encodeChar (Char.ofNat (splitCode n)) := by
  decide +kernel

/-- The bytes that are parts of longer characters. -/
theorem exists_splits_iff {n : Nat} (hn : n ≤ 0xFF) :
    (∃ c, Splits n.toUInt8 c) ↔ n < 0xF5 ∧ 0x80 ≤ n ∧ n ≠ 0xC0 ∧ n ≠ 0xC1 := by
  have hbyte := Utf8.toNat_toUInt8 (n := n) (by omega)
  constructor
  · rintro ⟨c, hlong, hmem⟩
    obtain ⟨first, others, hbytes, hfirst, -, hothers⟩ := Utf8.exists_bytes_of_long hlong
    rw [hbytes] at hmem
    rcases List.mem_cons.mp hmem with heq | hmem
    · rw [heq] at hbyte
      omega
    · have hrange := hothers _ hmem
      omega
  · rintro ⟨hhigh, hrange⟩
    exact ⟨_, splits_splitCode n hhigh hrange⟩

end

/-! ### Reading tables -/

section
variable {delimiter : Char}

theorem foreseen_parse {content : String}
    (h : delimiter.toNat ≤ 0xFF → ∀ c ∈ content.toList, ¬Splits (delimiterByte delimiter) c) :
    Foreseen content delimiter (parse content delimiter) := by
  cases hblank : Text.isBlankText content with
  | true =>
    rw [parse_of_blank hblank]
    exact .empty hblank
  | false =>
    by_cases hwide : 0xFF < delimiter.toNat
    · rw [parse_of_wide hblank hwide]
      exact .wideDelimiter hblank hwide
    · rw [parse_of_narrow hblank hwide]
      have hreadable := isReadable_of_mem_records (h (Nat.not_lt.mp hwide))
      rcases tableOf_readable hreadable with htable | ⟨headers, rows, htable⟩
      · rw [delimiterByte] at htable
        rw [htable]
        exact .noHeaders hblank hwide
      · rw [delimiterByte] at htable
        rw [htable]
        exact .table hblank hwide headers rows

/-- Where the delimiter splits a character there is a text that is read as no table, and not
because it is empty or has no headers. -/
theorem not_foreseen_parse {c : Char} (hnarrow : ¬0xFF < delimiter.toNat)
    (h : Splits (delimiterByte delimiter) c) :
    ¬Foreseen (String.ofList ['x', c]) delimiter (parse (String.ofList ['x', c]) delimiter) := by
  have hblank : Text.isBlankText (String.ofList ['x', c]) = false := by
    rw [Text.isBlankText, String.toList_ofList]
    rfl
  have hx : role (delimiterByte delimiter) .between 0x78 = (.content, .plain) := by
    have hne : ¬(0x78 : UInt8) = delimiterByte delimiter := by
      intro heq
      have hlarge := toNat_le_of_mem_encodeChar h.1 h.2
      rw [← heq] at hlarge
      exact absurd hlarge (by decide)
    rw [role, outside, if_neg hne]
    rfl
  obtain ⟨fields, others, fault, hread, herror⟩ :=
    exists_recordsFrom_of_splits h .start (Mark.start.after 0x78)
  have hrecords : records (delimiterByte delimiter) (Utf8.encode ['x', c]) =
      ⟨fields, .start⟩ :: others := by
    rw [records_encode (by simp)]
    have hbytes : Utf8.encode ['x', c] = 0x78 :: Utf8.encodeChar c :=
      congrArg (0x78 :: ·) (List.append_nil _)
    rw [hbytes, recordsFrom_of_content hx]
    exact hread
  have hparse : parse (String.ofList ['x', c]) delimiter =
      .error (.badField 0 .start fault.1 fault.2) := by
    rw [delimiterByte] at hrecords
    rw [parse_of_narrow hblank hnarrow, String.toList_ofList, hrecords, tableOf, texts, herror]
    rfl
  rw [hparse]
  intro hforeseen
  cases hforeseen

/-- Whatever a text, reading it with a delimiter ends in a table or in one of the three foreseen
errors, if and only if the delimiter is below 0x80, or its byte is in no character at all, or it is
refused. With any other one this holds of the texts in which it splits no character. -/
theorem foreseen_parse_iff (delimiter : Char) :
    ((∀ content, Foreseen content delimiter (parse content delimiter)) ↔
      delimiter.toNat < 0x80 ∨ delimiter.toNat = 0xC0 ∨ delimiter.toNat = 0xC1 ∨
        0xF5 ≤ delimiter.toNat) ∧
    ∀ content : String, (∀ c ∈ content.toList, ¬Splits (delimiterByte delimiter) c) →
      Foreseen content delimiter (parse content delimiter) := by
  refine ⟨⟨?_, ?_⟩, fun content h => foreseen_parse fun _ => h⟩
  · intro hforeseen
    by_contra hrange
    have hnarrow : delimiter.toNat ≤ 0xFF := by omega
    obtain ⟨c, hc⟩ := (exists_splits_iff hnarrow).mpr (by omega)
    exact not_foreseen_parse (Nat.not_lt.mpr hnarrow) hc (hforeseen _)
  · intro hrange content
    refine foreseen_parse fun hnarrow c _ hc => ?_
    have hmost := (exists_splits_iff hnarrow).mp ⟨c, hc⟩
    omega

/-- The sign © is told to be one byte, and splits é. -/
theorem parse_splitting : parse "é;a\n1;2" '©' = .error (.badField 0 .start 0 0) := rfl

end

end RowRecipe.Csv
