import Mathlib.Data.List.Forall2
import Mathlib.Tactic.SplitIfs
import RowRecipe.Json.Reading
import RowRecipe.Proofs.Fallible

/-!
# Reading JSON that was written

The inside of a string is read as the characters that were escaped. A reader reads a text as a value
if it does so whatever comes behind the text, or whatever comes behind it that goes on with no
number. Then an array is read item by item, whatever gaps are between them, and so are the names of
the members of an object.
-/
namespace RowRecipe.Json

/-! ### Strings -/

theorem hexValue?_hexDigit (n : Nat) : hexValue? (hexDigit n) = some (n % 16) := by
  have hdigit : ∀ d < 16, hexValue? (Nat.digitChar d) = some d := by decide
  exact hdigit (n % 16) (Nat.mod_lt n (by decide))

theorem readTextFrom_plainEscape {letter c : Char} (hletter : letter ≠ 'u')
    (h : plainEscape? letter = some c) (rest : List Char) (offset : Nat) :
    readTextFrom 0 ('\\' :: letter :: rest) offset =
      (readTextFrom 0 rest (offset + 1 + letter.utf8Size)).map fun (inside, place) =>
        (c :: inside, place) := by
  have hescape : readEscape (letter :: rest) (offset + 1) = .ok (c, 1) := by
    simp only [readEscape, if_neg hletter, h]
  rw [readTextFrom, if_neg (by decide), if_pos rfl, hescape]
  rfl

theorem readTextFrom_unitEscape {c : Char} (h : c.toNat < 0x20) (rest : List Char) (offset : Nat) :
    ∃ behind, readTextFrom 0
        ('\\' :: 'u' :: '0' :: '0' :: hexDigit (c.toNat / 16) :: hexDigit c.toNat :: rest) offset =
      (readTextFrom 0 rest behind).map fun (inside, place) => (c :: inside, place) := by
  have hzero : hexValue? '0' = some 0 := rfl
  have hunit : ∀ offset, readHexUnit
      ('0' :: '0' :: hexDigit (c.toNat / 16) :: hexDigit c.toNat :: rest) offset =
        .ok c.toNat := by
    intro offset
    simp only [readHexUnit, hzero, hexValue?_hexDigit]
    congr 1
    omega
  have hescape : readEscape
      ('u' :: '0' :: '0' :: hexDigit (c.toNat / 16) :: hexDigit c.toNat :: rest) (offset + 1) =
        .ok (c, 5) := by
    have hlow : c.toNat < 0xD800 := by omega
    rw [readEscape, if_pos rfl, readUnit, hunit, ok_bind, if_pos (.inl hlow), Char.ofNat_toNat]
    rfl
  rw [readTextFrom, if_neg (by decide), if_pos rfl, hescape]
  exact ⟨_, rfl⟩

/-- A character is read from its escape, and what follows from behind it. -/
theorem readTextFrom_escape (c : Char) (rest : List Char) (offset : Nat) :
    ∃ behind, readTextFrom 0 (escape c ++ rest) offset =
      (readTextFrom 0 rest behind).map fun (inside, place) => (c :: inside, place) := by
  unfold escape
  split_ifs with hquote hbackslash hb hf hn hr ht hcontrol
  · exact ⟨_, readTextFrom_plainEscape (by decide) (by rw [hquote]; rfl) rest offset⟩
  · exact ⟨_, readTextFrom_plainEscape (by decide) (by rw [hbackslash]; rfl) rest offset⟩
  · exact ⟨_, readTextFrom_plainEscape (by decide) (by rw [hb]; rfl) rest offset⟩
  · exact ⟨_, readTextFrom_plainEscape (by decide) (by rw [hf]; rfl) rest offset⟩
  · exact ⟨_, readTextFrom_plainEscape (by decide) (by rw [hn]; rfl) rest offset⟩
  · exact ⟨_, readTextFrom_plainEscape (by decide) (by rw [hr]; rfl) rest offset⟩
  · exact ⟨_, readTextFrom_plainEscape (by decide) (by rw [ht]; rfl) rest offset⟩
  · exact readTextFrom_unitEscape hcontrol rest offset
  · refine ⟨offset + c.utf8Size, ?_⟩
    rw [List.singleton_append, readTextFrom, if_neg hquote, if_neg hbackslash, if_neg hcontrol]

/-- A string is read from its escapes up to the closing quote. -/
theorem readTextFrom_flatMap_escape (cs rest : List Char) (offset : Nat) :
    ∃ behind, readTextFrom 0 (cs.flatMap escape ++ '"' :: rest) offset =
      .ok (cs, ⟨rest, behind⟩) := by
  induction cs generalizing offset with
  | nil => exact ⟨offset + 1, rfl⟩
  | cons c cs ih =>
    obtain ⟨between, hfirst⟩ := readTextFrom_escape c (cs.flatMap escape ++ '"' :: rest) offset
    obtain ⟨behind, hrest⟩ := ih between
    refine ⟨behind, ?_⟩
    rw [List.flatMap_cons, List.append_assoc, hfirst, hrest]
    rfl

theorem quoted_append (cs rest : List Char) :
    quoted cs ++ rest = '"' :: (cs.flatMap escape ++ '"' :: rest) := by
  simp [quoted]

theorem chars_text (text : String) : (Json.text text).chars = quoted text.toList := rfl

theorem readText_escaped (text : String) (rest : List Char) (offset : Nat) :
    ∃ behind, readText ⟨text.toList.flatMap escape ++ '"' :: rest, offset⟩ =
      .ok (text, ⟨rest, behind⟩) := by
  obtain ⟨behind, h⟩ := readTextFrom_flatMap_escape text.toList rest offset
  refine ⟨behind, ?_⟩
  simp only [readText, h, Except.map, String.ofList_toList]

/-! ### Gaps -/

/-- A text that begins with neither a blank nor the end of an array. -/
def Begins (text : List Char) : Prop :=
  ∃ c cs, text = c :: cs ∧ isGap c = false ∧ c ≠ ']'

/-- A text that no number goes on with. -/
def Stops (rest : List Char) : Prop :=
  ∀ c ∈ rest.head?, c.isDigit = false ∧ c ≠ '.' ∧ c ≠ 'e' ∧ c ≠ 'E'

/-- A text of blanks. -/
def IsGaps (gaps : List Char) : Prop :=
  ∀ c ∈ gaps, isGap c = true

theorem isGaps_nil : IsGaps [] :=
  fun _ h => absurd h List.not_mem_nil

theorem stops_append {gaps rest : List Char} (hgaps : IsGaps gaps) (hrest : Stops rest) :
    Stops (gaps ++ rest) := by
  cases gaps with
  | nil => exact hrest
  | cons c cs =>
    rintro d ⟨⟩
    have hc := hgaps c List.mem_cons_self
    simp only [isGap, Bool.or_eq_true, beq_iff_eq] at hc
    obtain ((rfl | rfl) | rfl) | rfl := hc <;> decide

theorem skip_cons {c : Char} (h : isGap c = false) (cs : List Char) (offset : Nat) :
    Place.skip ⟨c :: cs, offset⟩ = ⟨c :: cs, offset⟩ := by
  simp [Place.skip, Place.afterGaps, h]

theorem skip_append {gaps : List Char} (h : IsGaps gaps) (rest : List Char) (offset : Nat) :
    Place.skip ⟨gaps ++ rest, offset⟩ = Place.skip ⟨rest, offset + gaps.length⟩ := by
  induction gaps generalizing offset with
  | nil => rfl
  | cons c cs ih =>
    obtain ⟨hc, hcs⟩ := List.forall_mem_cons.mp h
    have hnext := ih hcs (offset + 1)
    simp only [Place.skip, List.cons_append, Place.afterGaps, hc, if_true, List.length_cons]
      at hnext ⊢
    rw [hnext, Nat.add_assoc, Nat.add_comm 1]

/-- Texts with commas between them, gaps in front of each and gaps behind the last. -/
def listed (gaps last : List Char) : List (List Char) → List Char
  | [] => []
  | [part] => gaps ++ (part ++ last)
  | part :: parts => gaps ++ (part ++ ',' :: listed gaps last parts)

/-- What stands behind one of several texts. -/
def listedTail (gaps last : List Char) : List (List Char) → List Char
  | [] => last
  | part :: parts => ',' :: listed gaps last (part :: parts)

theorem listed_cons (gaps last text : List Char) (texts : List (List Char)) :
    listed gaps last (text :: texts) = gaps ++ (text ++ listedTail gaps last texts) := by
  cases texts <;> rfl

theorem length_le_listed (gaps last : List Char) (texts : List (List Char)) :
    texts.length ≤ (listed gaps last texts).length + 1 := by
  induction texts with
  | nil => exact Nat.zero_le _
  | cons text texts ih =>
    rw [listed_cons]
    cases texts with
    | nil => simp
    | cons next texts =>
      simp only [List.length_cons, List.length_append, listedTail] at ih ⊢
      omega

theorem stops_listedTail {last : List Char} (hlast : IsGaps last) (gaps : List Char)
    (texts : List (List Char)) {rest : List Char} (hrest : Stops rest) :
    Stops (listedTail gaps last texts ++ rest) := by
  cases texts with
  | nil => exact stops_append hlast hrest
  | cons text texts =>
    rintro d ⟨⟩
    decide

/-! ### Arrays -/

section
variable {gaps text : List Char} (rest : List Char) (offset : Nat)

theorem nextItem_append (h : IsGaps gaps) (first : Bool) :
    nextItem first ⟨gaps ++ rest, offset⟩ = nextItem first ⟨rest, offset + gaps.length⟩ := by
  simp only [nextItem, skip_append h]

theorem nextItem_of_begins (h : Begins text) :
    nextItem true ⟨text ++ rest, offset⟩ = .ok (true, ⟨text ++ rest, offset⟩) := by
  obtain ⟨c, cs, rfl, hgap, hend⟩ := h
  rw [nextItem, List.cons_append, skip_cons hgap]
  split
  · next h => cases h
  · next h => exact absurd (List.cons.inj h).1 hend
  · rfl

theorem nextItem_comma (hgaps : IsGaps gaps) (h : Begins text) :
    nextItem false ⟨',' :: (gaps ++ (text ++ rest)), offset⟩ =
      .ok (true, ⟨text ++ rest, offset + 1 + gaps.length⟩) := by
  obtain ⟨c, cs, rfl, hgap, hend⟩ := h
  simp [nextItem, skip_cons, skip_append hgaps, hgap, hend,
    show isGap ',' = false from rfl]

theorem nextItem_end (first : Bool) :
    nextItem first ⟨']' :: rest, offset⟩ = .ok (false, ⟨']' :: rest, offset⟩) := by
  simp [nextItem, skip_cons, isGap]

theorem endArray_end : endArray ⟨']' :: rest, offset⟩ = .ok ⟨rest, offset + 1⟩ := by
  simp [endArray, skip_cons, isGap]

end

section
variable {α : Type} {reader : Reader α} {values : List α}

/-- A reader reads a text as a value, whatever comes behind it. -/
structure Reads (reader : Reader α) (text : List Char) (value : α) : Prop where
  begins : Begins text
  reads (rest : List Char) (offset : Nat) :
    ∃ behind, reader ⟨text ++ rest, offset⟩ = .ok (value, ⟨rest, behind⟩)

/-- A reader reads a text as a value if what comes behind it goes on with no number. -/
structure ReadsUpTo (reader : Reader α) (text : List Char) (value : α) : Prop where
  begins : Begins text
  reads (rest : List Char) (hrest : Stops rest) (offset : Nat) :
    ∃ behind, reader ⟨text ++ rest, offset⟩ = .ok (value, ⟨rest, behind⟩)

theorem Reads.readsUpTo {text : List Char} {value : α} (h : Reads reader text value) :
    ReadsUpTo reader text value :=
  ⟨h.begins, fun rest _ offset => h.reads rest offset⟩

theorem stops_end (rest : List Char) : Stops (']' :: rest) := by
  rintro c ⟨⟩
  decide

theorem readItems_end (count : Nat) (first : Bool) (rest : List Char) (offset : Nat) :
    readItems reader (count + 1) first ⟨']' :: rest, offset⟩ = .ok ([], ⟨rest, offset + 1⟩) := by
  simp only [readItems, nextItem_end, endArray_end, ok_bind]
  rfl

theorem readItems_append {gaps : List Char} (h : IsGaps gaps) (count : Nat) (first : Bool)
    (rest : List Char) (offset : Nat) :
    readItems reader (count + 1) first ⟨gaps ++ rest, offset⟩ =
      readItems reader (count + 1) first ⟨rest, offset + gaps.length⟩ := by
  simp only [readItems, nextItem_append rest offset h]

theorem readItems_next {count : Nat} {first : Bool} {place there behind last : Place} {value : α}
    (hnext : nextItem first place = .ok (true, there)) (hvalue : reader there = .ok (value, behind))
    (hothers : readItems reader count false behind = .ok (values, last)) :
    readItems reader (count + 1) first place = .ok (value :: values, last) := by
  simp only [readItems, hnext, hvalue, hothers, ok_bind]
  rfl

section
variable {gaps last : List Char} {texts : List (List Char)}

theorem readItems_listedTail (hgaps : IsGaps gaps) (hlast : IsGaps last)
    (h : List.Forall₂ (ReadsUpTo reader) texts values) {count : Nat}
    (hcount : texts.length ≤ count) (rest : List Char) (offset : Nat) :
    ∃ behind, readItems reader (count + 1) false
        ⟨listedTail gaps last texts ++ ']' :: rest, offset⟩ = .ok (values, ⟨rest, behind⟩) := by
  induction h generalizing count offset with
  | nil =>
    rw [listedTail, readItems_append hlast, readItems_end]
    exact ⟨_, rfl⟩
  | @cons text value texts values htext _ ih =>
    obtain ⟨count, rfl⟩ := Nat.exists_eq_add_one.mpr (Nat.zero_lt_of_lt hcount)
    obtain ⟨between, hvalue⟩ := htext.reads (listedTail gaps last texts ++ ']' :: rest)
      (stops_listedTail hlast gaps texts (stops_end rest)) (offset + 1 + gaps.length)
    obtain ⟨behind, hothers⟩ := ih (Nat.le_of_succ_le_succ hcount) between
    rw [listedTail, listed_cons, List.cons_append, List.append_assoc, List.append_assoc]
    exact ⟨behind, readItems_next (nextItem_comma _ _ hgaps htext.begins) hvalue hothers⟩

/-- An array is read item by item. -/
theorem readItems_listed (hgaps : IsGaps gaps) (hlast : IsGaps last)
    (h : List.Forall₂ (ReadsUpTo reader) texts values) {count : Nat}
    (hcount : texts.length ≤ count) (rest : List Char) (offset : Nat) :
    ∃ behind, readItems reader (count + 1) true
        ⟨listed gaps last texts ++ ']' :: rest, offset⟩ = .ok (values, ⟨rest, behind⟩) := by
  cases h with
  | nil => exact ⟨_, readItems_end count true rest offset⟩
  | @cons text value texts values htext htexts =>
    obtain ⟨count, rfl⟩ := Nat.exists_eq_add_one.mpr (Nat.zero_lt_of_lt hcount)
    obtain ⟨between, hvalue⟩ := htext.reads (listedTail gaps last texts ++ ']' :: rest)
      (stops_listedTail hlast gaps texts (stops_end rest)) (offset + gaps.length)
    obtain ⟨behind, hothers⟩ :=
      readItems_listedTail hgaps hlast htexts (Nat.le_of_succ_le_succ hcount) rest between
    rw [listed_cons, List.append_assoc, List.append_assoc, readItems_append hgaps]
    exact ⟨behind, readItems_next (nextItem_of_begins _ _ htext.begins) hvalue hothers⟩

end

theorem itemsChars_eq_listed (items : List Json) :
    itemsChars items = listed [] [] (items.map chars) ++ [']'] := by
  induction items with
  | nil => rfl
  | cons item items ih =>
    cases items with
    | nil => simp [itemsChars, listed]
    | cons next items =>
      rw [itemsChars, ih]
      · simp [listed]
      · simp

/-- An array in its compact form is read item by item. -/
theorem readItems_itemsChars {items : List Json}
    (h : List.Forall₂ (fun item => Reads reader item.chars) items values)
    {count : Nat} (hcount : items.length ≤ count) (rest : List Char) (offset : Nat) :
    ∃ behind, readItems reader (count + 1) true ⟨itemsChars items ++ rest, offset⟩ =
      .ok (values, ⟨rest, behind⟩) := by
  rw [itemsChars_eq_listed, List.append_assoc]
  refine readItems_listed isGaps_nil isGaps_nil ?_ (by rwa [List.length_map]) rest offset
  rw [List.forall₂_map_left_iff]
  exact h.imp fun _ _ => Reads.readsUpTo

theorem length_le_itemsChars (items : List Json) : items.length ≤ (itemsChars items).length := by
  have hlength := length_le_listed [] [] (items.map chars)
  rw [List.length_map] at hlength
  rw [itemsChars_eq_listed, List.length_append]
  exact hlength

end

/-! ### The names of members -/

section
variable (name : String) (rest : List Char) (offset : Nat)

theorem nextName_quoted :
    ∃ behind, nextName true ⟨quoted name.toList ++ rest, offset⟩ =
      .ok (some name, ⟨rest, behind⟩) := by
  obtain ⟨behind, h⟩ := readText_escaped name rest (offset + 1)
  refine ⟨behind, ?_⟩
  simp [nextName, quoted_append, skip_cons, isGap, h, Except.map]

theorem nextName_append {gaps : List Char} (h : IsGaps gaps) (first : Bool) :
    nextName first ⟨gaps ++ rest, offset⟩ = nextName first ⟨rest, offset + gaps.length⟩ := by
  simp only [nextName, skip_append h]

theorem nextName_comma_append {gaps : List Char} (hgaps : IsGaps gaps) :
    ∃ behind, nextName false ⟨',' :: (gaps ++ (quoted name.toList ++ rest)), offset⟩ =
      .ok (some name, ⟨rest, behind⟩) := by
  obtain ⟨behind, h⟩ := readText_escaped name rest (offset + 1 + gaps.length + 1)
  refine ⟨behind, ?_⟩
  simp [nextName, quoted_append, skip_cons, skip_append hgaps, isGap, h, Except.map]

theorem nextName_comma :
    ∃ behind, nextName false ⟨',' :: (quoted name.toList ++ rest), offset⟩ =
      .ok (some name, ⟨rest, behind⟩) :=
  nextName_comma_append name rest offset isGaps_nil

theorem nextName_end (first : Bool) :
    nextName first ⟨'\x7d' :: rest, offset⟩ = .ok (none, ⟨'\x7d' :: rest, offset⟩) := by
  simp [nextName, skip_cons, isGap, pure, Except.pure]

theorem passColon_colon : passColon ⟨':' :: rest, offset⟩ = .ok ⟨rest, offset + 1⟩ := by
  simp [passColon, skip_cons, isGap]

theorem endObject_end : endObject ⟨'\x7d' :: rest, offset⟩ = .ok ⟨rest, offset + 1⟩ := by
  simp [endObject, skip_cons, isGap]

end

/-- What stands behind the value of a member of an object. -/
def membersTail : List (String × Json) → List Char
  | [] => ['\x7d']
  | member :: members => ',' :: membersChars (member :: members)

theorem membersChars_cons (name : String) (value : Json) (members : List (String × Json)) :
    membersChars ((name, value) :: members) =
      quoted name.toList ++ ':' :: (value.chars ++ membersTail members) := by
  cases members <;> rfl

theorem length_le_membersChars (members : List (String × Json)) :
    members.length ≤ (membersChars members).length := by
  induction members with
  | nil => simp [membersChars]
  | cons member members ih =>
    obtain ⟨name, value⟩ := member
    rw [membersChars_cons]
    cases members with
    | nil => simp [membersTail, quoted]
    | cons next members =>
      simp only [List.length_cons, List.length_append, membersTail] at ih ⊢
      omega

end RowRecipe.Json
