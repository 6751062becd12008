import RowRecipe.Proofs.JsonNumbers

/-!
# Documents and their texts

A text of a document may have gaps wherever blanks are allowed. Read with every number as it is
meant, it is that document, its members in their order and none of them left out; the compact form
and the spread form are texts of a document whose floats are finite. What a text says as a tree is
the normal form of what is read.

Main statement: `Json.readTree_of_isTextOf`.
-/
namespace RowRecipe.Json

/-- A member of an object, with gaps in front of its value. -/
def memberChars (gaps : List Char) (name : String) (value : List Char) : List Char :=
  quoted name.toList ++ ':' :: (gaps ++ value)

/-- The texts of a document. -/
inductive IsTextOf : List Char → Json → Prop
  | null : IsTextOf ['n', 'u', 'l', 'l'] .null
  | boolean (value : Bool) : IsTextOf (boolean value).scalarChars (.boolean value)
  | whole (value : Int64) : IsTextOf (integerChars value.toInt) (.whole value)
  | float {value : Float} (h : Binary64.isFinite value = true) :
    IsTextOf (FloatLayout.json.chars value) (.float value)
  | text (value : String) : IsTextOf (quoted value.toList) (.text value)
  | array {gaps last : List Char} {items : List (List Char × Json)} (hgaps : IsGaps gaps)
      (hlast : IsGaps last) (h : ∀ item ∈ items, IsTextOf item.1 item.2) :
    IsTextOf ('[' :: (listed gaps last (items.map Prod.fst) ++ [']'])) (.array (items.map Prod.snd))
  | object {gaps colon last : List Char} {members : List (String × List Char × Json)}
      (hgaps : IsGaps gaps) (hcolon : IsGaps colon) (hlast : IsGaps last)
      (h : ∀ member ∈ members, IsTextOf member.2.1 member.2.2) :
    IsTextOf
      ('\x7b' :: (listed gaps last
        (members.map fun member => memberChars colon member.1 member.2.1) ++ ['\x7d']))
      (.object (members.map fun member => (member.1, member.2.2)))

/-! ### Reading members -/

section
variable {α : Type} {reader : Reader α} {gaps colon last : List Char}
variable {members : List (String × List Char)} {values : List (String × α)}

theorem readMembers_end (count : Nat) (first : Bool) (rest : List Char) (offset : Nat) :
    readMembers reader (count + 1) first ⟨'\x7d' :: rest, offset⟩ =
      .ok ([], ⟨rest, offset + 1⟩) := by
  simp only [readMembers, nextName_end, endObject_end, ok_bind]
  rfl

theorem readMembers_append (h : IsGaps gaps) (count : Nat) (first : Bool) (rest : List Char)
    (offset : Nat) :
    readMembers reader (count + 1) first ⟨gaps ++ rest, offset⟩ =
      readMembers reader (count + 1) first ⟨rest, offset + gaps.length⟩ := by
  simp only [readMembers, nextName_append rest offset h]

theorem readMembers_next {count : Nat} {first : Bool} {place behind there : Place} {name : String}
    {value : α} {text : List Char} {offset : Nat}
    (hname : nextName first place = .ok (some name, ⟨':' :: text, offset⟩))
    (hvalue : reader ⟨text, offset + 1⟩ = .ok (value, behind))
    (hothers : readMembers reader count false behind = .ok (values, there)) :
    readMembers reader (count + 1) first place = .ok ((name, value) :: values, there) := by
  simp only [readMembers, hname, passColon_colon, hvalue, hothers, ok_bind]
  rfl

/-- A member and the value that a reader, which passes over gaps, reads of it. -/
def ReadsMember (reader : Reader α) (colon : List Char) (member : String × List Char)
    (value : String × α) : Prop :=
  member.1 = value.1 ∧ ∀ (rest : List Char), Stops rest → ∀ offset,
    ∃ behind, reader ⟨colon ++ (member.2 ++ rest), offset⟩ = .ok (value.2, ⟨rest, behind⟩)

theorem stops_brace (rest : List Char) : Stops ('\x7d' :: rest) := by
  rintro c ⟨⟩
  decide

theorem readMembers_listedTail (hgaps : IsGaps gaps) (hlast : IsGaps last)
    (h : List.Forall₂ (ReadsMember reader colon) members values) {count : Nat}
    (hcount : members.length ≤ count) (rest : List Char) (offset : Nat) :
    ∃ behind, readMembers reader (count + 1) false
        ⟨listedTail gaps last (members.map fun member => memberChars colon member.1 member.2) ++
          '\x7d' :: rest, offset⟩ = .ok (values, ⟨rest, behind⟩) := by
  induction h generalizing count offset with
  | nil =>
    rw [List.map_nil, listedTail, readMembers_append hlast, readMembers_end]
    exact ⟨_, rfl⟩
  | @cons member value members values hmember _ ih =>
    obtain ⟨count, rfl⟩ := Nat.exists_eq_add_one.mpr (Nat.zero_lt_of_lt hcount)
    obtain ⟨name, text⟩ := member
    obtain ⟨rfl, hvalue⟩ := hmember
    rw [List.map_cons, listedTail, listed_cons, memberChars]
    simp only [List.cons_append, List.append_assoc]
    obtain ⟨between, hname⟩ := nextName_comma_append value.1 _ offset hgaps
    obtain ⟨behind, hread⟩ := hvalue _
      (stops_listedTail hlast gaps (members.map fun member => memberChars colon member.1 member.2)
        (stops_brace rest)) (between + 1)
    obtain ⟨there, hothers⟩ := ih (Nat.le_of_succ_le_succ hcount) behind
    exact ⟨there, readMembers_next hname hread hothers⟩

/-- An object is read member by member. -/
theorem readMembers_listed (hgaps : IsGaps gaps) (hlast : IsGaps last)
    (h : List.Forall₂ (ReadsMember reader colon) members values) {count : Nat}
    (hcount : members.length ≤ count) (rest : List Char) (offset : Nat) :
    ∃ behind, readMembers reader (count + 1) true
        ⟨listed gaps last (members.map fun member => memberChars colon member.1 member.2) ++
          '\x7d' :: rest, offset⟩ = .ok (values, ⟨rest, behind⟩) := by
  cases h with
  | nil => exact ⟨_, readMembers_end count true rest offset⟩
  | @cons member value members values hmember hmembers =>
    obtain ⟨count, rfl⟩ := Nat.exists_eq_add_one.mpr (Nat.zero_lt_of_lt hcount)
    obtain ⟨name, text⟩ := member
    obtain ⟨rfl, hvalue⟩ := hmember
    rw [List.map_cons, listed_cons, List.append_assoc, readMembers_append hgaps, memberChars]
    simp only [List.cons_append, List.append_assoc]
    obtain ⟨between, hname⟩ := nextName_quoted value.1 _ (offset + gaps.length)
    obtain ⟨behind, hread⟩ := hvalue _
      (stops_listedTail hlast gaps (members.map fun member => memberChars colon member.1 member.2)
        (stops_brace rest)) (between + 1)
    obtain ⟨there, hothers⟩ :=
      readMembers_listedTail hgaps hlast hmembers (Nat.le_of_succ_le_succ hcount) rest behind
    exact ⟨there, readMembers_next hname hread hothers⟩

end

/-! ### Reading documents -/

theorem length_le_of_mem (gaps last : List Char) {text : List Char} {texts : List (List Char)}
    (h : text ∈ texts) : text.length ≤ (listed gaps last texts).length := by
  induction texts with
  | nil => exact absurd h List.not_mem_nil
  | cons next texts ih =>
    rw [listed_cons, List.length_append, List.length_append]
    obtain rfl | h := List.mem_cons.mp h
    · omega
    · have hle := ih h
      cases texts with
      | nil => exact absurd h List.not_mem_nil
      | cons other texts =>
        rw [listedTail, List.length_cons]
        omega

theorem readExactly_append {gaps : List Char} (h : IsGaps gaps) (depth : Nat) (rest : List Char)
    (offset : Nat) :
    readExactly depth ⟨gaps ++ rest, offset⟩ = readExactly depth ⟨rest, offset + gaps.length⟩ := by
  simp only [readExactly, readValue, skip_append h]

theorem begins_of_isDigit {c : Char} (hc : c.isDigit = true) (cs : List Char) : Begins (c :: cs) :=
  ⟨c, cs, rfl, isGap_of_isDigit hc, ne_of_isDigit hc rfl⟩

theorem begins_integerChars (n : Int) : Begins (integerChars n) := by
  unfold integerChars
  split_ifs
  · exact ⟨'-', _, rfl, rfl, by decide⟩
  · obtain ⟨c, cs, hchars⟩ := List.exists_cons_of_ne_nil
      (show Nat.toDigits 10 n.natAbs ≠ [] from Nat.toDigits_ne_nil)
    rw [hchars]
    exact begins_of_isDigit (isDigit_of_mem_toDigits (by rw [hchars]; exact List.mem_cons_self)) cs

theorem begins_json_chars {value : Float} (h : Binary64.isFinite value = true) :
    Begins (FloatLayout.json.chars value) := by
  obtain ⟨parts, hparts⟩ := Option.isSome_iff_exists.mp h
  obtain ⟨before, after, exponent, hchars, hnumeral, -⟩ :=
    FloatLayout.json.exists_numeral hparts rfl
  obtain ⟨c, cs, rfl, -⟩ := hnumeral.begins
  rw [hchars]
  split_ifs
  · exact ⟨'-', _, rfl, rfl, by decide⟩
  · exact begins_of_isDigit (hnumeral.digits c List.mem_cons_self) _

theorem readsUpTo_array {gaps last : List Char} {items : List (List Char × Json)} {depth : Nat}
    (hgaps : IsGaps gaps) (hlast : IsGaps last)
    (h : ∀ item ∈ items, ReadsUpTo (readExactly depth) item.1 item.2) :
    ReadsUpTo (readExactly (depth + 1)) ('[' :: (listed gaps last (items.map Prod.fst) ++ [']']))
      (.array (items.map Prod.snd)) := by
  refine ⟨⟨'[', _, rfl, rfl, by decide⟩, fun rest _ offset => ?_⟩
  have hitems : List.Forall₂ (ReadsUpTo (readExactly depth)) (items.map Prod.fst)
      (items.map Prod.snd) := by
    rw [List.forall₂_map_left_iff, List.forall₂_map_right_iff, List.forall₂_same]
    exact h
  have hcount : (items.map Prod.fst).length ≤
      (listed gaps last (items.map Prod.fst) ++ ']' :: rest).length := by
    have hlength := length_le_listed gaps last (items.map Prod.fst)
    rw [List.length_append, List.length_cons]
    omega
  obtain ⟨behind, hread⟩ := readItems_listed hgaps hlast hitems hcount rest (offset + 1)
  refine ⟨behind, ?_⟩
  rw [List.cons_append, List.append_assoc, List.singleton_append, readExactly, readValue,
    skip_cons rfl]
  simp only [Place.drop_one_cons]
  rw [readExactly] at hread
  rw [hread]
  rfl

theorem readsUpTo_object {gaps colon last : List Char}
    {members : List (String × List Char × Json)} {depth : Nat} (hgaps : IsGaps gaps)
    (hcolon : IsGaps colon) (hlast : IsGaps last)
    (h : ∀ member ∈ members, ReadsUpTo (readExactly depth) member.2.1 member.2.2) :
    ReadsUpTo (readExactly (depth + 1))
      ('\x7b' :: (listed gaps last
        (members.map fun member => memberChars colon member.1 member.2.1) ++ ['\x7d']))
      (.object (members.map fun member => (member.1, member.2.2))) := by
  refine ⟨⟨'\x7b', _, rfl, rfl, by decide⟩, fun rest _ offset => ?_⟩
  have hmembers : List.Forall₂ (ReadsMember (readExactly depth) colon)
      (members.map fun member => (member.1, member.2.1))
      (members.map fun member => (member.1, member.2.2)) := by
    rw [List.forall₂_map_left_iff, List.forall₂_map_right_iff, List.forall₂_same]
    refine fun member hmember => ⟨rfl, fun rest hrest offset => ?_⟩
    rw [readExactly_append hcolon]
    exact (h member hmember).reads rest hrest _
  have hcount : (members.map fun member => (member.1, member.2.1)).length ≤
      (listed gaps last (members.map fun member => memberChars colon member.1 member.2.1) ++
        '\x7d' :: rest).length := by
    have hlength := length_le_listed gaps last
      (members.map fun member => memberChars colon member.1 member.2.1)
    rw [List.length_map] at hlength ⊢
    rw [List.length_append, List.length_cons]
    omega
  obtain ⟨behind, hread⟩ := readMembers_listed hgaps hlast hmembers hcount rest (offset + 1)
  refine ⟨behind, ?_⟩
  rw [List.cons_append, List.append_assoc, List.singleton_append, readExactly, readValue,
    skip_cons rfl]
  simp only [Place.drop_one_cons]
  simp only [List.map_map, Function.comp_def, readExactly] at hread
  rw [hread]
  rfl

/-- A text of a document is read as that document by a reader that goes deep enough. The length of
the text is deep enough, as the texts of its parts are shorter. -/
theorem readsUpTo_of_isTextOf {text : List Char} {json : Json} (h : IsTextOf text json)
    {depth : Nat} (hdepth : text.length ≤ depth) : ReadsUpTo (readExactly depth) text json := by
  induction h generalizing depth with
  | null =>
    refine ⟨⟨'n', _, rfl, rfl, by decide⟩, fun rest _ offset => ⟨offset + 1 + 1 + 1 + 1, ?_⟩⟩
    simp only [List.cons_append]
    rw [readExactly, readValue, skip_cons rfl]
    rfl
  | boolean value =>
    cases value with
    | false =>
      refine ⟨⟨'f', _, rfl, rfl, by decide⟩, fun rest _ offset => ⟨offset + 1 + 1 + 1 + 1 + 1, ?_⟩⟩
      rw [readExactly, readValue, scalarChars, List.cons_append, skip_cons rfl]
      rfl
    | true =>
      refine ⟨⟨'t', _, rfl, rfl, by decide⟩, fun rest _ offset => ⟨offset + 1 + 1 + 1 + 1, ?_⟩⟩
      rw [readExactly, readValue, scalarChars, List.cons_append, skip_cons rfl]
      rfl
  | whole value => exact ⟨begins_integerChars _, fun rest hrest offset =>
      readExactly_whole depth offset value hrest⟩
  | float h => exact ⟨begins_json_chars h, fun rest hrest offset =>
      readExactly_float depth offset h hrest⟩
  | text value =>
    refine ⟨⟨'"', _, rfl, rfl, by decide⟩, fun rest _ offset => ?_⟩
    obtain ⟨behind, hread⟩ := readText_escaped value rest (offset + 1)
    refine ⟨behind, ?_⟩
    rw [quoted_append, readExactly, readValue, skip_cons rfl]
    simp only [Place.drop_one_cons]
    rw [hread]
    rfl
  | @array gaps last items hgaps hlast _ ih =>
    obtain ⟨depth, rfl⟩ := Nat.exists_eq_add_one.mpr (Nat.zero_lt_of_lt hdepth)
    simp only [List.length_cons, List.length_append] at hdepth
    refine readsUpTo_array hgaps hlast fun item hitem => ih item hitem ?_
    have hlength := length_le_of_mem gaps last (List.mem_map_of_mem (f := Prod.fst) hitem)
    omega
  | @object gaps colon last members hgaps hcolon hlast _ ih =>
    obtain ⟨depth, rfl⟩ := Nat.exists_eq_add_one.mpr (Nat.zero_lt_of_lt hdepth)
    simp only [List.length_cons, List.length_append] at hdepth
    refine readsUpTo_object hgaps hcolon hlast fun member hmember => ih member hmember ?_
    have hlength := length_le_of_mem gaps last (List.mem_map_of_mem
      (f := fun member : String × List Char × Json => memberChars colon member.1 member.2.1)
      hmember)
    have hvalue : member.2.1.length ≤ (memberChars colon member.1 member.2.1).length := by
      simp only [memberChars, List.length_append, List.length_cons]
      omega
    omega

/-- What a text says as a tree: the normal form of the document it is, whose numbers have the values
they are meant to have. -/
def readTree (text : String) : Except Error Json :=
  (readWhole (readExactly text.length) text).map normalize

/-- A text of a document says the normal form of that document. -/
theorem readTree_of_isTextOf {text : String} {json : Json} (h : IsTextOf text.toList json) :
    readTree text = .ok json.normalize := by
  obtain ⟨behind, hread⟩ :=
    (readsUpTo_of_isTextOf h (Nat.le_of_eq String.length_toList)).reads [] (by rintro c ⟨⟩) 0
  rw [List.append_nil] at hread
  rw [readTree, readWhole, Place.start, hread]
  rfl

/-! ### Forms -/

/-- A document whose floats are finite. -/
inductive IsFinite : Json → Prop
  | null : IsFinite .null
  | boolean (value : Bool) : IsFinite (.boolean value)
  | whole (value : Int64) : IsFinite (.whole value)
  | float {value : Float} (h : Binary64.isFinite value = true) : IsFinite (.float value)
  | text (value : String) : IsFinite (.text value)
  | array {items : List Json} (h : ∀ item ∈ items, item.IsFinite) : IsFinite (.array items)
  | object {members : List (String × Json)} (h : ∀ member ∈ members, member.2.IsFinite) :
    IsFinite (.object members)

section
variable {gaps colon last : List Char} {write : Json → List Char}

theorem isTextOf_array {items : List Json} (hgaps : IsGaps gaps) (hlast : IsGaps last)
    (h : ∀ item ∈ items, IsTextOf (write item) item) :
    IsTextOf ('[' :: (listed gaps last (items.map write) ++ [']'])) (.array items) := by
  have htext := @IsTextOf.array gaps last (items.map fun item => (write item, item)) hgaps hlast
    (List.forall_mem_map.mpr h)
  simpa only [List.map_map, Function.comp_def, List.map_id'] using htext

theorem isTextOf_object {members : List (String × Json)} (hgaps : IsGaps gaps)
    (hcolon : IsGaps colon) (hlast : IsGaps last)
    (h : ∀ member ∈ members, IsTextOf (write member.2) member.2) :
    IsTextOf
      ('\x7b' :: (listed gaps last
        (members.map fun member => memberChars colon member.1 (write member.2)) ++ ['\x7d']))
      (.object members) := by
  have htext := @IsTextOf.object gaps colon last
    (members.map fun member => (member.1, write member.2, member.2)) hgaps hcolon hlast
    (List.forall_mem_map.mpr h)
  simpa only [List.map_map, Function.comp_def, Prod.mk.eta, List.map_id'] using htext

end

theorem membersChars_eq_listed (members : List (String × Json)) :
    membersChars members =
      listed [] [] (members.map fun member => memberChars [] member.1 member.2.chars) ++
        ['\x7d'] := by
  induction members with
  | nil => rfl
  | cons member members ih =>
    obtain ⟨name, value⟩ := member
    rw [membersChars_cons]
    cases members with
    | nil => simp [membersTail, listed, memberChars]
    | cons next members =>
      rw [membersTail, ih]
      simp [listed, memberChars]

/-- The compact form is a text of a document. -/
theorem isTextOf_chars {json : Json} (h : json.IsFinite) : IsTextOf json.chars json := by
  induction h with
  | null => exact .null
  | boolean value => exact .boolean value
  | whole value => exact .whole value
  | @float value h =>
    have hchars : (Json.float value).chars = FloatLayout.json.chars value := if_pos h
    rw [hchars]
    exact .float h
  | text value => exact .text value
  | @array items _ ih =>
    rw [chars, itemsChars_eq_listed]
    exact isTextOf_array isGaps_nil isGaps_nil ih
  | @object members _ ih =>
    rw [chars, membersChars_eq_listed]
    exact isTextOf_object isGaps_nil isGaps_nil isGaps_nil ih

theorem isGaps_newLine (depth : Nat) : IsGaps (newLine depth) := by
  refine List.forall_mem_cons.mpr ⟨rfl, fun c hc => ?_⟩
  rw [List.eq_of_mem_replicate hc]
  rfl

theorem spreadItems_eq_listed (depth : Nat) (item : Json) (items : List Json) :
    spreadItems depth (item :: items) =
      listed (newLine (depth + 1)) (newLine depth)
        ((item :: items).map (spreadChars (depth + 1))) ++ [']'] := by
  induction items generalizing item with
  | nil => simp [spreadItems, listed]
  | cons next items ih =>
    rw [spreadItems, ih]
    · simp [listed]
    · simp

theorem spreadMembers_eq_listed (depth : Nat) (member : String × Json)
    (members : List (String × Json)) :
    spreadMembers depth (member :: members) =
      listed (newLine (depth + 1)) (newLine depth)
        ((member :: members).map fun member =>
          memberChars [' '] member.1 (member.2.spreadChars (depth + 1))) ++ ['\x7d'] := by
  induction members generalizing member with
  | nil => simp [spreadMembers, listed, memberChars]
  | cons next members ih =>
    rw [spreadMembers, ih]
    · simp [listed, memberChars]
    · simp

/-- The spread form is a text of a document. -/
theorem isTextOf_spreadChars {json : Json} (h : json.IsFinite) (depth : Nat) :
    IsTextOf (json.spreadChars depth) json := by
  have hline := isGaps_newLine
  induction h generalizing depth with
  | null => exact .null
  | boolean value => exact .boolean value
  | whole value => exact .whole value
  | @float value h =>
    have hchars : (Json.float value).spreadChars depth = FloatLayout.json.chars value := if_pos h
    rw [hchars]
    exact .float h
  | text value => exact .text value
  | @array items _ ih =>
    cases items with
    | nil => exact @IsTextOf.array [] [] [] isGaps_nil isGaps_nil (by simp)
    | cons item items =>
      rw [spreadChars, spreadItems_eq_listed]
      · exact isTextOf_array (hline _) (hline _) fun item hitem => ih item hitem _
      · simp
  | @object members _ ih =>
    cases members with
    | nil => exact @IsTextOf.object [] [] [] [] isGaps_nil isGaps_nil isGaps_nil (by simp)
    | cons member members =>
      have hblank : IsGaps [' '] := List.forall_mem_cons.mpr ⟨rfl, isGaps_nil⟩
      rw [spreadChars, spreadMembers_eq_listed]
      · exact isTextOf_object (hline _) hblank (hline _) fun member hmember => ih member hmember _
      · simp

end RowRecipe.Json
