import RowRecipe.Config
import RowRecipe.Proofs.JsonText

/-!
# Configurations that are written and read

The members of an object set the fields of a structure one after another, so the text of a
configuration is read as that configuration, whatever characters its texts are of. What is read is
checked before it is given out: no comment begins with the empty text, and the marker is visible.

Main statement: `Config.read_compactText`.
-/
namespace RowRecipe.Config

open Json (Reader Place Reads Begins quoted membersChars membersTail)

variable {α β : Type}

theorem begins_quoted (cs : List Char) : Begins (quoted cs) :=
  ⟨'"', cs.flatMap Json.escape ++ ['"'], rfl, rfl, by decide⟩

/-! ### Structures -/

/-- What the members of an object make of a structure when they are read one after another: each
sets the field of its name, and none of them has a name that was seen. -/
inductive SetBy (fields : List (Field α)) :
    List String → α → List (String × Json) → α → Prop where
  | nil (seen : List String) (state : α) : SetBy fields seen state [] state
  | cons {seen : List String} {state next last : α} {name : String} {value : Json}
      {members : List (String × Json)} {field : Field α} :
      (fields.find? fun field => field.name == name) = some field → name ∉ seen →
      Reads (field.set state) value.chars next → SetBy fields (name :: seen) next members last →
      SetBy fields seen state ((name, value) :: members) last

section
variable {fields : List (Field α)} {seen : List String} {state next last : α}
variable {members : List (String × Json)}

theorem readMembers_end (count : Nat) (first : Bool) (rest : List Char) (offset : Nat) :
    readMembers fields (count + 1) seen first state ⟨'\x7d' :: rest, offset⟩ =
      .ok (state, ⟨rest, offset + 1⟩) := by
  simp only [readMembers, Json.nextName_end, Json.endObject_end, ok_bind]
  rfl

theorem readMembers_next {count : Nat} {first : Bool} {place behind last : Place} {name : String}
    {field : Field α} {text : List Char} {offset : Nat} {made : α}
    (hnext : Json.nextName first place = .ok (some name, ⟨':' :: text, offset⟩))
    (hfield : (fields.find? fun field => field.name == name) = some field) (hseen : name ∉ seen)
    (hvalue : field.set state ⟨text, offset + 1⟩ = .ok (next, behind))
    (hothers : readMembers fields count (name :: seen) false next behind = .ok (made, last)) :
    readMembers fields (count + 1) seen first state place = .ok (made, last) := by
  simp only [readMembers, hnext, hfield, List.contains_iff_mem, hseen, if_false,
    Json.passColon_colon, hvalue, hothers, ok_bind]

theorem readMembers_membersTail (h : SetBy fields seen state members last) {count : Nat}
    (hcount : members.length ≤ count) (rest : List Char) (offset : Nat) :
    ∃ behind,
      readMembers fields (count + 1) seen false state ⟨membersTail members ++ rest, offset⟩ =
        .ok (last, ⟨rest, behind⟩) := by
  induction h generalizing count offset with
  | nil seen state => exact ⟨_, readMembers_end count false rest offset⟩
  | @cons seen state next last name value members field hfield hseen hvalue _ ih =>
    obtain ⟨count, rfl⟩ := Nat.exists_eq_add_one.mpr (Nat.zero_lt_of_lt hcount)
    rw [membersTail, Json.membersChars_cons, List.cons_append, List.append_assoc, List.cons_append,
      List.append_assoc]
    obtain ⟨colon, hname⟩ :=
      Json.nextName_comma name (':' :: (value.chars ++ (membersTail members ++ rest))) offset
    obtain ⟨between, hset⟩ := hvalue.reads (membersTail members ++ rest) (colon + 1)
    obtain ⟨behind, hothers⟩ := ih (Nat.le_of_succ_le_succ hcount) between
    exact ⟨behind, readMembers_next hname hfield hseen hset hothers⟩

/-- An object sets the fields of its members. -/
theorem readMembers_membersChars (h : SetBy fields seen state members last) {count : Nat}
    (hcount : members.length ≤ count) (rest : List Char) (offset : Nat) :
    ∃ behind,
      readMembers fields (count + 1) seen true state ⟨membersChars members ++ rest, offset⟩ =
        .ok (last, ⟨rest, behind⟩) := by
  cases h with
  | nil => exact ⟨_, readMembers_end count true rest offset⟩
  | @cons _ _ next _ name value members field hfield hseen hvalue hmembers =>
    obtain ⟨count, rfl⟩ := Nat.exists_eq_add_one.mpr (Nat.zero_lt_of_lt hcount)
    rw [Json.membersChars_cons, List.append_assoc, List.cons_append, List.append_assoc]
    obtain ⟨colon, hname⟩ :=
      Json.nextName_quoted name (':' :: (value.chars ++ (membersTail members ++ rest))) offset
    obtain ⟨between, hset⟩ := hvalue.reads (membersTail members ++ rest) (colon + 1)
    obtain ⟨behind, hothers⟩ :=
      readMembers_membersTail hmembers (Nat.le_of_succ_le_succ hcount) rest between
    exact ⟨behind, readMembers_next hname hfield hseen hset hothers⟩

theorem reads_readFields (title : String) (h : SetBy fields [] state members last) :
    Reads (readFields title fields state) (Json.object members).chars last where
  begins := ⟨'\x7b', membersChars members, by rw [Json.chars], rfl, by decide⟩
  reads rest offset := by
    have hcount : members.length ≤ (membersChars members ++ rest).length := by
      rw [List.length_append]
      exact Nat.le_add_right_of_le (Json.length_le_membersChars members)
    obtain ⟨behind, hread⟩ := readMembers_membersChars h hcount rest (offset + 1)
    refine ⟨behind, ?_⟩
    rw [Json.chars, List.cons_append, readFields, Json.skip_cons rfl]
    exact hread

end

/-! ### The values of fields -/

theorem reads_map {reader : Reader α} {text : List Char} {value : α} (h : Reads reader text value)
    (f : α → β) :
    Reads (fun place => do
      let (value, place) ← reader place
      return (f value, place)) text (f value) where
  begins := h.begins
  reads rest offset := by
    obtain ⟨behind, hread⟩ := h.reads rest offset
    exact ⟨behind, by rw [hread]; rfl⟩

theorem reads_readText (expected text : String) :
    Reads (readText expected) (Json.text text).chars text where
  begins := begins_quoted text.toList
  reads rest offset := by
    obtain ⟨behind, hread⟩ := Json.readText_escaped text rest (offset + 1)
    refine ⟨behind, ?_⟩
    rw [Json.chars_text, Json.quoted_append, readText, Json.skip_cons rfl]
    exact hread

theorem reads_readTexts (texts : List String) :
    Reads readTexts (Json.array (texts.map .text)).chars texts where
  begins := ⟨'[', Json.itemsChars (texts.map .text), by rw [Json.chars], rfl, by decide⟩
  reads rest offset := by
    have hitems : List.Forall₂ (fun item => Reads (readText "a string") item.chars)
        (texts.map Json.text) texts := by
      rw [List.forall₂_map_left_iff, List.forall₂_same]
      exact fun text _ => reads_readText "a string" text
    have hcount : (texts.map Json.text).length ≤
        (Json.itemsChars (texts.map .text) ++ rest).length := by
      rw [List.length_append]
      exact Nat.le_add_right_of_le (Json.length_le_itemsChars _)
    obtain ⟨behind, hread⟩ := Json.readItems_itemsChars hitems hcount rest (offset + 1)
    refine ⟨behind, ?_⟩
    rw [Json.chars, List.cons_append, readTexts, Json.skip_cons rfl]
    exact hread

theorem reads_readChar (c : Char) : Reads readChar (Json.text c.toString).chars c where
  begins := begins_quoted c.toString.toList
  reads rest offset := by
    obtain ⟨behind, hread⟩ := (reads_readText "a character" c.toString).reads rest offset
    refine ⟨behind, ?_⟩
    have hchars : c.toString.toList = [c] := by simp
    rw [readChar, hread, ok_bind]
    simp only [hchars]
    rfl

theorem reads_readErrorRows (policy : ErrorRows) :
    Reads readErrorRows (Json.text (errorRowsName policy)).chars policy where
  begins := begins_quoted (errorRowsName policy).toList
  reads rest offset := by
    obtain ⟨behind, hread⟩ :=
      (reads_readText "variant identifier" (errorRowsName policy)).reads rest offset
    refine ⟨behind, ?_⟩
    rw [Json.chars_text, Json.quoted_append] at hread ⊢
    rw [readErrorRows, Json.skip_cons rfl]
    simp only [readErrorRowsName, hread, ok_bind]
    cases policy <;> rfl

/-! ### Configurations -/

theorem setBy_lineFields (options : LineOptions) :
    SetBy lineFields [] LineOptions.standard
      [("comment_prefixes", .array (options.commentStarts.map .text)),
        ("continuation_marker", .text options.marker.toString)] options :=
  .cons rfl (by simp)
    (reads_map (reads_readTexts options.commentStarts) fun starts =>
      { LineOptions.standard with commentStarts := starts })
    (.cons rfl (by simp)
      (reads_map (reads_readChar options.marker) fun marker => { options with marker := marker })
      (.nil _ _))

theorem setBy_fields (config : Config) :
    SetBy fields [] standard
      [("parser", .object
        [("comment_prefixes", .array (config.lines.commentStarts.map .text)),
          ("continuation_marker", .text config.lines.marker.toString)]),
        ("executor", .object [("error_rows", .text (errorRowsName config.errorRows))])] config :=
  .cons rfl (by simp)
    (reads_map (reads_readFields "ParserOptions" (setBy_lineFields config.lines)) fun lines =>
      { standard with lines := lines })
    (.cons rfl (by simp)
      (reads_map (reads_readFields "ExecutorOptions"
        (.cons rfl (by simp) (reads_readErrorRows config.errorRows) (.nil _ _))) fun policy =>
        { config with errorRows := policy })
      (.nil _ _))

theorem readDocument_compactText (config : Config) :
    readDocument config.toJson.compactText = .ok config := by
  obtain ⟨behind, hread⟩ :=
    (reads_readFields "EngineConfig" (setBy_fields config)).reads [] 0
  have hplace : Place.start config.toJson.compactText = ⟨config.toJson.chars ++ [], 0⟩ := by
    simp [Place.start, Json.compactText]
  have hdocument :
      readFields "EngineConfig" fields standard (Place.start config.toJson.compactText) =
        .ok (config, ⟨[], behind⟩) := by
    rw [hplace]
    exact hread
  rw [readDocument, Json.readWhole, hdocument]
  rfl

theorem any_isEmpty_iff (config : Config) :
    config.lines.commentStarts.any String.isEmpty = true ↔ "" ∈ config.lines.commentStarts := by
  simp

theorem check_eq_ok {config checked : Config} (h : config.check = .ok checked) :
    config = checked ∧ "" ∉ config.lines.commentStarts ∧
      Text.isBlank config.lines.marker = false := by
  simp only [check, any_isEmpty_iff] at h
  split_ifs at h with hstarts hmarker
  exact ⟨Except.ok.inj h, hstarts, by simpa using hmarker⟩

/-- The text of a configuration is read as that configuration, unless comments begin with the empty
text or, if they do not, the marker is blank, and each is told by a message of its own. No text is
read as a configuration like that. -/
theorem read_compactText :
    (∀ config : Config, read config.toJson.compactText =
      if "" ∈ config.lines.commentStarts then .error .emptyCommentStart
      else if Text.isBlank config.lines.marker then .error .blankMarker
      else .ok config) ∧
    ConfigError.emptyCommentStart.message =
      "Invalid config value for 'parser.comment_prefixes': comment prefixes must not be empty" ∧
    ConfigError.blankMarker.message = "Invalid config value for 'parser.continuation_marker': "
      ++ "continuation marker must not be whitespace" ∧
    ∀ text config, read text = .ok config →
      "" ∉ config.lines.commentStarts ∧ Text.isBlank config.lines.marker = false := by
  refine ⟨?_, rfl, rfl, ?_⟩
  · intro config
    simp only [read, readDocument_compactText, check, any_isEmpty_iff]
  · intro text config h
    unfold read at h
    split at h
    · cases h
    next document _ =>
    obtain ⟨rfl, hvisible⟩ := check_eq_ok h
    exact hvisible

/-- Comments begin with texts that are escaped or have characters of several bytes. -/
def outlandish : Config :=
  ⟨⟨["\"", "\x01\n", "é😀"], '\\'⟩, .retain⟩

theorem read_compactText_outlandish :
    outlandish.toJson.compactText =
      "\x7b\"parser\":\x7b\"comment_prefixes\":[\"\\\"\",\"\\u0001\\n\",\"é😀\"],"
        ++ "\"continuation_marker\":\"\\\\\"\x7d,"
        ++ "\"executor\":\x7b\"error_rows\":\"retain\"\x7d\x7d" ∧
      read outlandish.toJson.compactText = .ok outlandish ∧
      "" ∉ outlandish.lines.commentStarts ∧ Text.isBlank outlandish.lines.marker = false := by
  obtain ⟨hwritten, -, -, hread⟩ := read_compactText
  have hok : read outlandish.toJson.compactText = .ok outlandish := hwritten outlandish
  exact ⟨by decide, hok, hread _ _ hok⟩

end RowRecipe.Config
