import RowRecipe.Proofs.Fallible
import RowRecipe.Recipe.Pattern

/-!
# Spellings of patterns

The grammar of patterns: a word spells itself, an argument is spelled by its name in angle brackets,
a group by a spelling of its tokens in square brackets. Blanks may stand in front of every token and
behind the last, and must stand between two words. A pattern has many spellings, and reading a text
gives a pattern exactly if the text is one of its spellings; so no text spells two patterns, and a
text that spells none is refused.

Main statement: `Pattern.parse_accepts_spellings`. Its proof looks at the text from the left. What a
draft still needs is stated as a relation between the draft, the rest of the text and the pattern
(`Draft.Completes`). One character takes a draft that the text completes to one that the rest of the
text completes (`completes_cons_iff`), and the run is an induction over the text.
-/
namespace RowRecipe

def PatternToken.isLiteral : PatternToken → Bool
  | .literal _ => true
  | .argument _ | .optional _ => false

namespace Pattern

/-- A character of a word: a word ends where a group or an argument begins, but not at a closing
angle bracket. -/
def IsWordChar (c : Char) : Prop :=
  Text.isBlank c = false ∧ c ∉ ['[', ']', '<']

def IsNameChar (c : Char) : Prop :=
  Text.isBlank c = false ∧ c ∉ ['<', '>', '[', ']']

def IsWord (cs : List Char) : Prop :=
  cs ≠ [] ∧ ∀ c ∈ cs, IsWordChar c

def IsName (cs : List Char) : Prop :=
  cs ≠ [] ∧ ∀ c ∈ cs, IsNameChar c

/-- Blanks, or nothing at all. -/
def IsGap (cs : List Char) : Prop :=
  ∀ c ∈ cs, Text.isBlank c = true

def StartsBlank (cs : List Char) : Prop :=
  ∃ c rest, cs = c :: rest ∧ Text.isBlank c = true

def startsLiteral : List PatternToken → Bool
  | [] => false
  | token :: _ => token.isLiteral

end Pattern

open Pattern

mutual

/-- The spellings of a token. -/
inductive PatternToken.Spelled : PatternToken → List Char → Prop where
  | literal {word : List Char} : IsWord word →
      PatternToken.Spelled (.literal (String.ofList word)) word
  | argument {name : List Char} : IsName name →
      PatternToken.Spelled (.argument (String.ofList name)) ('<' :: (name ++ ['>']))
  | optional {tokens : List PatternToken} {cs : List Char} : tokens ≠ [] →
      Pattern.Spelled tokens cs → PatternToken.Spelled (.optional tokens) ('[' :: (cs ++ [']']))

/-- The spellings of tokens one after another. Two words have a blank between them, as they would be
one without it. -/
inductive Pattern.Spelled : Pattern → List Char → Prop where
  | nil {gap : List Char} : IsGap gap → Pattern.Spelled [] gap
  | cons {gap cs rest : List Char} {token : PatternToken} {tokens : List PatternToken} :
      IsGap gap → token.Spelled cs → Pattern.Spelled tokens rest →
      (token.isLiteral = true → startsLiteral tokens = true → StartsBlank rest) →
      Pattern.Spelled (token :: tokens) (gap ++ (cs ++ rest))

end

namespace Pattern
variable {c : Char} {cs : List Char} {token : PatternToken} {tokens : List PatternToken}

theorem endsWord_eq_false_iff : Draft.endsWord c = false ↔ IsWordChar c := by
  simp [Draft.endsWord, IsWordChar, and_assoc]

theorem isNameChar_iff : IsNameChar c ↔ IsWordChar c ∧ c ≠ '>' := by
  grind [IsNameChar, IsWordChar]

theorem ne_close_of_isWordChar (h : IsWordChar c) : c ≠ ']' := by
  rintro rfl
  exact absurd h (by simp [IsWordChar])

theorem isWordChar_of_isWord_cons (h : IsWord (c :: cs)) : IsWordChar c :=
  h.2 c List.mem_cons_self

theorem isGap_nil : IsGap [] := by
  simp [IsGap]

/-! ### Spellings by their first characters -/

/-- The first character of a token tells what token it is. -/
theorem spelled_cons_cases (h : token.Spelled (c :: cs)) :
    (IsWord (c :: cs) ∧ token = .literal (String.ofList (c :: cs))) ∨
      (c = '<' ∧ ∃ name, cs = name ++ ['>'] ∧ IsName name ∧
        token = .argument (String.ofList name)) ∨
      (c = '[' ∧ ∃ inside inner, cs = inner ++ [']'] ∧ inside ≠ [] ∧
        Pattern.Spelled inside inner ∧ token = .optional inside) := by
  generalize hu : c :: cs = u at h
  cases h with
  | literal hword => exact .inl ⟨hword, rfl⟩
  | @argument name hname =>
    obtain ⟨rfl, rfl⟩ := List.cons.inj hu
    exact .inr (.inl ⟨rfl, name, rfl, hname, rfl⟩)
  | @optional inside inner hinside hinner =>
    obtain ⟨rfl, rfl⟩ := List.cons.inj hu
    exact .inr (.inr ⟨rfl, inside, inner, rfl, hinside, hinner, rfl⟩)

theorem not_isBlank_of_spelled (h : token.Spelled (c :: cs)) : Text.isBlank c = false := by
  rcases spelled_cons_cases h with ⟨hword, -⟩ | ⟨rfl, -⟩ | ⟨rfl, -⟩
  · exact (isWordChar_of_isWord_cons hword).1
  · decide
  · decide

theorem not_spelled_nil : ¬token.Spelled [] := by
  intro h
  generalize hu : ([] : List Char) = u at h
  cases h with
  | literal hword => exact hword.1 hu.symm
  | argument _ => cases hu
  | optional _ _ => cases hu

theorem spelled_nil_iff : Pattern.Spelled tokens [] ↔ tokens = [] := by
  constructor
  · intro h
    generalize hcs : ([] : List Char) = cs at h
    cases h with
    | nil _ => rfl
    | @cons gap u rest token tokens _ htoken _ _ =>
      obtain ⟨-, hu, -⟩ : gap = [] ∧ u = [] ∧ rest = [] := by simpa using hcs.symm
      exact absurd (hu ▸ htoken) not_spelled_nil
  · rintro rfl
    exact .nil isGap_nil

/-- A spelling begins with a blank, or with the spelling of the first token. -/
theorem spelled_cons_iff :
    Pattern.Spelled tokens (c :: cs) ↔
      (Text.isBlank c = true ∧ Pattern.Spelled tokens cs) ∨
        ∃ token more u rest, tokens = token :: more ∧ cs = u ++ rest ∧
          token.Spelled (c :: u) ∧ Pattern.Spelled more rest ∧
          (token.isLiteral = true → startsLiteral more = true → StartsBlank rest) := by
  constructor
  · intro h
    generalize hcs : c :: cs = whole at h
    cases h with
    | nil hgap =>
      subst hcs
      obtain ⟨hc, hgap⟩ := List.forall_mem_cons.mp hgap
      exact .inl ⟨hc, .nil hgap⟩
    | @cons gap u rest token tokens hgap htoken hrest hspace =>
      cases gap with
      | cons d gap =>
        obtain ⟨rfl, rfl⟩ := List.cons.inj hcs
        obtain ⟨hc, hgap⟩ := List.forall_mem_cons.mp hgap
        exact .inl ⟨hc, .cons hgap htoken hrest hspace⟩
      | nil =>
        cases u with
        | nil => exact absurd htoken not_spelled_nil
        | cons d u =>
          obtain ⟨rfl, rfl⟩ := List.cons.inj hcs
          exact .inr ⟨token, tokens, u, rest, rfl, rfl, htoken, hrest, hspace⟩
  · rintro (⟨hc, h⟩ | ⟨token, more, u, rest, rfl, rfl, htoken, hrest, hspace⟩)
    · cases h with
      | nil hgap => exact .nil (List.forall_mem_cons.mpr ⟨hc, hgap⟩)
      | cons hgap htoken hrest hspace =>
        exact .cons (List.forall_mem_cons.mpr ⟨hc, hgap⟩) htoken hrest hspace
    · exact .cons isGap_nil htoken hrest hspace

theorem spelled_blank_cons_iff (hc : Text.isBlank c = true) :
    Pattern.Spelled tokens (c :: cs) ↔ Pattern.Spelled tokens cs := by
  rw [spelled_cons_iff]
  constructor
  · rintro (⟨-, h⟩ | ⟨token, more, u, rest, -, -, htoken, -⟩)
    · exact h
    · rw [not_isBlank_of_spelled htoken] at hc
      cases hc
  · exact fun h => .inl ⟨hc, h⟩

theorem not_spelled_close_cons : ¬Pattern.Spelled tokens (']' :: cs) := by
  rw [spelled_cons_iff]
  rintro (⟨hc, -⟩ | ⟨token, more, u, rest, -, -, htoken, -⟩)
  · exact absurd hc (by decide)
  · rcases spelled_cons_cases htoken with ⟨hword, -⟩ | ⟨hc, -⟩ | ⟨hc, -⟩
    · exact absurd (isWordChar_of_isWord_cons hword) (by simp [IsWordChar])
    · exact absurd hc (by decide)
    · exact absurd hc (by decide)

theorem spelled_open_cons_iff :
    Pattern.Spelled tokens ('[' :: cs) ↔
      ∃ inside more inner rest, tokens = .optional inside :: more ∧ cs = inner ++ ']' :: rest ∧
        inside ≠ [] ∧ Pattern.Spelled inside inner ∧ Pattern.Spelled more rest := by
  rw [spelled_cons_iff]
  constructor
  · rintro (⟨hc, -⟩ | ⟨token, more, u, rest, rfl, rfl, htoken, hrest, -⟩)
    · exact absurd hc (by decide)
    · rcases spelled_cons_cases htoken with ⟨hword, -⟩ | ⟨hc, -⟩ |
        ⟨-, inside, inner, rfl, hinside, hinner, rfl⟩
      · exact absurd (isWordChar_of_isWord_cons hword) (by simp [IsWordChar])
      · exact absurd hc (by decide)
      · exact ⟨inside, more, inner, rest, rfl, by simp, hinside, hinner, hrest⟩
  · rintro ⟨inside, more, inner, rest, rfl, rfl, hinside, hinner, hrest⟩
    exact .inr ⟨.optional inside, more, inner ++ [']'], rest, rfl, by simp,
      .optional hinside hinner, hrest, by simp [PatternToken.isLiteral]⟩

/-! ### What a draft still needs -/

/-- Some characters bring what is being read to its end and spell more tokens behind it; `tokens`
are all of these. -/
def Continues (reading : Reading) (tokens : List PatternToken) (cs : List Char) : Prop :=
  match reading with
  | .between => Pattern.Spelled tokens cs
  | .word chars =>
    ∃ tail rest more, cs = tail ++ rest ∧
      tokens = .literal (String.ofList (chars ++ tail)) :: more ∧ (∀ c ∈ tail, IsWordChar c) ∧
      Pattern.Spelled more rest ∧ (startsLiteral more = true → StartsBlank rest)
  | .name _ chars =>
    ∃ tail rest more, cs = tail ++ '>' :: rest ∧
      tokens = .argument (String.ofList (chars ++ tail)) :: more ∧ chars ++ tail ≠ [] ∧
      (∀ c ∈ tail, IsNameChar c) ∧ Pattern.Spelled more rest

/-- Some characters close the groups around a group of some tokens, one after the other, and spell
what stands behind each of them. -/
def Closes : List (Nat × List PatternToken) → List PatternToken → List Char → Pattern → Prop
  | [], tokens, cs, pattern => cs = [] ∧ pattern = tokens
  | (_, outer) :: groups, tokens, cs, pattern =>
    tokens ≠ [] ∧ ∃ more inner rest, cs = ']' :: (inner ++ rest) ∧ Pattern.Spelled more inner ∧
      Closes groups (outer ++ .optional tokens :: more) rest pattern

/-- Some characters complete a draft to a pattern. -/
def Draft.Completes (draft : Draft) (cs : List Char) (pattern : Pattern) : Prop :=
  ∃ more inner rest, cs = inner ++ rest ∧ Continues draft.reading more inner ∧
    Closes draft.groups (draft.tokens ++ more) rest pattern

section
variable {pattern : Pattern} {chars : List Char} {start : Nat}

theorem spelled_word_cons_iff (hc : IsWordChar c) :
    Pattern.Spelled tokens (c :: cs) ↔ Continues (.word [c]) tokens cs := by
  rw [spelled_cons_iff]
  constructor
  · rintro (⟨hblank, -⟩ | ⟨token, more, u, rest, rfl, rfl, htoken, hrest, hspace⟩)
    · rw [hc.1] at hblank
      cases hblank
    · rcases spelled_cons_cases htoken with ⟨hword, rfl⟩ | ⟨rfl, -⟩ | ⟨rfl, -⟩
      · exact ⟨u, rest, more, rfl, rfl, (List.forall_mem_cons.mp hword.2).2, hrest, hspace rfl⟩
      · exact absurd hc (by simp [IsWordChar])
      · exact absurd hc (by simp [IsWordChar])
  · rintro ⟨u, rest, more, rfl, rfl, hu, hrest, hspace⟩
    have hword : IsWord (c :: u) := ⟨List.cons_ne_nil c u, List.forall_mem_cons.mpr ⟨hc, hu⟩⟩
    exact .inr ⟨_, more, u, rest, rfl, rfl, .literal hword, hrest, fun _ => hspace⟩

theorem spelled_angle_cons_iff :
    Pattern.Spelled tokens ('<' :: cs) ↔ Continues (.name start []) tokens cs := by
  rw [spelled_cons_iff]
  constructor
  · rintro (⟨hc, -⟩ | ⟨token, more, u, rest, rfl, rfl, htoken, hrest, -⟩)
    · exact absurd hc (by decide)
    · rcases spelled_cons_cases htoken with ⟨hword, -⟩ | ⟨-, name, rfl, hname, rfl⟩ | ⟨hc, -⟩
      · exact absurd (isWordChar_of_isWord_cons hword) (by simp [IsWordChar])
      · exact ⟨name, rest, more, by simp, rfl, hname.1, hname.2, hrest⟩
      · exact absurd hc (by decide)
  · rintro ⟨name, rest, more, rfl, rfl, hne, hname, hrest⟩
    exact .inr ⟨_, more, name ++ ['>'], rest, rfl, by simp, .argument ⟨hne, hname⟩, hrest,
      by simp [PatternToken.isLiteral]⟩

/-- Where no word can go on, two words would have a blank between them. -/
theorem startsBlank_of_spelled (h : Pattern.Spelled tokens cs)
    (hliteral : startsLiteral tokens = true) (hends : ∀ c ∈ cs.head?, Draft.endsWord c = true) :
    StartsBlank cs := by
  cases cs with
  | nil =>
    obtain rfl := spelled_nil_iff.mp h
    cases hliteral
  | cons c cs =>
    rcases spelled_cons_iff.mp h with ⟨hc, -⟩ | ⟨token, more, u, rest, rfl, -, htoken, -⟩
    · exact ⟨c, cs, rfl, hc⟩
    · have hc : Draft.endsWord c = true := hends c rfl
      rcases spelled_cons_cases htoken with ⟨hword, -⟩ | ⟨-, name, -, -, rfl⟩ |
        ⟨-, inside, inner, -, -, -, rfl⟩
      · rw [endsWord_eq_false_iff.mpr (isWordChar_of_isWord_cons hword)] at hc
        cases hc
      · cases hliteral
      · cases hliteral

theorem continues_word_iff (hends : ∀ c ∈ cs.head?, Draft.endsWord c = true) :
    Continues (.word chars) tokens cs ↔
      ∃ more, tokens = .literal (String.ofList chars) :: more ∧ Pattern.Spelled more cs := by
  constructor
  · rintro ⟨tail, rest, more, rfl, rfl, htail, hrest, -⟩
    cases tail with
    | nil => exact ⟨more, by rw [List.append_nil], hrest⟩
    | cons c tail =>
      have hc := endsWord_eq_false_iff.mpr (htail c List.mem_cons_self)
      rw [hends c rfl] at hc
      cases hc
  · rintro ⟨more, rfl, hmore⟩
    exact ⟨[], cs, more, rfl, by rw [List.append_nil], by simp, hmore,
      fun hliteral => startsBlank_of_spelled hmore hliteral hends⟩

/-- A character of a word makes the word that is read longer, as two words have a blank between
them. -/
theorem continues_word_cons_iff (hc : IsWordChar c) :
    Continues (.word chars) tokens (c :: cs) ↔ Continues (.word (chars ++ [c])) tokens cs := by
  constructor
  · rintro ⟨tail, rest, more, hcs, rfl, htail, hrest, hspace⟩
    cases tail with
    | nil =>
      subst hcs
      obtain ⟨_, _, _, -, rfl, -⟩ := (spelled_word_cons_iff hc).mp hrest
      obtain ⟨_, _, hcons, hblank⟩ := hspace rfl
      rw [← (List.cons.inj hcons).1, hc.1] at hblank
      cases hblank
    | cons d tail =>
      obtain ⟨rfl, rfl⟩ := List.cons.inj hcs
      exact ⟨tail, rest, more, rfl, by simp, (List.forall_mem_cons.mp htail).2, hrest, hspace⟩
  · rintro ⟨tail, rest, more, rfl, rfl, htail, hrest, hspace⟩
    exact ⟨c :: tail, rest, more, rfl, by simp, List.forall_mem_cons.mpr ⟨hc, htail⟩, hrest, hspace⟩

theorem continues_name_close_iff :
    Continues (.name start chars) tokens ('>' :: cs) ↔
      chars ≠ [] ∧ ∃ more, tokens = .argument (String.ofList chars) :: more ∧
        Pattern.Spelled more cs := by
  constructor
  · rintro ⟨tail, rest, more, hcs, rfl, hne, htail, hrest⟩
    cases tail with
    | nil =>
      obtain ⟨-, rfl⟩ := List.cons.inj hcs
      rw [List.append_nil] at hne ⊢
      exact ⟨hne, more, rfl, hrest⟩
    | cons d tail =>
      obtain ⟨rfl, -⟩ := List.cons.inj hcs
      exact absurd (htail _ List.mem_cons_self) (by simp [IsNameChar])
  · rintro ⟨hne, more, rfl, hmore⟩
    exact ⟨[], cs, more, rfl, by rw [List.append_nil], by rwa [List.append_nil], by simp, hmore⟩

theorem not_continues_name_nil : ¬Continues (.name start chars) tokens [] := by
  rintro ⟨tail, rest, more, hcs, -⟩
  cases tail <;> cases hcs

theorem continues_name_cons_iff (hclose : c ≠ '>') :
    Continues (.name start chars) tokens (c :: cs) ↔
      IsNameChar c ∧ Continues (.name start (chars ++ [c])) tokens cs := by
  constructor
  · rintro ⟨tail, rest, more, hcs, rfl, hne, htail, hrest⟩
    cases tail with
    | nil => exact absurd (List.cons.inj hcs).1 hclose
    | cons d tail =>
      obtain ⟨rfl, rfl⟩ := List.cons.inj hcs
      obtain ⟨hc, htail⟩ := List.forall_mem_cons.mp htail
      exact ⟨hc, tail, rest, more, rfl, by simp, by simp, htail, hrest⟩
  · rintro ⟨hc, tail, rest, more, rfl, rfl, -, htail, hrest⟩
    exact ⟨c :: tail, rest, more, rfl, by simp, by simp,
      List.forall_mem_cons.mpr ⟨hc, htail⟩, hrest⟩

/-! ### One character -/

theorem head_of_closes {groups : List (Nat × List PatternToken)}
    (h : Closes groups tokens (c :: cs) pattern) : c = ']' := by
  cases groups with
  | nil => cases h.1
  | cons group groups =>
    obtain ⟨-, _, _, _, hcs, -⟩ := h
    exact (List.cons.inj hcs).1

theorem completes_cons_iff_of_ne {draft : Draft} (hc : c ≠ ']') :
    draft.Completes (c :: cs) pattern ↔
      ∃ more inner rest, cs = inner ++ rest ∧ Continues draft.reading more (c :: inner) ∧
        Closes draft.groups (draft.tokens ++ more) rest pattern := by
  constructor
  · rintro ⟨more, inner, rest, hcs, hinner, hrest⟩
    cases inner with
    | nil =>
      rw [List.nil_append] at hcs
      exact absurd (head_of_closes (hcs ▸ hrest)) hc
    | cons d inner =>
      obtain ⟨rfl, rfl⟩ := List.cons.inj hcs
      exact ⟨more, inner, rest, rfl, hinner, hrest⟩
  · rintro ⟨more, inner, rest, rfl, hinner, hrest⟩
    exact ⟨more, c :: inner, rest, rfl, hinner, hrest⟩

section
variable {groups : List (Nat × List PatternToken)} {offset : Nat} {before : List PatternToken}

theorem completes_cons_iff_of_continues {reading next : Reading} (hc : c ≠ ']')
    (h : ∀ more inner, Continues reading more (c :: inner) ↔ Continues next more inner) :
    Draft.Completes ⟨reading, before, groups⟩ (c :: cs) pattern ↔
      Draft.Completes ⟨next, before, groups⟩ cs pattern := by
  rw [completes_cons_iff_of_ne hc]
  simp only [h]
  rfl

theorem completes_open_iff :
    Draft.Completes ⟨.between, before, groups⟩ ('[' :: cs) pattern ↔
      Draft.Completes ⟨.between, [], (offset, before) :: groups⟩ cs pattern := by
  rw [completes_cons_iff_of_ne (by decide)]
  constructor
  · rintro ⟨_, _, rest, rfl, hinner, hrest⟩
    obtain ⟨inside, more, inner, behind, rfl, rfl, hinside, hinner, hbehind⟩ :=
      spelled_open_cons_iff.mp hinner
    exact ⟨inside, inner, ']' :: (behind ++ rest), by simp, hinner, hinside, more, behind, rest,
      rfl, hbehind, hrest⟩
  · rintro ⟨inside, inner, _, rfl, hinner, hinside, more, behind, rest, rfl, hbehind, hrest⟩
    exact ⟨_, _, rest, by simp, spelled_open_cons_iff.mpr
      ⟨inside, more, inner, behind, rfl, rfl, hinside, hinner, hbehind⟩, hrest⟩

theorem completes_close_iff {outer : List PatternToken} :
    Draft.Completes ⟨.between, before, (start, outer) :: groups⟩ (']' :: cs) pattern ↔
      before ≠ [] ∧ Draft.Completes ⟨.between, outer ++ [.optional before], groups⟩ cs pattern := by
  constructor
  · rintro ⟨tokens, inner, rest, hcs, hinner, hrest⟩
    cases inner with
    | cons d inner =>
      obtain ⟨rfl, -⟩ := List.cons.inj hcs
      exact absurd hinner not_spelled_close_cons
    | nil =>
      obtain rfl := spelled_nil_iff.mp hinner
      obtain ⟨hbefore, more, inner, behind, hrest, hmore, hbehind⟩ := hrest
      rw [List.append_nil] at hbefore hbehind
      rw [List.nil_append] at hcs
      obtain ⟨-, rfl⟩ := List.cons.inj (hcs.trans hrest)
      refine ⟨hbefore, more, inner, behind, rfl, hmore, ?_⟩
      rwa [List.append_assoc]
  · rintro ⟨hbefore, more, inner, rest, rfl, hmore, hrest⟩
    rw [List.append_assoc] at hrest
    refine ⟨[], [], ']' :: (inner ++ rest), rfl, spelled_nil_iff.mpr rfl, ?_⟩
    rw [List.append_nil]
    exact ⟨hbefore, more, inner, rest, rfl, hmore, hrest⟩

theorem not_completes_close :
    ¬Draft.Completes ⟨.between, before, []⟩ (']' :: cs) pattern := by
  rintro ⟨tokens, inner, rest, hcs, hinner, hrest, -⟩
  subst hrest
  rw [List.append_nil] at hcs
  exact not_spelled_close_cons (hcs ▸ hinner)

theorem completes_stepBetween_iff :
    Draft.Completes ⟨.between, before, groups⟩ (c :: cs) pattern ↔
      ∃ next, Draft.stepBetween ⟨.between, before, groups⟩ offset c = .ok next ∧
        next.Completes cs pattern := by
  unfold Draft.stepBetween
  by_cases hblank : Text.isBlank c = true
  · have hc : c ≠ ']' := by
      rintro rfl
      exact absurd hblank (by decide)
    rw [if_pos hblank, exists_ok_iff]
    exact completes_cons_iff_of_continues hc fun _ _ => spelled_blank_cons_iff hblank
  rw [if_neg hblank]
  by_cases hopen : c = '['
  · subst hopen
    rw [if_pos rfl, exists_ok_iff]
    exact completes_open_iff
  rw [if_neg hopen]
  by_cases hangle : c = '<'
  · subst hangle
    rw [if_pos rfl, exists_ok_iff]
    exact completes_cons_iff_of_continues (by decide) fun _ _ => spelled_angle_cons_iff
  rw [if_neg hangle]
  by_cases hclose : c = ']'
  · subst hclose
    rw [if_pos rfl]
    cases groups with
    | nil => exact iff_of_false not_completes_close not_exists_error
    | cons group groups =>
      obtain ⟨start, outer⟩ := group
      rw [completes_close_iff]
      by_cases hbefore : before = []
      · simp [hbefore]
      · simp [hbefore]
  · have hword : IsWordChar c := ⟨by simpa using hblank, by simp [hopen, hclose, hangle]⟩
    rw [if_neg hclose, exists_ok_iff]
    exact completes_cons_iff_of_continues hclose fun _ _ => spelled_word_cons_iff hword

theorem completes_word_iff (hends : Draft.endsWord c = true) :
    Draft.Completes ⟨.word chars, before, groups⟩ (c :: cs) pattern ↔
      Draft.Completes ⟨.between, before ++ [.literal (String.ofList chars)], groups⟩ (c :: cs)
        pattern := by
  have hhead : ∀ inner rest, c :: cs = inner ++ rest →
      ∀ d ∈ inner.head?, Draft.endsWord d = true := by
    intro inner rest hcs d hd
    cases inner with
    | nil => cases hd
    | cons e inner =>
      obtain ⟨rfl, -⟩ := List.cons.inj hcs
      obtain rfl := Option.some.inj hd
      exact hends
  constructor
  · rintro ⟨_, inner, rest, hcs, hinner, hrest⟩
    obtain ⟨more, rfl, hmore⟩ := (continues_word_iff (hhead inner rest hcs)).mp hinner
    refine ⟨more, inner, rest, hcs, hmore, ?_⟩
    rwa [List.append_assoc]
  · rintro ⟨more, inner, rest, hcs, hmore, hrest⟩
    rw [List.append_assoc] at hrest
    exact ⟨_, inner, rest, hcs, (continues_word_iff (hhead inner rest hcs)).mpr ⟨more, rfl, hmore⟩,
      hrest⟩

theorem completes_name_close_iff :
    Draft.Completes ⟨.name start chars, before, groups⟩ ('>' :: cs) pattern ↔
      chars ≠ [] ∧
        Draft.Completes ⟨.between, before ++ [.argument (String.ofList chars)], groups⟩ cs
          pattern := by
  rw [completes_cons_iff_of_ne (by decide)]
  constructor
  · rintro ⟨_, inner, rest, rfl, hinner, hrest⟩
    obtain ⟨hchars, more, rfl, hmore⟩ := continues_name_close_iff.mp hinner
    refine ⟨hchars, more, inner, rest, rfl, hmore, ?_⟩
    rwa [List.append_assoc]
  · rintro ⟨hchars, more, inner, rest, rfl, hmore, hrest⟩
    rw [List.append_assoc] at hrest
    exact ⟨_, inner, rest, rfl, continues_name_close_iff.mpr ⟨hchars, more, rfl, hmore⟩, hrest⟩

theorem not_completes_name (hends : Draft.endsWord c = true) :
    ¬Draft.Completes ⟨.name start chars, before, groups⟩ (c :: cs) pattern := by
  rintro ⟨_, inner, rest, hcs, hinner, -⟩
  cases inner with
  | nil => exact not_continues_name_nil hinner
  | cons d inner =>
    obtain ⟨rfl, -⟩ := List.cons.inj hcs
    have hclose : c ≠ '>' := by
      rintro rfl
      exact absurd hends (by decide)
    obtain ⟨hname, -⟩ := (continues_name_cons_iff hclose).mp hinner
    rw [endsWord_eq_false_iff.mpr (isNameChar_iff.mp hname).1] at hends
    cases hends

/-- A draft is completed by a text if the first character takes it to one that is completed by the
rest. -/
theorem completes_cons_iff {draft : Draft} :
    draft.Completes (c :: cs) pattern ↔
      ∃ next, draft.step offset c = .ok next ∧ next.Completes cs pattern := by
  obtain ⟨reading, before, groups⟩ := draft
  cases reading with
  | between => exact completes_stepBetween_iff
  | word chars =>
    simp only [Draft.step]
    by_cases hends : Draft.endsWord c = true
    · -- The character is read once more, now that the word is one of the tokens.
      rw [if_pos hends, completes_word_iff hends]
      exact completes_stepBetween_iff
    · have hc : IsWordChar c := endsWord_eq_false_iff.mp (by simpa using hends)
      rw [if_neg hends, exists_ok_iff]
      exact completes_cons_iff_of_continues (ne_close_of_isWordChar hc) fun _ _ =>
        continues_word_cons_iff hc
  | name start chars =>
    simp only [Draft.step]
    by_cases hangle : c = '>'
    · subst hangle
      rw [if_pos rfl, completes_name_close_iff]
      by_cases hchars : chars = []
      · simp [hchars]
      · simp [hchars, Draft.push]
    rw [if_neg hangle]
    by_cases hends : Draft.endsWord c = true
    · rw [if_pos hends]
      exact iff_of_false (not_completes_name hends) not_exists_error
    · have hc : IsWordChar c := endsWord_eq_false_iff.mp (by simpa using hends)
      have hname : IsNameChar c := isNameChar_iff.mpr ⟨hc, hangle⟩
      rw [if_neg hends, exists_ok_iff]
      refine completes_cons_iff_of_continues (ne_close_of_isWordChar hc) fun more inner => ?_
      rw [continues_name_cons_iff hangle]
      exact and_iff_right hname

end

theorem closes_nil_iff {groups : List (Nat × List PatternToken)} :
    Closes groups tokens [] pattern ↔ groups = [] ∧ pattern = tokens := by
  cases groups with
  | nil => simp [Closes]
  | cons group groups => simp [Closes]

/-- At the end of the text, a draft is completed if it can be finished. -/
theorem completes_nil_iff {draft : Draft} :
    draft.Completes [] pattern ↔ draft.finish = .ok pattern := by
  obtain ⟨reading, before, groups⟩ := draft
  have hnil : Draft.Completes ⟨reading, before, groups⟩ [] pattern ↔
      ∃ more, Continues reading more [] ∧ groups = [] ∧ pattern = before ++ more := by
    simp [Draft.Completes, closes_nil_iff, and_assoc]
  rw [hnil]
  cases groups with
  | cons group groups => cases reading <;> simp [Draft.finish]
  | nil =>
    cases reading with
    | between =>
      simp only [Continues, spelled_nil_iff, exists_eq_left, List.append_nil, true_and,
        Draft.finish, Except.ok.injEq]
      exact eq_comm
    | word chars =>
      have hends : ∀ c ∈ ([] : List Char).head?, Draft.endsWord c = true := by simp
      simp only [continues_word_iff hends, spelled_nil_iff, exists_eq_right, exists_eq_left,
        true_and, Draft.finish, Except.ok.injEq]
      exact eq_comm
    | name start chars => simp [not_continues_name_nil, Draft.finish]

/-- A draft reads a text to the pattern that the text completes it to. -/
theorem run_eq_ok_iff {draft : Draft} {offset : Nat} :
    draft.run offset cs = .ok pattern ↔ draft.Completes cs pattern := by
  induction cs generalizing draft offset with
  | nil => exact completes_nil_iff.symm
  | cons c cs ih =>
    have hstep : draft.Completes (c :: cs) pattern ↔
        ∃ next, draft.step offset c = .ok next ∧ next.Completes cs pattern := completes_cons_iff
    rw [hstep, Draft.run]
    cases draft.step offset c with
    | error fault => simp
    | ok next => simp [ih]

end

theorem completes_empty_iff {pattern : Pattern} :
    Draft.Completes ⟨.between, [], []⟩ cs pattern ↔ pattern.Spelled cs := by
  constructor
  · rintro ⟨tokens, inner, rest, rfl, hinner, rfl, rfl⟩
    rwa [List.append_nil]
  · exact fun h => ⟨pattern, cs, [], (List.append_nil cs).symm, h, rfl, rfl⟩

theorem parse_eq_ok_iff {text : String} {pattern : Pattern} :
    parse text = .ok pattern ↔ pattern.Spelled text.toList := by
  rw [parse, run_eq_ok_iff, completes_empty_iff]

/-- Reading a text gives a pattern exactly if the text is a spelling of it, and any text that spells
no pattern is refused as malformed. -/
theorem parse_accepts_spellings (text : String) :
    (∀ pattern : Pattern, parse text = .ok pattern ↔ pattern.Spelled text.toList) ∧
      ((¬∃ pattern : Pattern, pattern.Spelled text.toList) ↔
        ∃ fault, parse text = .error fault ∧
          fault.message text = "Malformed pattern '" ++ text ++ "': " ++ fault.reason) := by
  refine ⟨fun _ => parse_eq_ok_iff, ?_⟩
  constructor
  · intro hnone
    rcases hresult : parse text with fault | pattern
    · exact ⟨fault, rfl, rfl⟩
    · exact absurd ⟨pattern, parse_eq_ok_iff.mp hresult⟩ hnone
  · rintro ⟨fault, hfault, -⟩ ⟨pattern, hpattern⟩
    rw [parse_eq_ok_iff.mpr hpattern] at hfault
    cases hfault

/-- Tokens need no blanks between them but where two words meet, and a closing angle bracket is an
ordinary character of a word. -/
example : parse "a<b>c[d>]" =
    .ok [.literal "a", .argument "b", .literal "c", .optional [.literal "d>"]] := rfl

end Pattern

end RowRecipe
