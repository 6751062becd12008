import RowRecipe.Proofs.Spelling
import RowRecipe.Recipe.Usage

/-!
# Texts of patterns

The text of a pattern spells the pattern as long as each token can be spelled at all: words and
names have the characters that they may have, and no group is empty. So such patterns are read back
from their texts. No other pattern is read from any text, its own included. A usage that is declared
step by step has no empty groups, whatever groups are declared in it, so its pattern is read back
from its text if the names that it uses may stand in patterns.

Main statement: `Pattern.parse_display`.
-/
namespace RowRecipe

namespace Pattern

instance : DecidablePred IsWordChar :=
  fun c => inferInstanceAs (Decidable (Text.isBlank c = false ∧ c ∉ ['[', ']', '<']))

instance : DecidablePred IsNameChar :=
  fun c => inferInstanceAs (Decidable (Text.isBlank c = false ∧ c ∉ ['<', '>', '[', ']']))

instance : DecidablePred IsWord :=
  fun cs => @instDecidableAnd _ _ _ (cs.decidableBAll IsWordChar)

instance : DecidablePred IsName :=
  fun cs => @instDecidableAnd _ _ _ (cs.decidableBAll IsNameChar)

end Pattern

open Pattern

mutual

/-- A token that has a spelling: its words and names may stand in patterns, and no group in it is
empty. -/
def PatternToken.WellFormed : PatternToken → Prop
  | .argument name => IsName name.toList
  | .literal word => IsWord word.toList
  | .optional tokens => tokens ≠ [] ∧ Pattern.WellFormed tokens

def Pattern.WellFormed : Pattern → Prop
  | [] => True
  | token :: tokens => token.WellFormed ∧ Pattern.WellFormed tokens

end

mutual

theorem PatternToken.WellFormed.spelled :
    ∀ {token : PatternToken}, token.WellFormed → token.Spelled token.chars
  | .argument name, h => by
    have hspelled : PatternToken.Spelled (.argument (String.ofList name.toList)) _ := .argument h
    rwa [String.ofList_toList] at hspelled
  | .literal word, h => by
    have hspelled : PatternToken.Spelled (.literal (String.ofList word.toList)) _ := .literal h
    rwa [String.ofList_toList] at hspelled
  | .optional _, h => .optional h.1 (Pattern.WellFormed.spelled h.2)

/-- The text of a pattern has no blanks but one between two tokens. -/
theorem Pattern.WellFormed.spelled :
    ∀ {tokens : List PatternToken}, Pattern.WellFormed tokens →
      Pattern.Spelled tokens (patternChars tokens)
  | [], _ => spelled_nil_iff.mpr rfl
  | [token], h => by
    have hspelled : Pattern.Spelled [token] ([] ++ (token.chars ++ [])) :=
      .cons isGap_nil h.1.spelled (spelled_nil_iff.mpr rfl) (by simp [startsLiteral])
    rwa [List.nil_append, List.append_nil, ← patternChars] at hspelled
  | token :: next :: tokens, h => by
    have hrest : Pattern.Spelled (next :: tokens) (' ' :: patternChars (next :: tokens)) :=
      (spelled_blank_cons_iff (by decide)).mpr (Pattern.WellFormed.spelled h.2)
    have hspelled : Pattern.Spelled (token :: next :: tokens)
        ([] ++ (token.chars ++ ' ' :: patternChars (next :: tokens))) :=
      .cons isGap_nil h.1.spelled hrest fun _ _ => ⟨' ', _, rfl, by decide⟩
    rwa [List.nil_append, ← patternChars] at hspelled

end

mutual

theorem PatternToken.Spelled.wellFormed :
    ∀ {token : PatternToken} {cs : List Char}, token.Spelled cs → token.WellFormed
  | .argument name, _, h => by
    cases h with
    | argument hname => rwa [PatternToken.WellFormed, String.toList_ofList]
  | .literal word, _, h => by
    cases h with
    | literal hword => rwa [PatternToken.WellFormed, String.toList_ofList]
  | .optional tokens, _, h => by
    cases h with
    | optional hne hinner => exact ⟨hne, Pattern.Spelled.wellFormed hinner⟩

/-- Nothing else has a spelling. -/
theorem Pattern.Spelled.wellFormed :
    ∀ {tokens : List PatternToken} {cs : List Char}, Pattern.Spelled tokens cs →
      Pattern.WellFormed tokens
  | [], _, _ => trivial
  | token :: tokens, _, h => by
    cases h with
    | cons _ htoken hrest _ => exact ⟨htoken.wellFormed, Pattern.Spelled.wellFormed hrest⟩

end

theorem Pattern.parse_display_eq_ok_iff {pattern : Pattern} :
    parse pattern.display = .ok pattern ↔ pattern.WellFormed := by
  rw [parse_eq_ok_iff, display, String.toList_ofList]
  exact ⟨Pattern.Spelled.wellFormed, Pattern.WellFormed.spelled⟩

mutual

def UsageToken.keywords : UsageToken → List String
  | .parameter _ _ => []
  | .keyword word => [word]
  | .optional tokens => keywordsOf tokens

def keywordsOf : List UsageToken → List String
  | [] => []
  | token :: tokens => token.keywords ++ keywordsOf tokens

end

mutual

/-- Whether no group is empty. -/
def UsageToken.IsFilled : UsageToken → Prop
  | .parameter _ _ | .keyword _ => True
  | .optional tokens => tokens ≠ [] ∧ AreFilled tokens

def AreFilled : List UsageToken → Prop
  | [] => True
  | token :: tokens => token.IsFilled ∧ AreFilled tokens

end

theorem areFilled_append {tokens others : List UsageToken} (h : AreFilled tokens)
    (hothers : AreFilled others) : AreFilled (tokens ++ others) := by
  induction tokens with
  | nil => exact hothers
  | cons token tokens ih => exact ⟨h.1, ih h.2⟩

mutual

theorem areFilled_tokens : ∀ declaration : Declaration, AreFilled declaration.tokens
  | .define _ _ => ⟨trivial, trivial⟩
  | .defineOptional _ _ => ⟨⟨List.cons_ne_nil _ _, trivial, trivial⟩, trivial⟩
  | .keyword _ => ⟨trivial, trivial⟩
  | .optional inner => by
    have hinner := areFilled_declaredTokens inner
    rw [Declaration.tokens]
    split
    · trivial
    · next hne => exact ⟨⟨hne, hinner⟩, trivial⟩

/-- No group of a usage that is declared is empty: one without tokens is not there. -/
theorem areFilled_declaredTokens :
    ∀ declarations : List Declaration, AreFilled (declaredTokens declarations)
  | [] => trivial
  | declaration :: declarations =>
    areFilled_append (areFilled_tokens declaration) (areFilled_declaredTokens declarations)

end

mutual

theorem wellFormed_patternToken : ∀ {token : UsageToken} {required : Bool}, token.IsFilled →
    (∀ word ∈ token.keywords, IsWord word.toList) →
    (∀ parameter ∈ token.parameters required, IsName parameter.name.toList) →
    token.patternToken.WellFormed
  | .parameter name kind, _, _, _, hparameters => hparameters _ List.mem_cons_self
  | .keyword word, _, _, hkeywords, _ => hkeywords word List.mem_cons_self
  | .optional [], _, h, _, _ => absurd rfl h.1
  | .optional (token :: tokens), _, h, hkeywords, hparameters =>
    ⟨by simp [patternTokens], wellFormed_patternTokens h.2 hkeywords hparameters⟩

theorem wellFormed_patternTokens : ∀ {tokens : List UsageToken} {required : Bool},
    AreFilled tokens → (∀ word ∈ keywordsOf tokens, IsWord word.toList) →
    (∀ parameter ∈ parametersOf required tokens, IsName parameter.name.toList) →
    Pattern.WellFormed (patternTokens tokens)
  | [], _, _, _, _ => trivial
  | token :: tokens, _, h, hkeywords, hparameters => by
    rw [keywordsOf, List.forall_mem_append] at hkeywords
    rw [parametersOf, List.forall_mem_append] at hparameters
    exact ⟨wellFormed_patternToken h.1 hkeywords.1 hparameters.1,
      wellFormed_patternTokens h.2 hkeywords.2 hparameters.2⟩

end

/-- A usage with names that may stand in patterns. -/
structure Usage.WellNamed (usage : Usage) : Prop where
  directive : IsWord usage.directive.toList
  keywords : ∀ word ∈ keywordsOf usage.tokens, IsWord word.toList
  parameters : ∀ parameter ∈ usage.parameters, IsName parameter.name.toList

namespace Pattern

/-- A pattern is read back from its text exactly if all of it can be spelled, and so is the pattern
of every usage that is declared with names that may stand in patterns. -/
theorem parse_display :
    (∀ pattern : Pattern, parse pattern.display = .ok pattern ↔ pattern.WellFormed) ∧
      ∀ directive declarations, (Usage.declare directive declarations).WellNamed →
        parse (Usage.declare directive declarations).display =
          .ok (Usage.declare directive declarations).pattern := by
  refine ⟨fun pattern => parse_display_eq_ok_iff, ?_⟩
  intro directive declarations h
  rw [Usage.display, parse_display_eq_ok_iff]
  exact ⟨h.directive,
    wellFormed_patternTokens (areFilled_declaredTokens declarations) h.keywords h.parameters⟩

/-- Declares a column, a separator with a limit that may be missing, and groups with nothing in
them. -/
def splitDeclarations : List Declaration :=
  [.define "column" .columnName,
    .optional [.keyword "by", .define "separator" .text, .optional [.optional []],
      .defineOptional "limit" .number],
    .optional [.optional [], .optional []]]

/-- The groups with nothing in them are not in the text, nor in what is read from it. -/
theorem parse_display_split :
    (Usage.declare "split" splitDeclarations).WellNamed ∧
      (Usage.declare "split" splitDeclarations).display =
        "split <column> [by <separator> [<limit>]]" ∧
      parse "split <column> [by <separator> [<limit>]]" =
        .ok [.literal "split", .argument "column",
          .optional [.literal "by", .argument "separator", .optional [.argument "limit"]]] := by
  have hnamed : (Usage.declare "split" splitDeclarations).WellNamed :=
    ⟨by decide, by decide, by decide⟩
  exact ⟨hnamed, rfl, parse_display.2 "split" splitDeclarations hnamed⟩

end Pattern

end RowRecipe
