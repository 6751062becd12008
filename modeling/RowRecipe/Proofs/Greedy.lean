import RowRecipe.Directive.Catalog
import RowRecipe.Proofs.Choice

/-!
# Groups at the end

A group takes what it can and never gives it back, so tokens that fit a pattern with some choice of
its groups may be refused. Where groups only stand last, this cannot happen: what follows the tokens
of a group is nothing, so a choice that fits all of the tokens is found.

Main statement: `Pattern.exists_bindings_iff_choice`. Its proof is an induction over the pattern,
from a choice that fits the tokens to the run of the matcher (`takeAll_of_filled`).
-/
namespace RowRecipe

def PatternToken.isGroup : PatternToken → Bool
  | .optional _ => true
  | .argument _ | .literal _ => false

mutual

def PatternToken.groupsLast : PatternToken → Bool
  | .argument _ | .literal _ => true
  | .optional tokens => Pattern.groupsLast tokens

/-- Whether groups only stand last, in the pattern and in each of its groups. -/
def Pattern.groupsLast : Pattern → Bool
  | [] => true
  | [token] => token.groupsLast
  | token :: next :: tokens => !token.isGroup && Pattern.groupsLast (next :: tokens)

end

section
variable {token : PatternToken} {inner : List PatternToken} {slots others : List Slot}
variable {tokens : List String} {bound : List (String × String)}

theorem takeAll_single (token : PatternToken) (tokens : List String) :
    takeAll [token] tokens = token.take tokens := by
  simp only [takeAll, bind, Except.bind, pure, Except.pure]
  cases token.take tokens with
  | error fault => rfl
  | ok taken => simp

/-- A token that is no group takes what its slot takes. -/
theorem PatternToken.take_of_filled_append (hgroup : token.isGroup = false)
    (hslots : token.Flattens slots) (h : Filled (slots ++ others) tokens bound) :
    ∃ first rest more, token.take tokens = .ok (first, rest) ∧ Filled others rest more ∧
      bound = first ++ more := by
  cases hslots with
  | argument =>
    cases h with
    | argument h => exact ⟨_, _, _, rfl, h, rfl⟩
  | literal =>
    cases h with
    | literal h => exact ⟨[], _, _, by rw [take, if_pos rfl], h, rfl⟩
  | missing => cases hgroup
  | present _ => cases hgroup

/-- Of no tokens a group takes none, whether it matches them or not. -/
theorem PatternToken.take_optional_nil (inner : List PatternToken) :
    PatternToken.take (.optional inner) [] = .ok ([], []) := by
  rw [take]
  cases hinner : takeAll inner [] with
  | error fault => rfl
  | ok taken =>
    obtain ⟨bound, rest⟩ := taken
    obtain ⟨slots, taken, -, hfilled, happend⟩ := exists_filled_of_takeAll hinner
    obtain ⟨rfl, rfl⟩ := List.append_eq_nil_iff.mp happend
    cases hfilled
    rfl

end

mutual

/-- A token takes what fills its slots. A group stands last, so no tokens are left that it could
take by mistake. -/
theorem PatternToken.take_of_filled :
    ∀ {token : PatternToken} {slots : List Slot} {tokens : List String}
      {bound : List (String × String)}, token.groupsLast = true → token.Flattens slots →
      Filled slots tokens bound → token.take tokens = .ok (bound, [])
  | .argument name, _, _, _, _, hslots, h => by
    cases hslots
    obtain _ | h := h
    cases h
    rfl
  | .literal word, _, _, _, _, hslots, h => by
    cases hslots
    obtain _ | _ | h := h
    cases h
    rw [PatternToken.take, if_pos rfl]
  | .optional inner, _, _, _, hlast, hslots, h => by
    cases hslots with
    | missing =>
      cases h
      exact PatternToken.take_optional_nil inner
    | present hinner => rw [PatternToken.take, takeAll_of_filled hlast hinner h]

theorem takeAll_of_filled :
    ∀ {pattern : List PatternToken} {slots : List Slot} {tokens : List String}
      {bound : List (String × String)}, Pattern.groupsLast pattern = true →
      Pattern.Flattens pattern slots → Filled slots tokens bound →
      takeAll pattern tokens = .ok (bound, [])
  | [], _, _, _, _, hslots, h => by
    cases hslots
    cases h
    rfl
  | [token], _, _, _, hlast, hslots, h => by
    obtain _ | ⟨htoken, hrest⟩ := hslots
    cases hrest
    rw [List.append_nil] at h
    rw [takeAll_single, token.take_of_filled hlast htoken h]
  | token :: next :: pattern, _, _, _, hlast, hslots, h => by
    obtain _ | ⟨htoken, hrest⟩ := hslots
    rw [Pattern.groupsLast, Bool.and_eq_true, Bool.not_eq_true'] at hlast
    obtain ⟨first, rest, more, htake, hmore, rfl⟩ := token.take_of_filled_append hlast.1 htoken h
    rw [takeAll, htake]
    simp only [bind, Except.bind, takeAll_of_filled hlast.2 hrest hmore]
    rfl

end

namespace Pattern

/-- Groups only stand last in the usages of the library. In such a pattern tokens match exactly if
they fit some choice of its groups, and the bindings are those of any choice that they fit. -/
theorem exists_bindings_iff_choice :
    (∀ entry ∈ Catalog.entries, entry.usage.pattern.groupsLast = true) ∧
    ∀ pattern : Pattern, pattern.groupsLast = true → ∀ tokens,
      ((∃ bindings, pattern.bindings tokens = .ok bindings) ↔
        ∃ slots, pattern.Flattens slots ∧ List.Forall₂ Slot.Takes slots tokens) ∧
      ∀ bindings slots, pattern.bindings tokens = .ok bindings → pattern.Flattens slots →
        List.Forall₂ Slot.Takes slots tokens → Slot.Binds slots tokens bindings := by
  refine ⟨by decide, ?_⟩
  intro pattern hlast tokens
  have hfound : ∀ slots bound, pattern.Flattens slots → Filled slots tokens bound →
      pattern.bindings tokens = .ok (SortedMap.ofList bound) := by
    intro slots bound hslots hfilled
    rw [Pattern.bindings, takeAll_of_filled hlast hslots hfilled]
    rfl
  refine ⟨⟨?_, ?_⟩, ?_⟩
  · rintro ⟨bindings, h⟩
    obtain ⟨slots, bound, hslots, hfilled, -⟩ := exists_filled_of_bindings h
    exact ⟨slots, hslots, hfilled.takes⟩
  · rintro ⟨slots, hslots, htakes⟩
    obtain ⟨bound, hfilled⟩ := exists_filled_of_takes htakes
    exact ⟨_, hfound slots bound hslots hfilled⟩
  · intro bindings slots h hslots htakes
    obtain ⟨bound, hfilled⟩ := exists_filled_of_takes htakes
    rw [hfound slots bound hslots hfilled] at h
    obtain rfl := Except.ok.inj h
    exact hfilled.binds

/-- A separator that may be missing, with a limit that may be missing beside it. -/
def splits : Pattern :=
  [.literal "split", .argument "column", .optional [.argument "by", .optional [.argument "limit"]]]

/-- The tokens fit the pattern without the inner group, so they match, and bind no limit. -/
theorem exists_bindings_iff_choice_splits :
    splits.groupsLast = true ∧
      splits.Flattens [.literal "split", .argument "column", .argument "by"] ∧
      ∃ bindings, splits.bindings ["split", "c", ","] = .ok bindings ∧
        Slot.Binds [.literal "split", .argument "column", .argument "by"] ["split", "c", ","]
          bindings := by
  have hslots : splits.Flattens [.literal "split", .argument "column", .argument "by"] :=
    .cons .literal (.cons .argument (.cons (.present (.cons .argument (.cons .missing .nil))) .nil))
  have htakes : List.Forall₂ Slot.Takes [.literal "split", .argument "column", .argument "by"]
      ["split", "c", ","] :=
    .cons rfl (.cons trivial (.cons trivial .nil))
  obtain ⟨hmatch, hbinds⟩ := exists_bindings_iff_choice.2 splits rfl ["split", "c", ","]
  obtain ⟨bindings, h⟩ := hmatch.mpr ⟨_, hslots, htakes⟩
  exact ⟨rfl, hslots, bindings, h, hbinds bindings _ h hslots htakes⟩

/-- A group in front of an argument takes the only token, which would fit if it were missing. -/
example : Pattern.bindings [.optional [.argument "a"], .argument "b"] ["x"] =
    .error (.missingValue "b") := rfl

end Pattern

end RowRecipe
