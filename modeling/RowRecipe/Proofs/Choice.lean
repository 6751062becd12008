import Mathlib.Data.List.Forall2
import RowRecipe.Proofs.Fallible
import RowRecipe.Recipe.Matching

/-!
# Choices of groups

Once it is settled for each group of a pattern whether it is there or missing, the pattern is a list
of slots, each of which takes one token. Tokens that match a pattern fill the slots of such a choice
one by one, and every name is bound to what its last slot takes. A group that does not match where
it is tried leaves no trace.

Main statement: `Pattern.exists_choice_of_bindings`. Its proof follows the matcher through the
pattern: each part of the pattern fills the slots of a choice with the tokens that it takes
(`Filled`), and what is filled one after another is filled together.
-/
namespace RowRecipe

/-- What is left of a pattern token when no groups are left. -/
inductive Slot where
  | argument (name : String)
  | literal (word : String)
  deriving Repr, DecidableEq

/-- Whether a slot takes a token. -/
def Slot.Takes : Slot → String → Prop
  | .argument _, _ => True
  | .literal word, token => token = word

mutual

/-- The slots of a token when each group in it is there or missing. What stands in a missing group
is missing with it. -/
inductive PatternToken.Flattens : PatternToken → List Slot → Prop where
  | argument {name : String} : PatternToken.Flattens (.argument name) [.argument name]
  | literal {word : String} : PatternToken.Flattens (.literal word) [.literal word]
  | missing {inner : List PatternToken} : PatternToken.Flattens (.optional inner) []
  | present {inner : List PatternToken} {slots : List Slot} :
      Pattern.Flattens inner slots → PatternToken.Flattens (.optional inner) slots

/-- The slots of tokens one after another when each group in them is there or missing. -/
inductive Pattern.Flattens : Pattern → List Slot → Prop where
  | nil : Pattern.Flattens [] []
  | cons {token : PatternToken} {tokens : List PatternToken} {slots others : List Slot} :
      token.Flattens slots → Pattern.Flattens tokens others →
      Pattern.Flattens (token :: tokens) (slots ++ others)

end

/-- The bindings when slots take tokens: each name is bound to the token of the last slot that has
the name, and no other name is bound. -/
def Slot.Binds (slots : List Slot) (tokens : List String) (bindings : Bindings) : Prop :=
  ∀ name token, bindings.get? name = some token ↔
    ∃ i : Nat, slots[i]? = some (.argument name) ∧ tokens[i]? = some token ∧
      ∀ j : Nat, i < j → slots[j]? ≠ some (.argument name)

/-- Slots take some tokens, and bind names to them in order. -/
inductive Filled : List Slot → List String → List (String × String) → Prop where
  | nil : Filled [] [] []
  | argument {name token : String} {slots : List Slot} {tokens : List String}
      {bound : List (String × String)} : Filled slots tokens bound →
      Filled (.argument name :: slots) (token :: tokens) ((name, token) :: bound)
  | literal {word : String} {slots : List Slot} {tokens : List String}
      {bound : List (String × String)} : Filled slots tokens bound →
      Filled (.literal word :: slots) (word :: tokens) bound

section
variable {slots others : List Slot} {tokens rest : List String}
variable {bound more : List (String × String)}

namespace Filled

theorem append (h : Filled slots tokens bound) (hothers : Filled others rest more) :
    Filled (slots ++ others) (tokens ++ rest) (bound ++ more) := by
  induction h with
  | nil => exact hothers
  | argument _ ih => exact .argument ih
  | literal _ ih => exact .literal ih

theorem takes (h : Filled slots tokens bound) : List.Forall₂ Slot.Takes slots tokens := by
  induction h with
  | nil => exact .nil
  | argument _ ih => exact .cons trivial ih
  | literal _ ih => exact .cons rfl ih

theorem mem_names_iff (h : Filled slots tokens bound) (name : String) :
    name ∈ bound.map Prod.fst ↔ .argument name ∈ slots := by
  induction h with
  | nil => simp
  | argument _ ih => simp [ih]
  | literal _ ih => simp [ih]

end Filled

theorem exists_filled_of_takes (h : List.Forall₂ Slot.Takes slots tokens) :
    ∃ bound, Filled slots tokens bound := by
  induction h with
  | nil => exact ⟨[], .nil⟩
  | @cons slot token slots tokens htakes _ ih =>
    obtain ⟨bound, hbound⟩ := ih
    cases slot with
    | argument name => exact ⟨(name, token) :: bound, .argument hbound⟩
    | literal word =>
      obtain rfl : token = word := htakes
      exact ⟨bound, .literal hbound⟩

/-- A slot in front of others only counts for a name that no other slot has. -/
theorem last_argument_cons {slot : Slot} {name token first : String} :
    (∃ i : Nat, (slot :: slots)[i]? = some (.argument name) ∧ (first :: tokens)[i]? = some token ∧
        ∀ j : Nat, i < j → (slot :: slots)[j]? ≠ some (.argument name)) ↔
      (∃ i : Nat, slots[i]? = some (.argument name) ∧ tokens[i]? = some token ∧
        ∀ j : Nat, i < j → slots[j]? ≠ some (.argument name)) ∨
      slot = .argument name ∧ first = token ∧ .argument name ∉ slots := by
  constructor
  · rintro ⟨i, hslot, htoken, hlast⟩
    cases i with
    | zero =>
      refine .inr ⟨Option.some.inj hslot, Option.some.inj htoken, ?_⟩
      intro hmem
      obtain ⟨j, hj⟩ := List.mem_iff_getElem?.mp hmem
      exact hlast (j + 1) j.succ_pos hj
    | succ i => exact .inl ⟨i, hslot, htoken, fun j hij => hlast (j + 1) (by omega)⟩
  · rintro (⟨i, hslot, htoken, hlast⟩ | ⟨rfl, rfl, hnone⟩)
    · refine ⟨i + 1, hslot, htoken, ?_⟩
      intro j hij
      cases j with
      | zero => omega
      | succ j => exact hlast j (by omega)
    · refine ⟨0, rfl, rfl, ?_⟩
      intro j hj
      cases j with
      | zero => omega
      | succ j => exact fun hmem => hnone (List.mem_of_getElem? hmem)

theorem isSome_get?_ofList (name : String) :
    ((SortedMap.ofList bound).get? name).isSome = true ↔ name ∈ bound.map Prod.fst := by
  induction bound with
  | nil => simp
  | cons entry bound ih =>
    rw [SortedMap.get?_ofList_cons, Option.isSome_or, Bool.or_eq_true, ih, List.map_cons,
      List.mem_cons]
    by_cases hname : entry.1 = name
    · simp [hname]
    · simp [hname, Ne.symm hname]

/-- A name is bound to the token of the last slot that has it. -/
theorem Filled.binds (h : Filled slots tokens bound) :
    Slot.Binds slots tokens (SortedMap.ofList bound) := by
  induction h with
  | nil => simp [Slot.Binds]
  | @argument name token slots tokens bound h ih =>
    intro other value
    have hnames := (isSome_get?_ofList other).trans (h.mem_names_iff other)
    rw [last_argument_cons, ← ih other value, SortedMap.get?_ofList_cons, ← hnames]
    cases (SortedMap.ofList bound).get? other with
    | some later => simp
    | none => by_cases hname : name = other <;> simp [hname]
  | literal h ih =>
    intro other value
    rw [last_argument_cons, ← ih other value]
    simp

end

mutual

theorem PatternToken.exists_filled_of_take :
    ∀ {token : PatternToken} {tokens rest : List String} {bound : List (String × String)},
      token.take tokens = .ok (bound, rest) →
      ∃ slots taken, token.Flattens slots ∧ Filled slots taken bound ∧ taken ++ rest = tokens
  | .argument name, token :: tokens, rest, bound, h => by
    cases h
    exact ⟨_, [token], .argument, .argument .nil, rfl⟩
  | .literal word, token :: tokens, rest, bound, h => by
    simp only [PatternToken.take] at h
    split at h
    · next heq =>
      cases h
      subst heq
      exact ⟨_, [token], .literal, .literal .nil, rfl⟩
    · cases h
  | .optional inner, tokens, rest, bound, h => by
    simp only [PatternToken.take] at h
    split at h
    · next taken htaken =>
      cases h
      obtain ⟨slots, taken, hslots, hfilled, happend⟩ := exists_filled_of_takeAll htaken
      exact ⟨slots, taken, .present hslots, hfilled, happend⟩
    · cases h
      exact ⟨[], [], .missing, .nil, rfl⟩

/-- What a pattern takes fills the slots of one choice of its groups. -/
theorem exists_filled_of_takeAll :
    ∀ {pattern : List PatternToken} {tokens rest : List String} {bound : List (String × String)},
      takeAll pattern tokens = .ok (bound, rest) →
      ∃ slots taken, Pattern.Flattens pattern slots ∧ Filled slots taken bound ∧
        taken ++ rest = tokens
  | [], tokens, rest, bound, h => by
    cases h
    exact ⟨[], [], .nil, .nil, rfl⟩
  | first :: pattern, tokens, rest, bound, h => by
    simp only [takeAll, bind_eq_ok, pure_eq_ok] at h
    obtain ⟨⟨bound, left⟩, hfirst, ⟨more, rest⟩, hrest, heq⟩ := h
    cases heq
    obtain ⟨slots, taken, hslots, hfilled, rfl⟩ := first.exists_filled_of_take hfirst
    obtain ⟨others, next, hothers, hnext, rfl⟩ := exists_filled_of_takeAll hrest
    exact ⟨slots ++ others, taken ++ next, .cons hslots hothers, hfilled.append hnext,
      List.append_assoc ..⟩

end

theorem takeAll_append (before after : List PatternToken) (tokens : List String) :
    takeAll (before ++ after) tokens = do
      let (bound, rest) ← takeAll before tokens
      let (others, rest) ← takeAll after rest
      return (bound ++ others, rest) := by
  induction before generalizing tokens with
  | nil =>
    simp only [List.nil_append, takeAll, bind, Except.bind, pure, Except.pure]
    cases takeAll after tokens <;> rfl
  | cons first before ih =>
    simp only [List.cons_append, takeAll]
    cases first.take tokens with
    | error fault => rfl
    | ok taken =>
      obtain ⟨bound, rest⟩ := taken
      simp only [ih, bind, Except.bind]
      cases takeAll before rest with
      | error fault => rfl
      | ok taken =>
        simp only [pure, Except.pure]
        cases takeAll after taken.2 with
        | error fault => rfl
        | ok others => simp

/-- A group that does not match where it is tried is as good as not there. -/
theorem takeAll_without_group {before inner after : List PatternToken} {tokens rest : List String}
    {bound : List (String × String)} {fault : Pattern.Mismatch}
    (hbefore : takeAll before tokens = .ok (bound, rest))
    (hinner : takeAll inner rest = .error fault) :
    takeAll (before ++ .optional inner :: after) tokens = takeAll (before ++ after) tokens := by
  have hgroup : PatternToken.take (.optional inner) rest = .ok ([], rest) := by
    simp only [PatternToken.take, hinner]
  rw [takeAll_append, takeAll_append, hbefore]
  simp only [bind, Except.bind, takeAll, hgroup]
  cases takeAll after rest <;> rfl

namespace Pattern
variable {pattern : Pattern} {tokens : List String} {bindings : Bindings}

theorem exists_filled_of_bindings (h : pattern.bindings tokens = .ok bindings) :
    ∃ slots bound, pattern.Flattens slots ∧ Filled slots tokens bound ∧
      bindings = SortedMap.ofList bound := by
  obtain ⟨⟨bound, rest⟩, htaken, hrest⟩ := bind_eq_ok.mp h
  obtain ⟨slots, taken, hslots, hfilled, happend⟩ := exists_filled_of_takeAll htaken
  cases rest with
  | cons extra rest => cases hrest
  | nil =>
    rw [List.append_nil] at happend
    subst happend
    exact ⟨slots, bound, hslots, hfilled, (pure_eq_ok.mp hrest).symm⟩

/-- Tokens that match a pattern are taken one by one by the slots of some choice of its groups, and
the bindings are those of the choice. No part of a pattern takes more tokens than there are, and a
group that does not match the tokens that are left to it is passed over: nothing that it took on the
way is bound. -/
theorem exists_choice_of_bindings (pattern : Pattern) (tokens : List String) :
    (∀ bindings, pattern.bindings tokens = .ok bindings →
      ∃ slots, pattern.Flattens slots ∧ List.Forall₂ Slot.Takes slots tokens ∧
        Slot.Binds slots tokens bindings) ∧
    (∀ bound rest, takeAll pattern tokens = .ok (bound, rest) → rest <:+ tokens) ∧
    ∀ before inner after bound rest fault, pattern = before ++ .optional inner :: after →
      takeAll before tokens = .ok (bound, rest) → takeAll inner rest = .error fault →
      takeAll pattern tokens = takeAll (before ++ after) tokens := by
  refine ⟨?_, ?_, ?_⟩
  · intro bindings h
    obtain ⟨slots, bound, hslots, hfilled, rfl⟩ := exists_filled_of_bindings h
    exact ⟨slots, hslots, hfilled.takes, hfilled.binds⟩
  · intro bound rest h
    obtain ⟨slots, taken, -, -, happend⟩ := exists_filled_of_takeAll h
    exact ⟨taken, happend⟩
  · rintro before inner after bound rest fault rfl hbefore hinner
    exact takeAll_without_group hbefore hinner

/-- A name that stands twice, and a group that may fail after it has taken a token. -/
def takesAgain : Pattern :=
  [.literal "take", .argument "a",
    .optional [.argument "b", .literal "with", .argument "c"], .optional [.argument "a"]]

/-- The first group takes the third token before it fails, which binds nothing; the token goes to
the second group, whose name is bound anew. -/
theorem exists_choice_of_bindings_takesAgain :
    takesAgain.bindings ["take", "x", "y"] = .ok (.ofList [("a", "y")]) ∧
      (∃ slots, takesAgain.Flattens slots ∧ List.Forall₂ Slot.Takes slots ["take", "x", "y"] ∧
        Slot.Binds slots ["take", "x", "y"] (.ofList [("a", "y")])) ∧
      takeAll takesAgain ["take", "x", "y"] =
        takeAll [.literal "take", .argument "a", .optional [.argument "a"]] ["take", "x", "y"] := by
  obtain ⟨hchoice, -, hgroup⟩ := exists_choice_of_bindings takesAgain ["take", "x", "y"]
  refine ⟨rfl, hchoice _ rfl, ?_⟩
  exact hgroup [.literal "take", .argument "a"] [.argument "b", .literal "with", .argument "c"]
    [.optional [.argument "a"]] [("a", "x")] ["y"] (.missingWord "with") rfl rfl rfl

end Pattern

end RowRecipe
