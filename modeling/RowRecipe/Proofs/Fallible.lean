/-!
# Computations that may fail

A chain of computations gives a value only if each link does, and a failure of the chain is that of
its first link that fails. These laws take a computation apart by what came out of it.
-/
namespace RowRecipe

variable {ε ζ α β : Type}

theorem ok_bind (a : α) (f : α → Except ε β) : (.ok a >>= f) = f a := rfl

theorem bind_eq_ok {x : Except ε α} {f : α → Except ε β} {b : β} :
    x >>= f = .ok b ↔ ∃ a, x = .ok a ∧ f a = .ok b := by
  cases x with
  | error fault => simp [bind, Except.bind]
  | ok a => simp [bind, Except.bind]

theorem bind_eq_error {x : Except ε α} {f : α → Except ε β} {fault : ε} :
    x >>= f = .error fault ↔ x = .error fault ∨ ∃ a, x = .ok a ∧ f a = .error fault := by
  cases x with
  | error other => simp [bind, Except.bind]
  | ok a => simp [bind, Except.bind]

theorem pure_eq_ok {a b : α} : (pure a : Except ε α) = .ok b ↔ a = b := by
  simp [pure, Except.pure]

theorem map_eq_ok {x : Except ε α} {f : α → β} {b : β} :
    x.map f = .ok b ↔ ∃ a, x = .ok a ∧ f a = b := by
  cases x with
  | error fault => simp [Except.map]
  | ok a => simp [Except.map]

theorem map_eq_error {x : Except ε α} {f : α → β} {fault : ε} :
    x.map f = .error fault ↔ x = .error fault := by
  cases x with
  | error other => simp [Except.map]
  | ok a => simp [Except.map]

theorem exists_ok_iff {a : α} {property : α → Prop} :
    (∃ b, (.ok a : Except ε α) = .ok b ∧ property b) ↔ property a := by
  simp

theorem not_exists_error {fault : ε} {property : α → Prop} :
    ¬∃ b, (.error fault : Except ε α) = .ok b ∧ property b := by
  simp

/-- Changes what a computation gives, or what it fails with. -/
def mapBoth (f : α → β) (g : ε → ζ) : Except ε α → Except ζ β
  | .ok a => .ok (f a)
  | .error fault => .error (g fault)

@[simp] theorem mapBoth_ok (f : α → β) (g : ε → ζ) (a : α) : mapBoth f g (.ok a) = .ok (f a) := rfl

@[simp] theorem mapBoth_error (f : α → β) (g : ε → ζ) (fault : ε) :
    mapBoth f g (.error fault : Except ε α) = .error (g fault) := rfl

/-- What a computation gives, if it gives anything, has a property. -/
def Gives (x : Except ε α) (property : α → Prop) : Prop :=
  ∀ a, x = .ok a → property a

namespace Gives
variable {x : Except ε α} {property : β → Prop}

theorem pure {b : β} (h : property b) : Gives (Pure.pure b : Except ε β) property := by
  intro other hother
  obtain rfl := pure_eq_ok.mp hother
  exact h

theorem bind {f : α → Except ε β} (h : ∀ a, Gives (f a) property) :
    Gives (x >>= f) property := by
  intro b hb
  obtain ⟨a, -, ha⟩ := bind_eq_ok.mp hb
  exact h a b ha

theorem map {f : α → β} (h : Gives x fun a => property (f a)) : Gives (x.map f) property := by
  intro b hb
  obtain ⟨a, ha, rfl⟩ := map_eq_ok.mp hb
  exact h a ha

end Gives

end RowRecipe
