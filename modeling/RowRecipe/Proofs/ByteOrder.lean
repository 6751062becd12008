import Mathlib.Data.String.Basic
import RowRecipe.Text.Utf8

/-!
# The order of names

Names are in the order of the bytes of their UTF-8 forms, which is that of their code points: no
character begins with all bytes of another one, and the first byte tells how many there are.
-/
namespace RowRecipe

namespace Utf8

theorem toUInt8_lt_iff {m n : Nat} (hm : m < 256) (hn : n < 256) :
    m.toUInt8 < n.toUInt8 ↔ m < n := by
  rw [UInt8.lt_iff_toNat_lt, Nat.toUInt8_eq, Nat.toUInt8_eq, UInt8.toNat_ofNat', UInt8.toNat_ofNat']
  omega

theorem toUInt8_inj {m n : Nat} (hm : m < 256) (hn : n < 256) : m.toUInt8 = n.toUInt8 ↔ m = n := by
  rw [← UInt8.toNat_inj, Nat.toUInt8_eq, Nat.toUInt8_eq, UInt8.toNat_ofNat', UInt8.toNat_ofNat']
  omega

theorem toNat_lt (c : Char) : c.toNat < 0x110000 := by
  have h := c.valid
  rcases h with h | h
  · have : c.toNat < 0xd800 := h
    omega
  · exact h.2

/-- Two characters differ in a byte before the end of either, and there the lesser one is less. -/
theorem encodeChar_append_lt {c d : Char} (h : c.toNat < d.toNat) (a b : List UInt8) :
    encodeChar c ++ a < encodeChar d ++ b := by
  have hc := toNat_lt c
  have hd := toNat_lt d
  simp only [encodeChar]
  generalize c.toNat = m at *
  generalize d.toNat = n at *
  split_ifs <;>
    simp (disch := omega) only [List.cons_append, List.nil_append, List.cons_lt_cons_iff,
      toUInt8_lt_iff, toUInt8_inj] <;>
    omega

theorem encode_cons (c : Char) (cs : List Char) :
    encode (c :: cs) = encodeChar c ++ encode cs := rfl

theorem encodeChar_ne_nil (c : Char) : encodeChar c ≠ [] := by
  simp only [encodeChar]
  split_ifs <;> exact List.cons_ne_nil _ _

theorem encode_lt_encode {a b : List Char} (h : a < b) : encode a < encode b := by
  induction h with
  | @nil c cs =>
    obtain ⟨first, rest, hbytes⟩ := List.exists_cons_of_ne_nil (encodeChar_ne_nil c)
    rw [encode_cons, hbytes, List.cons_append]
    exact List.Lex.nil
  | cons h ih => exact List.append_left_lt ih
  | rel h => exact encodeChar_append_lt h _ _

/-- The order of code points is that of the bytes. -/
theorem encode_lt_encode_iff {a b : List Char} : encode a < encode b ↔ a < b := by
  refine ⟨?_, encode_lt_encode⟩
  intro h
  rcases lt_trichotomy a b with hlt | rfl | hgt
  · exact hlt
  · exact absurd h (List.lt_irrefl _)
  · exact absurd h (List.lt_asymm (encode_lt_encode hgt))

end Utf8

/-- The names of entries strictly increase in the order of their bytes. -/
def NamesIncrease {α : Type} (entries : List (String × α)) : Prop :=
  entries.Pairwise fun a b => Utf8.encode a.1.toList < Utf8.encode b.1.toList

instance {α : Type} : DecidablePred (NamesIncrease (α := α)) :=
  fun entries => inferInstanceAs (Decidable (entries.Pairwise fun a b =>
    Utf8.encode a.1.toList < Utf8.encode b.1.toList))

theorem namesIncrease_iff {α : Type} {entries : List (String × α)} :
    NamesIncrease entries ↔ entries.Pairwise (fun a b => a.1 < b.1) := by
  simp only [NamesIncrease, Utf8.encode_lt_encode_iff, String.lt_iff_toList_lt]

end RowRecipe
