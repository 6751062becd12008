import Mathlib.Tactic.SplitIfs
import RowRecipe.Proofs.ByteOrder

/-!
# The bytes of characters

The first byte of a character tells how many there are, and the second one keeps out what would be
a longer form than needed, a surrogate or no code point at all. Reading what was written gives it
back, and a byte below 0x80 is always a character by itself.
-/
namespace RowRecipe.Utf8

theorem toNat_toUInt8 {n : Nat} (h : n < 256) : n.toUInt8.toNat = n := by
  rw [Nat.toUInt8_eq, UInt8.toNat_ofNat', Nat.mod_eq_of_lt h]

variable {first second third fourth : UInt8} {rest : List UInt8}

theorem isContinuation_iff {b : UInt8} :
    isContinuation b = true ↔ 0x80 ≤ b.toNat ∧ b.toNat < 0xC0 := by
  simp [isContinuation, UInt8.le_iff_toNat_le, Nat.lt_succ_iff]

theorem isSecond_iff :
    isSecond first second = true ↔
      (0x80 ≤ second.toNat ∧ second.toNat < 0xC0) ∧
      (first.toNat = 0xE0 → 0xA0 ≤ second.toNat) ∧ (first.toNat = 0xED → second.toNat < 0xA0) ∧
      (first.toNat = 0xF0 → 0x90 ≤ second.toNat) ∧ (first.toNat = 0xF4 → second.toNat < 0x90) := by
  simp only [isSecond, isContinuation, beq_iff_eq, ← UInt8.toNat_inj, UInt8.le_iff_toNat_le,
    UInt8.reduceToNat]
  split_ifs <;> simp only [Bool.and_eq_true, decide_eq_true_eq] <;> omega

theorem head_one (hfirst : first.toNat < 0x80) :
    head first rest = .char (Char.ofNat first.toNat) 1 := by
  rw [head.eq_def, if_pos (UInt8.lt_iff_toNat_lt.mpr hfirst)]

theorem head_two (hfirst : 0xC2 ≤ first.toNat ∧ first.toNat < 0xE0)
    (hsecond : isSecond first second = true) :
    head first (second :: rest) =
      .char (Char.ofNat (first.toNat % 32 * 64 + payload second)) 2 := by
  simp only [head, UInt8.lt_iff_toNat_lt, UInt8.reduceToNat, Bool.or_eq_true, decide_eq_true_eq,
    hsecond]
  rw [if_neg (by omega), if_neg (by omega), if_neg (by simp), if_pos hfirst.2]

theorem head_three (hfirst : 0xE0 ≤ first.toNat ∧ first.toNat < 0xF0)
    (hsecond : isSecond first second = true) (hthird : isContinuation third = true) :
    head first (second :: third :: rest) =
      .char (Char.ofNat ((first.toNat % 16 * 64 + payload second) * 64 + payload third)) 3 := by
  simp only [head, UInt8.lt_iff_toNat_lt, UInt8.reduceToNat, Bool.or_eq_true, decide_eq_true_eq,
    hsecond, hthird]
  rw [if_neg (by omega), if_neg (by omega), if_neg (by simp), if_neg (by omega), if_neg (by simp),
    if_pos hfirst.2]

theorem head_four (hfirst : 0xF0 ≤ first.toNat ∧ first.toNat < 0xF5)
    (hsecond : isSecond first second = true) (hthird : isContinuation third = true)
    (hfourth : isContinuation fourth = true) :
    head first (second :: third :: fourth :: rest) =
      .char (Char.ofNat (((first.toNat % 8 * 64 + payload second) * 64 + payload third) * 64
        + payload fourth)) 4 := by
  simp only [head, UInt8.lt_iff_toNat_lt, UInt8.reduceToNat, Bool.or_eq_true, decide_eq_true_eq,
    hsecond, hthird, hfourth]
  rw [if_neg (by omega), if_neg (by omega), if_neg (by simp), if_neg (by omega), if_neg (by simp),
    if_neg (by omega), if_neg (by simp)]

theorem toNat_lt_or_le (c : Char) : c.toNat < 0xD800 ∨ 0xE000 ≤ c.toNat := by
  rcases c.valid with h | h
  · exact .inl h
  · exact .inr (Nat.succ_le_of_lt h.1)

/-- What a character's bytes begin with is the character, whatever stands behind them. -/
theorem exists_head_encodeChar (c : Char) (rest : List UInt8) :
    ∃ first others, encodeChar c = first :: others ∧
      head first (others ++ rest) = .char c (others.length + 1) := by
  have hc := toNat_lt c
  have hsurrogate := toNat_lt_or_le c
  have hback : Char.ofNat c.toNat = c := Char.ofNat_toNat c
  simp only [encodeChar]
  generalize c.toNat = n at *
  split_ifs with h1 h2 h3 <;> refine ⟨_, _, rfl, ?_⟩
  · have hfirst := toNat_toUInt8 (n := n) (by omega)
    rw [head_one (by omega), hfirst, hback]
    rfl
  · have hfirst := toNat_toUInt8 (n := 0xC0 + n / 64) (by omega)
    have hsecond := toNat_toUInt8 (n := 0x80 + n % 64) (by omega)
    have hn : (0xC0 + n / 64) % 32 * 64 + (0x80 + n % 64) % 64 = n := by omega
    rw [List.cons_append, head_two (by omega) (isSecond_iff.mpr (by omega)), payload, hfirst,
      hsecond, hn, hback]
    rfl
  · have hfirst := toNat_toUInt8 (n := 0xE0 + n / 4096) (by omega)
    have hsecond := toNat_toUInt8 (n := 0x80 + n / 64 % 64) (by omega)
    have hthird := toNat_toUInt8 (n := 0x80 + n % 64) (by omega)
    have hn : ((0xE0 + n / 4096) % 16 * 64 + (0x80 + n / 64 % 64) % 64) * 64
        + (0x80 + n % 64) % 64 = n := by omega
    rw [List.cons_append, List.cons_append, head_three (by omega) (isSecond_iff.mpr (by omega))
      (isContinuation_iff.mpr (by omega)), payload, payload, hfirst, hsecond, hthird, hn, hback]
    rfl
  · have hfirst := toNat_toUInt8 (n := 0xF0 + n / 262144) (by omega)
    have hsecond := toNat_toUInt8 (n := 0x80 + n / 4096 % 64) (by omega)
    have hthird := toNat_toUInt8 (n := 0x80 + n / 64 % 64) (by omega)
    have hfourth := toNat_toUInt8 (n := 0x80 + n % 64) (by omega)
    have hn : (((0xF0 + n / 262144) % 8 * 64 + (0x80 + n / 4096 % 64) % 64) * 64
        + (0x80 + n / 64 % 64) % 64) * 64 + (0x80 + n % 64) % 64 = n := by omega
    rw [List.cons_append, List.cons_append, List.cons_append,
      head_four (by omega) (isSecond_iff.mpr (by omega)) (isContinuation_iff.mpr (by omega))
        (isContinuation_iff.mpr (by omega)),
      payload, payload, payload, hfirst, hsecond, hthird, hfourth, hn, hback]
    rfl

theorem strictFrom_append (skipped rest : List UInt8) (offset : Nat) :
    strictFrom skipped.length offset (skipped ++ rest) =
      strictFrom 0 (offset + skipped.length) rest := by
  induction skipped generalizing offset with
  | nil => rfl
  | cons b skipped ih =>
    rw [List.length_cons, List.cons_append, strictFrom, ih, Nat.add_assoc,
      Nat.add_comm 1 skipped.length]

theorem strictFrom_encode (cs : List Char) (offset : Nat) :
    strictFrom 0 offset (encode cs) = .ok cs := by
  induction cs generalizing offset with
  | nil => rfl
  | cons c cs ih =>
    obtain ⟨first, others, hbytes, hhead⟩ := exists_head_encodeChar c (encode cs)
    rw [encode_cons, hbytes, List.cons_append, strictFrom, hhead]
    simp only [Nat.add_sub_cancel, strictFrom_append, ih]
    rfl

/-- The bytes of characters are read as these characters. -/
theorem decode_encode (cs : List Char) : decode (encode cs) = .ok cs :=
  strictFrom_encode cs 0

theorem encode_append (a b : List Char) : encode (a ++ b) = encode a ++ encode b :=
  List.flatMap_append

/-- A byte below 0x80 is a character by itself. -/
theorem toNat_eq_of_mem_encodeChar {c : Char} {b : UInt8} (hb : b ∈ encodeChar c)
    (hsmall : b.toNat < 0x80) : c.toNat = b.toNat := by
  have hc := toNat_lt c
  simp only [encodeChar] at hb
  split_ifs at hb with h1 h2 h3
  · obtain rfl := List.mem_singleton.mp hb
    exact (toNat_toUInt8 (by omega)).symm
  all_goals
    simp only [List.mem_cons, List.not_mem_nil, or_false, ← UInt8.toNat_inj] at hb
    simp (disch := omega) only [toNat_toUInt8] at hb
    omega

variable {cs : List Char} {b : UInt8}

theorem exists_of_mem_head?_encode (h : b ∈ (encode cs).head?) :
    ∃ c ∈ cs.head?, b ∈ encodeChar c := by
  cases cs with
  | nil => cases h
  | cons c cs =>
    rw [encode_cons, List.head?_append_of_ne_nil _ (encodeChar_ne_nil c)] at h
    exact ⟨c, rfl, List.mem_of_mem_head? h⟩

theorem exists_of_mem_getLast?_encode (h : b ∈ (encode cs).getLast?) :
    ∃ c ∈ cs.getLast?, b ∈ encodeChar c := by
  rcases List.eq_nil_or_concat' cs with rfl | ⟨front, c, rfl⟩
  · cases h
  · have hlast : encode [c] = encodeChar c := List.append_nil _
    rw [encode_append, hlast, List.getLast?_append_of_ne_nil _ (encodeChar_ne_nil c)] at h
    exact ⟨c, List.getLast?_concat, List.mem_of_getLast? h⟩

/-! ### Longer characters -/

/-- The number of bytes of a character that begins with a byte from 0x80 on. -/
def lengthOf (first : UInt8) : Nat :=
  if first.toNat < 0xE0 then 2 else if first.toNat < 0xF0 then 3 else 4

/-- What begins like a longer character but has too few bytes is none. -/
theorem exists_broken_of_short {first : UInt8} {rest : List UInt8} (hfirst : 0x80 ≤ first.toNat)
    (hshort : rest.length + 1 < lengthOf first) : ∃ n, head first rest = .broken n := by
  have hone : ¬first < 0x80 := by
    rw [UInt8.lt_iff_toNat_lt]
    exact Nat.not_lt.mpr hfirst
  have htwo : first < 0xE0 ↔ first.toNat < 0xE0 := UInt8.lt_iff_toNat_lt
  have hthree : first < 0xF0 ↔ first.toNat < 0xF0 := UInt8.lt_iff_toNat_lt
  rw [lengthOf] at hshort
  rw [head.eq_def, if_neg hone]
  split
  · exact ⟨_, rfl⟩
  match rest with
  | [] => exact ⟨_, rfl⟩
  | [second] =>
    have hlong : ¬first < 0xE0 := by
      rw [htwo]
      split_ifs at hshort <;> simp_all
    simp only [if_neg hlong]
    split <;> exact ⟨_, rfl⟩
  | [second, third] =>
    have hlong : ¬first < 0xE0 ∧ ¬first < 0xF0 := by
      rw [htwo, hthree]
      split_ifs at hshort <;> simp_all
    simp only [if_neg hlong.1, if_neg hlong.2]
    split
    · exact ⟨_, rfl⟩
    · split <;> exact ⟨_, rfl⟩
  | second :: third :: fourth :: rest =>
    simp only [List.length_cons] at hshort
    split_ifs at hshort <;> omega

theorem two_le_lengthOf (first : UInt8) : 2 ≤ lengthOf first := by
  unfold lengthOf
  split_ifs <;> omega

/-- A byte that only comes after another one begins no character. -/
theorem decode_of_continuation {first : UInt8} (h : 0x80 ≤ first.toNat ∧ first.toNat < 0xC0)
    (rest : List UInt8) : decode (first :: rest) = .error 0 := by
  have hlow : ¬first < 0x80 := by
    rw [UInt8.lt_iff_toNat_lt]
    exact Nat.not_lt.mpr h.1
  have hhigh : first < 0xC2 := by
    rw [UInt8.lt_iff_toNat_lt]
    exact h.2.trans (by decide)
  have hhead : head first rest = .broken 1 := by
    rw [head.eq_def, if_neg hlow, if_pos (by simp [hhigh])]
  rw [decode, strictFrom, hhead]

theorem exists_bytes_of_long {c : Char} (hc : 0x80 ≤ c.toNat) :
    ∃ first others, encodeChar c = first :: others ∧
      (0xC2 ≤ first.toNat ∧ first.toNat < 0xF5) ∧ others.length + 1 = lengthOf first ∧
      ∀ b ∈ others, 0x80 ≤ b.toNat ∧ b.toNat < 0xC0 := by
  have hlarge := toNat_lt c
  simp only [encodeChar, lengthOf]
  generalize c.toNat = n at *
  rw [if_neg (by omega)]
  split_ifs with htwo hthree <;> refine ⟨_, _, rfl, ?_⟩ <;>
    simp (disch := omega) only [toNat_toUInt8, List.forall_mem_cons, List.length_cons,
      List.length_nil, List.forall_mem_nil] <;>
    grind

end RowRecipe.Utf8
