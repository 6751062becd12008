import RowRecipe.Directive.Catalog
import RowRecipe.Proofs.Execution
import RowRecipe.Proofs.FloatOrder

/-!
# Samples of one seed

A sample decides on each row with a number of its generator, which is seeded again for each batch. A
decision that is certain takes no number, and every other takes one, whatever it comes to, so two
samples of one seed have the same number for a position unless they keep all. The numbers are
compared with a threshold, and a larger percentage does not have a smaller one: dividing by a
hundred, rounding and truncating keep the order of floats. So a sample with a larger percentage
keeps the positions that one with a smaller percentage keeps.

Main statement: `Sampling.keepsAt_and_mono`.
-/
namespace RowRecipe

/-! ### Thresholds -/

namespace Binary64
variable {x y : Float} {parts others : Parts}

theorem exists_hundredth (h : parts? x = some parts) :
    ∃ num den : Nat, 0 < den ∧ (num : ℚ) / den = parts.size / 100 ∧
      hundredth x = nearest false num den := by
  simp only [hundredth, h, Nat.pow_eq, Parts.size]
  split_ifs with hsign
  · refine ⟨_, _, by decide, ?_, rfl⟩
    rw [zpow_of_nonneg 2 hsign]
    push_cast
    rfl
  · refine ⟨_, _, by positivity, ?_, rfl⟩
    rw [zpow_of_neg 2 hsign]
    push_cast
    rw [← div_eq_mul_inv, div_div, mul_comm]

/-- Hundredths are in the order of the floats, and finite where a larger one is. -/
theorem exists_hundredth_le {hundredths : Parts} (hx : parts? x = some parts)
    (hy : parts? y = some others) (hsign : parts.Nonneg) (hsign' : others.Nonneg) (hle : x ≤ y)
    (hfinite : parts? (hundredth y) = some hundredths) :
    ∃ smaller, parts? (hundredth x) = some smaller ∧ smaller.bits ≤ hundredths.bits := by
  have hbits := (le_iff_bits_le hx hy hsign hsign').mp hle
  have hsize := (fits_of_parts? hx).size_le (fits_of_parts? hy) hbits
  obtain ⟨num, den, hden, hratio, hhundredth⟩ := exists_hundredth hx
  obtain ⟨num', den', hden', hratio', hhundredth'⟩ := exists_hundredth hy
  rw [hhundredth'] at hfinite
  obtain ⟨-, hnearest⟩ := of_parts?_nearest hfinite
  have hround : nearestBits num den ≤ hundredths.bits := by
    rw [hnearest]
    refine nearestBits_mono hden hden' ?_
    rw [hratio, hratio']
    gcongr
  obtain ⟨smaller, hsmaller, -, heq⟩ :=
    exists_parts?_nearest (hround.trans_lt (fits_of_parts? hfinite).bits_lt) false
  rw [hhundredth]
  exact ⟨smaller, hsmaller, heq.trans_le hround⟩

end Binary64

namespace Sampling
variable {p q : Float} {sampling : Sampling} {bound position : Nat}

theorem threshold?_eq_some_iff :
    threshold? p = some bound ↔ ∃ parts, Binary64.parts? (Binary64.hundredth p) = some parts ∧
      parts.scaledFloor 64 = bound ∧ bound < 2 ^ 64 := by
  unfold threshold?
  cases Binary64.parts? (Binary64.hundredth p) with
  | none => simp
  | some parts =>
    simp only [Nat.pow_eq, Option.ite_none_right_eq_some, Option.some.injEq, exists_eq_left']
    constructor
    · rintro ⟨hlt, rfl⟩
      exact ⟨rfl, hlt⟩
    · rintro ⟨rfl, hlt⟩
      exact ⟨hlt, rfl⟩

/-- A position is kept if its draw is below the threshold, and where there is none. -/
theorem keeps_iff : sampling.keeps position = true ↔
    ∀ bound ∈ threshold? sampling.percentage, draw (key sampling.seed) position < bound := by
  unfold keeps
  cases threshold? sampling.percentage <;> simp

theorem exists_parts?_of_isPercentage (h : isPercentage p = true) :
    ∃ parts, Binary64.parts? p = some parts ∧ parts.Nonneg := by
  unfold isPercentage at h
  split at h
  · cases h
  next parts hparts =>
  refine ⟨parts, hparts, ?_⟩
  simp only [Bool.or_eq_true, Bool.and_eq_true, beq_iff_eq, Bool.not_eq_true'] at h
  obtain hzero | ⟨hnegative, -⟩ := h
  · exact .inr hzero
  · exact .inl hnegative

/-- A smaller percentage has a threshold where a larger one has, and not a larger one. -/
theorem exists_threshold?_le (hp : isPercentage p = true) (hq : isPercentage q = true)
    (hle : p ≤ q) (hbound : threshold? q = some bound) :
    ∃ least, threshold? p = some least ∧ least ≤ bound := by
  obtain ⟨parts, hparts, hsign⟩ := exists_parts?_of_isPercentage hp
  obtain ⟨others, hothers, hsign'⟩ := exists_parts?_of_isPercentage hq
  obtain ⟨hundredths, hfinite, rfl, hlt⟩ := threshold?_eq_some_iff.mp hbound
  obtain ⟨smaller, hsmaller, hbits⟩ :=
    Binary64.exists_hundredth_le hparts hothers hsign hsign' hle hfinite
  have hfloor := (Binary64.fits_of_parts? hsmaller).scaledFloor_le
    (Binary64.fits_of_parts? hfinite) hbits 64
  exact ⟨_, threshold?_eq_some_iff.mpr ⟨smaller, hsmaller, rfl, hfloor.trans_lt hlt⟩, hfloor⟩

theorem keeps_mono {seed : Nat} (hp : isPercentage p = true) (hq : isPercentage q = true)
    (hle : p ≤ q) (h : Sampling.keeps ⟨p, seed⟩ position = true) :
    Sampling.keeps ⟨q, seed⟩ position = true := by
  rw [keeps_iff] at h ⊢
  intro bound hbound
  obtain ⟨least, hleast, hless⟩ := exists_threshold?_le hp hq hle hbound
  exact (h least hleast).trans_le hless

theorem keeps_of_hundred_le (h : isPercentage sampling.percentage = true)
    (hle : Binary64.ofInt 100 ≤ sampling.percentage) (position : Nat) :
    sampling.keeps position = true := by
  have hall : threshold? (Binary64.ofInt 100) = none := by decide +kernel
  have hhundred : isPercentage (Binary64.ofInt 100) = true := by decide +kernel
  have hkeeps : Sampling.keeps ⟨Binary64.ofInt 100, sampling.seed⟩ position = true := by
    rw [keeps_iff, hall]
    simp
  exact keeps_mono hhundred h hle hkeeps

theorem keeps_of_le_zero (h : isPercentage sampling.percentage = true)
    (hle : sampling.percentage ≤ Binary64.ofInt 0) (position : Nat) :
    sampling.keeps position = false := by
  have hnone : threshold? (Binary64.ofInt 0) = some 0 := by decide +kernel
  have hzero : isPercentage (Binary64.ofInt 0) = true := by decide +kernel
  rw [← Bool.not_eq_true]
  intro hkeeps
  have hlarger : Sampling.keeps ⟨Binary64.ofInt 0, sampling.seed⟩ position = true :=
    keeps_mono h hzero hle hkeeps
  exact absurd (keeps_iff.mp hlarger 0 hnone) (Nat.not_lt_zero _)

end Sampling

/-! ### Positions -/

/-- The items at some positions, where the first item has a position to start from. -/
def itemsAt {α : Type} (kept : Nat → Bool) (start : Nat) (items : List α) : List α :=
  ((items.zipIdx start).filter fun item => kept item.2).map Prod.fst

section
variable {α : Type} {kept : Nat → Bool}

theorem itemsAt_cons (kept : Nat → Bool) (start : Nat) (item : α) (items : List α) :
    itemsAt kept start (item :: items) =
      if kept start then item :: itemsAt kept (start + 1) items
      else itemsAt kept (start + 1) items := by
  rw [itemsAt, List.zipIdx_cons, List.filter_cons]
  split <;> rfl

theorem itemsAt_append (kept : Nat → Bool) (start : Nat) (items more : List α) :
    itemsAt kept start (items ++ more) =
      itemsAt kept start items ++ itemsAt kept (start + items.length) more := by
  rw [itemsAt, List.zipIdx_append, List.filter_append, List.map_append]
  rfl

theorem itemsAt_sublist (kept : Nat → Bool) (start : Nat) (items : List α) :
    (itemsAt kept start items).Sublist items := by
  have hmap : (itemsAt kept start items).Sublist ((items.zipIdx start).map Prod.fst) :=
    List.filter_sublist.map Prod.fst
  rwa [List.zipIdx_map_fst] at hmap

theorem itemsAt_eq_self (h : ∀ position, kept position = true) (start : Nat) (items : List α) :
    itemsAt kept start items = items := by
  simp [itemsAt, h]

theorem itemsAt_eq_nil (h : ∀ position, kept position = false) (start : Nat) (items : List α) :
    itemsAt kept start items = [] := by
  simp [itemsAt, h]

end

namespace Sampling
variable {α : Type}

theorem selectFrom_eq_itemsAt (sampling : Sampling) (position : Nat) (items : List α) :
    sampling.selectFrom position items = itemsAt sampling.keeps position items := by
  induction items generalizing position with
  | nil => rfl
  | cons item items ih => rw [selectFrom, itemsAt_cons, ih]

end Sampling

/-! ### The generator -/

/-- A generator of numbers: its key, and how many numbers it has given. -/
structure Generator where
  key : List UInt32
  given : Nat

namespace Generator

def ofSeed (seed : Nat) : Generator :=
  ⟨Sampling.key seed, 0⟩

def next (generator : Generator) : Nat × Generator :=
  (Sampling.draw generator.key generator.given, { generator with given := generator.given + 1 })

/-- Decides with a number, which is not taken if there is no threshold to compare it with. -/
def decide (threshold? : Option Nat) (generator : Generator) : Bool × Generator :=
  match threshold? with
  | none => (true, generator)
  | some threshold =>
    let (number, generator) := generator.next
    (number < threshold, generator)

/-- Decides on items one after another. -/
def keepEach {α : Type} (threshold? : Option Nat) : Generator → List α → List α
  | _, [] => []
  | generator, item :: items =>
    let decision := generator.decide threshold?
    if decision.1 then item :: keepEach threshold? decision.2 items
    else keepEach threshold? decision.2 items

/-- A generator that has given a number for each position in front of one, if it has to. -/
def IsAt (generator : Generator) (sampling : Sampling) (position : Nat) : Prop :=
  generator.key = Sampling.key sampling.seed ∧
    ∀ bound ∈ Sampling.threshold? sampling.percentage, generator.given = position

variable {α : Type} {sampling : Sampling} {generator : Generator} {position : Nat}

theorem isAt_ofSeed (sampling : Sampling) : (ofSeed sampling.seed).IsAt sampling 0 :=
  ⟨rfl, fun _ _ => rfl⟩

/-- What is decided is whether the position is kept, and the generator comes to the next one. -/
theorem decide_of_isAt (h : generator.IsAt sampling position) :
    (generator.decide (Sampling.threshold? sampling.percentage)).1 = sampling.keeps position ∧
      (generator.decide (Sampling.threshold? sampling.percentage)).2.IsAt sampling
        (position + 1) := by
  obtain ⟨hkey, hgiven⟩ := h
  unfold IsAt Sampling.keeps
  cases hthreshold : Sampling.threshold? sampling.percentage with
  | none => exact ⟨rfl, hkey, by simp⟩
  | some threshold =>
    obtain rfl := hgiven threshold hthreshold
    simp [decide, next, hkey]

theorem keepEach_eq_itemsAt (h : generator.IsAt sampling position) (items : List α) :
    generator.keepEach (Sampling.threshold? sampling.percentage) items =
      itemsAt sampling.keeps position items := by
  induction items generalizing generator position with
  | nil => rfl
  | cons item items ih =>
    obtain ⟨hkept, hnext⟩ := decide_of_isAt h
    simp only [keepEach, itemsAt_cons, hkept, ih hnext]

end Generator

/-! ### Batches -/

/-- A directive keeps the rows at some positions as they are and in their order, whatever the rows
are and whatever rows are behind them. -/
structure Directive.KeepsAt (directive : Directive) (kept : Nat → Bool) : Prop where
  execute : ∀ rows store,
    directive.execute rows store = (.ok ((itemsAt kept 0 rows).map .keep), store)
  execute_append : ∀ rows more store, directive.execute (rows ++ more) store =
    (.ok ((itemsAt kept 0 rows ++ itemsAt kept rows.length more).map .keep), store)
  sublist : ∀ rows : List Row, (itemsAt kept 0 rows).Sublist rows

namespace Sampling
variable {sampling small large : Sampling}

/-- The sample of some arguments that are accepted. -/
def Accepted (sampling : Sampling) : Prop :=
  ∃ arguments, Catalog.sample.configure arguments = .ok (.builtin (.sample sampling))

theorem isPercentage_of_accepted (h : sampling.Accepted) :
    isPercentage sampling.percentage = true := by
  obtain ⟨arguments, hmade⟩ := h
  obtain ⟨percentage, hpercentage, hmade⟩ := bind_eq_ok.mp hmade
  obtain ⟨seed, -, hmade⟩ := bind_eq_ok.mp hmade
  cases hmade
  obtain ⟨value, -, hchecked⟩ := bind_eq_ok.mp hpercentage
  split at hchecked
  · next hvalue =>
    cases hchecked
    exact hvalue
  · cases hchecked

theorem execute_eq_itemsAt (sampling : Sampling) (rows : List Row) (store : Store) :
    (Directive.builtin (.sample sampling)).execute rows store =
      (.ok ((itemsAt sampling.keeps 0 rows).map .keep), store) := by
  rw [← selectFrom_eq_itemsAt]
  rfl

theorem keepsAt (sampling : Sampling) :
    (Directive.builtin (.sample sampling)).KeepsAt sampling.keeps where
  execute := execute_eq_itemsAt sampling
  execute_append := by
    intro rows more store
    rw [execute_eq_itemsAt, itemsAt_append, Nat.zero_add]
  sublist := itemsAt_sublist _ 0

/-- Samples that are accepted keep the rows at the positions that a generator decides for, all with
a hundred per cent and none with zero, and of one seed the sample with the larger percentage keeps
all positions that the other one keeps. -/
theorem keepsAt_and_mono (hsmall : small.Accepted) (hlarge : large.Accepted)
    (hseed : small.seed = large.seed) (hle : small.percentage ≤ large.percentage) :
    (∀ sampling ∈ [small, large],
      (Directive.builtin (.sample sampling)).KeepsAt sampling.keeps ∧
      (∀ rows : List Row, (Generator.ofSeed sampling.seed).keepEach
        (threshold? sampling.percentage) rows = itemsAt sampling.keeps 0 rows) ∧
      (Binary64.ofInt 100 ≤ sampling.percentage → ∀ rows store,
        (Directive.builtin (.sample sampling)).execute rows store =
          (.ok (rows.map .keep), store)) ∧
      (sampling.percentage ≤ Binary64.ofInt 0 → ∀ rows store,
        (Directive.builtin (.sample sampling)).execute rows store = (.ok [], store))) ∧
    ∀ position, small.keeps position = true → large.keeps position = true := by
  have haccepted : ∀ sampling ∈ [small, large], sampling.Accepted := by
    simp [hsmall, hlarge]
  refine ⟨?_, ?_⟩
  · intro sampling hsampling
    have hpercentage := isPercentage_of_accepted (haccepted sampling hsampling)
    refine ⟨keepsAt sampling, ?_, ?_, ?_⟩
    · exact Generator.keepEach_eq_itemsAt (Generator.isAt_ofSeed sampling)
    · intro hhundred rows store
      rw [execute_eq_itemsAt, itemsAt_eq_self (keeps_of_hundred_le hpercentage hhundred)]
    · intro hzero rows store
      rw [execute_eq_itemsAt, itemsAt_eq_nil (keeps_of_le_zero hpercentage hzero), List.map_nil]
  · intro position hkeeps
    have hlarger := keeps_mono (isPercentage_of_accepted hsmall) (isPercentage_of_accepted hlarge)
      hle hkeeps
    rwa [hseed] at hlarger

/-- Of four items the last one is kept with thirty per cent, and the last two with sixty. -/
theorem keepsAt_and_mono_thirty :
    Accepted ⟨Binary64.ofInt 30, 1⟩ ∧ Accepted ⟨Binary64.ofInt 60, 1⟩ ∧
      Binary64.ofInt 30 ≤ Binary64.ofInt 60 ∧
      itemsAt (Sampling.keeps ⟨Binary64.ofInt 30, 1⟩) 0 (List.range 4) = [3] ∧
      itemsAt (Sampling.keeps ⟨Binary64.ofInt 60, 1⟩) 0 (List.range 4) = [2, 3] ∧
      ∀ position, Sampling.keeps ⟨Binary64.ofInt 30, 1⟩ position = true →
        Sampling.keeps ⟨Binary64.ofInt 60, 1⟩ position = true := by
  have hthirty : Accepted ⟨Binary64.ofInt 30, 1⟩ :=
    ⟨⟨.ofList [("percentage", .whole 30), ("seed", .whole 1)], "sample 30 1"⟩, by rfl⟩
  have hsixty : Accepted ⟨Binary64.ofInt 60, 1⟩ :=
    ⟨⟨.ofList [("percentage", .whole 60), ("seed", .whole 1)], "sample 60 1"⟩, by rfl⟩
  have hle : Binary64.ofInt 30 ≤ Binary64.ofInt 60 := by decide +kernel
  exact ⟨hthirty, hsixty, hle, by decide +kernel, by decide +kernel,
    (keepsAt_and_mono hthirty hsixty rfl hle).2⟩

end Sampling

end RowRecipe
