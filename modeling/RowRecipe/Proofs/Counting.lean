import RowRecipe.Proofs.ErrorLog

/-!
# Counting in variables

A variable that is unset, null or a whole number counts. An increment of it succeeds if and only if
the sum is a whole number, and is refused as a whole otherwise, so after any number of increments
the variable holds what it started from and what was not refused. A directive that increments a
variable stops at a refusal, but adds the same number each time: if the total is a whole number, so
are the sums on the way to it.

Main statements: `Store.incrementAll_exact` and `Builtin.execute_incrementVariable_total`.
-/
namespace RowRecipe

/-- Neither null nor a number. -/
def Cell.IsUncountable : Cell → Prop
  | .null | .whole _ | .float _ => False
  | _ => True

namespace Store

/-- What a variable counts from, which is zero if it is unset or null. -/
def count? (store : Store) (name : String) : Option Int :=
  match store.get? name with
  | none | some .null => some 0
  | some (.whole value) => some value.toInt
  | some _ => none

/-- Increments a variable in place: the new value or a failure, and the variables afterwards. There
is a place for the new value first, with null in it, where the variable is unset. -/
def incrementInPlace (name : String) (delta : Int64) (store : Store) :
    Except StoreError Cell × Store :=
  match incremented name delta (store.get? name) with
  | .error fault => (.error fault, store)
  | .ok next =>
    let opened := if store.contains name then store else store.insert name .null
    (.ok next, opened.insert name next)

/-- Increments a variable by one number after the other, whether or not that succeeds. -/
def incrementAll (name : String) : List Int64 → Store → List (Except StoreError Cell) × Store
  | [], store => ([], store)
  | delta :: deltas, store =>
    let made := incrementInPlace name delta store
    let others := incrementAll name deltas made.2
    (made.1 :: others.1, others.2)

/-- The sum of the numbers whose increments succeeded. -/
def acceptedSum : List Int64 → List (Except StoreError Cell) → Int
  | delta :: deltas, .ok _ :: results => delta.toInt + acceptedSum deltas results
  | _ :: deltas, .error _ :: results => acceptedSum deltas results
  | _, _ => 0

variable {store : Store} {name other : String} {delta : Int64} {deltas : List Int64}
variable {start current : Int} {value : Cell}

@[simp] theorem count?_insert_whole (store : Store) (name : String) (value : Int64) :
    count? (store.insert name (.whole value)) name = some value.toInt := by
  simp [count?]

theorem range_of_count? (h : store.count? name = some current) :
    minWhole ≤ current ∧ current ≤ maxWhole := by
  unfold count? at h
  split at h
  · cases h
    decide
  · cases h
    decide
  · next value _ =>
    cases h
    exact ⟨value.minValue_le_toInt, value.toInt_le⟩
  · cases h

theorem incremented_of_count? (h : store.count? name = some current) (delta : Int64) :
    incremented name delta (store.get? name) =
      match whole? (current + delta.toInt) with
      | some sum => .ok (.whole sum)
      | none => .error (.overflow name delta) := by
  unfold count? at h
  split at h
  · next hunset =>
    cases h
    rw [hunset, Int.zero_add, whole?_toInt]
    rfl
  · next hnull =>
    cases h
    rw [hnull, Int.zero_add, whole?_toInt]
    rfl
  · next value hvalue =>
    cases h
    rw [hvalue]
    rfl
  · cases h

theorem incremented_of_isUncountable (h : value.IsUncountable) (name : String) (delta : Int64) :
    incremented name delta (some value) = .error (.notNumeric name value.typeName) := by
  cases value with
  | null => exact h.elim
  | whole _ => exact h.elim
  | float _ => exact h.elim
  | boolean _ => rfl
  | text _ => rfl
  | date _ => rfl
  | bytes _ => rfl
  | list _ => rfl
  | row _ => rfl

theorem increment_of_count? (h : store.count? name = some current) (delta : Int64) :
    store.increment name delta =
      match whole? (current + delta.toInt) with
      | some sum => .ok (store.insert name (.whole sum))
      | none => .error (.overflow name delta) := by
  rw [increment, incremented_of_count? h]
  cases whole? (current + delta.toInt) <;> rfl

/-- The place that is made for a variable leaves no trace. -/
theorem incrementInPlace_eq (name : String) (delta : Int64) (store : Store) :
    incrementInPlace name delta store =
      match incremented name delta (store.get? name) with
      | .error fault => (.error fault, store)
      | .ok next => (.ok next, store.insert name next) := by
  unfold incrementInPlace
  cases incremented name delta (store.get? name) with
  | error fault => rfl
  | ok next =>
    simp only
    split
    · rfl
    · rw [SortedMap.insert_insert]

/-- In place or not, an increment is the same. -/
theorem increment_eq_map (store : Store) (name : String) (delta : Int64) :
    store.increment name delta =
      (incrementInPlace name delta store).1.map (store.insert name) := by
  rw [increment, incrementInPlace_eq]
  cases incremented name delta (store.get? name) <;> rfl

/-- What an increment of a variable that counts does. -/
inductive Counts (store : Store) (name : String) (delta : Int64) (current : Int) :
    Except StoreError Cell × Store → Prop where
  | added {sum : Int64} : sum.toInt = current + delta.toInt →
      Counts store name delta current (.ok (.whole sum), store.insert name (.whole sum))
  | refused : current + delta.toInt < minWhole ∨ maxWhole < current + delta.toInt →
      Counts store name delta current (.error (.overflow name delta), store)

theorem counts_incrementInPlace (h : store.count? name = some current) (delta : Int64) :
    Counts store name delta current (incrementInPlace name delta store) := by
  rw [incrementInPlace_eq, incremented_of_count? h]
  cases hsum : whole? (current + delta.toInt) with
  | some sum => exact .added (toInt_of_whole? hsum)
  | none => exact .refused (whole?_eq_none_iff.mp hsum)

theorem Counts.isOk_iff {made : Except StoreError Cell × Store}
    (h : Counts store name delta current made) :
    made.1.isOk ↔ minWhole ≤ current + delta.toInt ∧ current + delta.toInt ≤ maxWhole := by
  cases h with
  | @added sum hsum =>
    rw [← hsum]
    exact iff_of_true rfl ⟨sum.minValue_le_toInt, sum.toInt_le⟩
  | refused hrange => exact iff_of_false Bool.false_ne_true (by omega)

/-- A variable that counts goes on counting. -/
theorem Counts.exists_count? {made : Except StoreError Cell × Store}
    (hcount : store.count? name = some current) (h : Counts store name delta current made) :
    ∃ next, made.2.count? name = some next := by
  cases h with
  | added _ => exact ⟨_, count?_insert_whole store name _⟩
  | refused _ => exact ⟨current, hcount⟩

theorem incrementAll_of_getElem? {i : Nat} (h : deltas[i]? = some delta) (name : String)
    (store : Store) :
    (incrementAll name deltas store).1[i]? =
        some (incrementInPlace name delta (incrementAll name (deltas.take i) store).2).1 ∧
      (incrementAll name (deltas.take (i + 1)) store).2 =
        (incrementInPlace name delta (incrementAll name (deltas.take i) store).2).2 := by
  induction deltas generalizing i store with
  | nil => cases h
  | cons first deltas ih =>
    cases i with
    | zero =>
      obtain rfl : first = delta := Option.some.inj h
      exact ⟨rfl, rfl⟩
    | succ i => exact ih h (incrementInPlace name first store).2

theorem exists_count?_incrementAll (h : store.count? name = some start) (deltas : List Int64) :
    ∃ current, (incrementAll name deltas store).2.count? name = some current := by
  induction deltas generalizing store start with
  | nil => exact ⟨start, h⟩
  | cons delta deltas ih =>
    obtain ⟨next, hnext⟩ := (counts_incrementInPlace h delta).exists_count? h
    exact ih hnext

/-- After any number of increments a variable holds the sum of those that succeeded, and is as it
was if none did. -/
theorem incrementAll_of_count? (h : store.count? name = some start) (deltas : List Int64) :
    (incrementAll name deltas store).2.count? name =
        some (start + acceptedSum deltas (incrementAll name deltas store).1) ∧
      ((incrementAll name deltas store).2 = store ∧
          (∀ result ∈ (incrementAll name deltas store).1, result.isOk = false) ∨
        ∃ value : Int64,
          (incrementAll name deltas store).2 = store.insert name (.whole value)) := by
  induction deltas generalizing store start with
  | nil =>
    refine ⟨?_, .inl ⟨rfl, by simp [incrementAll]⟩⟩
    simpa [incrementAll, acceptedSum] using h
  | cons delta deltas ih =>
    have hcounts := counts_incrementInPlace h delta
    simp only [incrementAll]
    generalize incrementInPlace name delta store = made at hcounts ⊢
    cases hcounts with
    | @added sum hsum =>
      obtain ⟨htotal, hstore⟩ := ih (count?_insert_whole store name sum)
      refine ⟨?_, .inr ?_⟩
      · rw [htotal, hsum, acceptedSum, Int.add_assoc]
      · obtain ⟨hsame, -⟩ | ⟨value, hvalue⟩ := hstore
        · exact ⟨sum, hsame⟩
        · exact ⟨value, hvalue.trans (SortedMap.insert_insert store name _ _)⟩
    | refused _ =>
      obtain ⟨htotal, hstore⟩ := ih h
      refine ⟨htotal, hstore.imp_left ?_⟩
      intro ⟨hsame, hresults⟩
      exact ⟨hsame, List.forall_mem_cons.mpr ⟨rfl, hresults⟩⟩

theorem incrementAll_of_isUncountable (hvalue : store.get? name = some value)
    (h : value.IsUncountable) (deltas : List Int64) : incrementAll name deltas store =
      (deltas.map fun _ => .error (.notNumeric name value.typeName), store) := by
  induction deltas with
  | nil => rfl
  | cons delta deltas ih =>
    rw [incrementAll, incrementInPlace_eq, hvalue, incremented_of_isUncountable h]
    simp only [ih, List.map_cons]

theorem get?_incrementInPlace_of_ne (hne : name ≠ other) (delta : Int64) (store : Store) :
    (incrementInPlace name delta store).2.get? other = store.get? other := by
  rw [incrementInPlace_eq]
  cases incremented name delta (store.get? name) with
  | error fault => rfl
  | ok next => rw [SortedMap.get?_insert, if_neg hne]

theorem get?_incrementAll_of_ne (hne : name ≠ other) (deltas : List Int64) (store : Store) :
    (incrementAll name deltas store).2.get? other = store.get? other := by
  induction deltas generalizing store with
  | nil => rfl
  | cons delta deltas ih => exact (ih _).trans (get?_incrementInPlace_of_ne hne delta store)

/-- Of any increments of a variable that counts, one after the other, just those succeed whose sum
is a whole number. A failure leaves all variables as they were, and what the variable holds in the
end is what it started from and the numbers that were not refused. If the variable is neither null
nor a number, all fail. -/
theorem incrementAll_exact (store : Store) (name : String) (deltas : List Int64) :
    (∀ start, store.count? name = some start →
      (∀ i delta, deltas[i]? = some delta → ∃ before after current result,
        (incrementAll name (deltas.take i) store).2 = before ∧
        (incrementAll name (deltas.take (i + 1)) store).2 = after ∧
        (incrementAll name deltas store).1[i]? = some result ∧
        before.count? name = some current ∧
        (result.isOk ↔ minWhole ≤ current + delta.toInt ∧ current + delta.toInt ≤ maxWhole) ∧
        Counts before name delta current (result, after) ∧
        before.increment name delta = result.map (before.insert name)) ∧
      (incrementAll name deltas store).2.count? name =
        some (start + acceptedSum deltas (incrementAll name deltas store).1) ∧
      ((incrementAll name deltas store).2 = store ∧
          (∀ result ∈ (incrementAll name deltas store).1, result.isOk = false) ∨
        ∃ value : Int64, (incrementAll name deltas store).2 = store.insert name (.whole value))) ∧
    (∀ value, store.get? name = some value → value.IsUncountable →
      incrementAll name deltas store =
        (deltas.map fun _ => .error (.notNumeric name value.typeName), store)) ∧
    ∀ other, name ≠ other → ∀ i,
      (incrementAll name (deltas.take i) store).2.get? other = store.get? other := by
  refine ⟨?_, ?_, ?_⟩
  · intro start hstart
    refine ⟨?_, incrementAll_of_count? hstart deltas⟩
    intro i delta hdelta
    obtain ⟨hresult, hafter⟩ := incrementAll_of_getElem? hdelta name store
    obtain ⟨current, hcurrent⟩ := exists_count?_incrementAll hstart (deltas.take i)
    have hcounts := counts_incrementInPlace hcurrent delta
    exact ⟨_, _, current, _, rfl, hafter, hresult, hcurrent, hcounts.isOk_iff, hcounts,
      increment_eq_map _ name delta⟩
  · intro value hvalue huncountable
    exact incrementAll_of_isUncountable hvalue huncountable deltas
  · intro other hne i
    exact get?_incrementAll_of_ne hne (deltas.take i) store

/-- From zero to the largest whole number, and down again; two increments fail on the way. -/
theorem incrementAll_exact_ends :
    let store : Store := .ofList [("count", .null), ("label", .text "abc")]
    let deltas : List Int64 := [Int64.maxValue, 1, Int64.minValue, Int64.minValue, 7]
    (store.count? "count" = some 0 ∧
      (incrementAll "count" deltas store).1.map Except.isOk = [true, false, true, false, true] ∧
      (incrementAll "count" deltas store).2.count? "count" = some 6) ∧
    store.get? "label" = some (.text "abc") ∧ (Cell.text "abc").IsUncountable ∧
      incrementAll "label" deltas store =
        (List.replicate 5 (.error (.notNumeric "label" "string")), store) := by
  intro store deltas
  have hcount : store.count? "count" = some 0 := rfl
  have hlabel : store.get? "label" = some (.text "abc") := rfl
  obtain ⟨-, htotal, -⟩ := (incrementAll_exact store "count" deltas).1 0 hcount
  refine ⟨⟨hcount, by decide, ?_⟩, hlabel, trivial, ?_⟩
  · rw [htotal]
    decide
  · exact (incrementAll_exact store "label" deltas).2.1 _ hlabel trivial

end Store

namespace Expression

variable {condition : Expression} {store : Store} {name : String} {rows : List Row}

/-- The truth value of a condition for the rows of a batch does not depend on what a variable has
been counted to. -/
def IsSteady (condition : Expression) (name : String) (rows : List Row) (store : Store) : Prop :=
  ∀ row ∈ rows, ∃ value, condition.test row store = .ok value ∧
    ∀ count : Int64, condition.test row (store.insert name (.whole count)) = .ok value

theorem IsSteady.insert (h : condition.IsSteady name rows store) (count : Int64) :
    condition.IsSteady name rows (store.insert name (.whole count)) := by
  intro row hrow
  obtain ⟨value, -, hcounted⟩ := h row hrow
  refine ⟨value, hcounted count, ?_⟩
  intro other
  rw [SortedMap.insert_insert]
  exact hcounted other

theorem IsSteady.countP_insert (h : condition.IsSteady name rows store) (count : Int64) :
    rows.countP (condition.isMet (store.insert name (.whole count))) =
      rows.countP (condition.isMet store) := by
  refine List.countP_congr ?_
  intro row hrow
  obtain ⟨value, hvalue, hcounted⟩ := h row hrow
  rw [isMet_of_test hvalue, isMet_of_test (hcounted count)]

end Expression

namespace Builtin

variable {store : Store} {name : String} {delta : Int64} {condition : Expression}
variable {rows : List Row} {start : Int} {k : Nat}

theorem succ_mul_eq (k : Nat) (delta : Int) : (k + 1 : Nat) * delta = k * delta + delta := by
  rw [Int.natCast_succ, Int.add_mul, Int.one_mul]

/-- All numbers that are added have one sign, so a sum beyond the range is not made up for. -/
theorem beyond_of_beyond {delta : Int} (hstart : minWhole ≤ start ∧ start ≤ maxWhole) (k : Nat)
    (h : start + delta < minWhole ∨ maxWhole < start + delta) :
    start + (k + 1 : Nat) * delta < minWhole ∨ maxWhole < start + (k + 1 : Nat) * delta := by
  rw [succ_mul_eq]
  obtain hbelow | habove := h
  · have hsign : (k : Int) * delta ≤ 0 :=
      Int.mul_nonpos_of_nonneg_of_nonpos (Int.natCast_nonneg k) (by omega)
    exact .inl (by omega)
  · have hsign : 0 ≤ (k : Int) * delta := Int.mul_nonneg (Int.natCast_nonneg k) (by omega)
    exact .inr (by omega)

/-- How counting ends that adds a number some times to what a variable starts from. -/
inductive Counted (store : Store) (name : String) (delta : Int64) (start : Int) :
    Nat → Except DirectiveError Unit × Store → Prop where
  | never : Counted store name delta start 0 (.ok (), store)
  | total {k : Nat} {value : Int64} : 0 < k → value.toInt = start + k * delta.toInt →
      Counted store name delta start k (.ok (), store.insert name (.whole value))
  | overflow {k : Nat} (after : Store) : 0 < k →
      start + k * delta.toInt < minWhole ∨ maxWhole < start + k * delta.toInt →
      Counted store name delta start k (.error (.store (.overflow name delta)), after)

theorem Counted.succ {made : Except DirectiveError Unit × Store} {sum : Int64}
    (hsum : sum.toInt = start + delta.toInt)
    (h : Counted (store.insert name (.whole sum)) name delta sum.toInt k made) :
    Counted store name delta start (k + 1) made := by
  have hsplit : start + (k + 1 : Nat) * delta.toInt = sum.toInt + k * delta.toInt := by
    rw [hsum, succ_mul_eq]
    omega
  cases h with
  | never => exact .total (Nat.succ_pos _) (by rw [hsplit]; simp)
  | total _ hvalue =>
    rw [SortedMap.insert_insert]
    exact .total (Nat.succ_pos k) (hvalue.trans hsplit.symm)
  | overflow after _ hrange => exact .overflow after (Nat.succ_pos k) (by rwa [hsplit])

/-- Each row that satisfies the condition counts once, as the sums in between do not change whether
the rows behind it do. -/
theorem counted_incrementForEach (hcount : store.count? name = some start)
    (hsteady : condition.IsSteady name rows store) :
    Counted store name delta start (rows.countP (condition.isMet store))
      (incrementForEach name delta condition rows store) := by
  induction rows generalizing store start with
  | nil => exact .never
  | cons row rows ih =>
    obtain ⟨⟨value, hvalue, -⟩, hothers⟩ := List.forall_mem_cons.mp hsteady
    rw [incrementForEach, Expression.holdsFor_eq_ok.mpr hvalue]
    cases value with
    | false =>
      rw [List.countP_cons_of_neg (by rw [Expression.isMet_of_test hvalue]; decide)]
      exact ih hcount hothers
    | true =>
      rw [List.countP_cons_of_pos (Expression.isMet_of_test hvalue)]
      simp only [Store.increment_of_count? hcount]
      cases hsum : whole? (start + delta.toInt) with
      | none =>
        exact .overflow store (Nat.succ_pos _)
          (beyond_of_beyond (Store.range_of_count? hcount) _ (whole?_eq_none_iff.mp hsum))
      | some sum =>
        have hrest := ih (Store.count?_insert_whole store name sum)
          (Expression.IsSteady.insert hothers sum)
        rw [Expression.IsSteady.countP_insert hothers] at hrest
        exact hrest.succ (toInt_of_whole? hsum)

/-- A variable that is incremented for each row that a condition is true of holds the total in the
end. The directive fails if and only if there is such a row and the total is no whole number, and
changes nothing if there is none. -/
theorem execute_incrementVariable_total (hcount : store.count? name = some start)
    (hsteady : condition.IsSteady name rows store)
    (hk : rows.countP (condition.isMet store) = k) (delta : Int64) :
    ((∃ outcomes after,
        (Builtin.incrementVariable name delta condition).execute rows store =
          (.ok outcomes, after)) ↔
      k = 0 ∨ minWhole ≤ start + k * delta.toInt ∧ start + k * delta.toInt ≤ maxWhole) ∧
    (∀ outcomes after,
      (Builtin.incrementVariable name delta condition).execute rows store =
        (.ok outcomes, after) →
      outcomes = rows.map .keep ∧ (k = 0 → after = store) ∧
        (0 < k → ∃ value : Int64, value.toInt = start + k * delta.toInt ∧
          after = store.insert name (.whole value))) ∧
    ∀ fault after,
      (Builtin.incrementVariable name delta condition).execute rows store =
        (.error fault, after) → fault = .error (.store (.overflow name delta)) := by
  have hcounted : Counted store name delta start k _ := hk ▸ counted_incrementForEach hcount hsteady
  rw [execute]
  generalize incrementForEach name delta condition rows store = made at hcounted
  cases hcounted with
  | never =>
    refine ⟨iff_of_true ⟨_, _, rfl⟩ (.inl rfl), ?_, ?_⟩
    · intro outcomes after h
      cases h
      exact ⟨rfl, fun _ => rfl, fun hpos => absurd hpos (Nat.lt_irrefl 0)⟩
    · intro fault after h
      cases h
  | @total _ value hpos hvalue =>
    refine ⟨iff_of_true ⟨_, _, rfl⟩ (.inr ?_), ?_, ?_⟩
    · rw [← hvalue]
      exact ⟨value.minValue_le_toInt, value.toInt_le⟩
    · intro outcomes after h
      cases h
      exact ⟨rfl, fun hzero => absurd hzero hpos.ne', fun _ => ⟨value, hvalue, rfl⟩⟩
    · intro fault after h
      cases h
  | overflow last hpos hrange =>
    refine ⟨iff_of_false ?_ (by omega), ?_, ?_⟩
    · rintro ⟨outcomes, after, h⟩
      cases h
    · intro outcomes after h
      cases h
    · intro fault after h
      cases h
      rfl

/-- Twice half of the least whole number fits from zero on, and from below zero it does not. -/
theorem execute_incrementVariable_total_bads :
    let condition : Expression := ⟨"bad", .variable "bad" ⟨1, 1⟩⟩
    let rows : List Row := [[("bad", .boolean true)], [("bad", .boolean false)],
      [("bad", .boolean true)]]
    let store : Store := .ofList [("bads", .null), ("last", .whole 2)]
    let counting := Builtin.incrementVariable "bads" (-4611686018427387904) condition
    store.count? "bads" = some 0 ∧ condition.IsSteady "bads" rows store ∧
      rows.countP (condition.isMet store) = 2 ∧
      (∃ outcomes after, counting.execute rows store = (.ok outcomes, after) ∧
        after = store.insert "bads" (.whole Int64.minValue)) ∧
      ¬∃ outcomes after,
        counting.execute rows (store.insert "bads" (.whole (-1))) = (.ok outcomes, after) := by
  intro condition rows store counting
  have hsteady : condition.IsSteady "bads" rows store := by
    refine List.forall_mem_cons.mpr ⟨⟨true, rfl, fun _ => rfl⟩, ?_⟩
    refine List.forall_mem_cons.mpr ⟨⟨false, rfl, fun _ => rfl⟩, ?_⟩
    exact List.forall_mem_singleton.mpr ⟨true, rfl, fun _ => rfl⟩
  have hcount : store.count? "bads" = some 0 := rfl
  have htwo : rows.countP (condition.isMet store) = 2 := rfl
  refine ⟨hcount, hsteady, htwo, ?_, ?_⟩
  · obtain ⟨hends, htotal, -⟩ :=
      execute_incrementVariable_total hcount hsteady htwo (-4611686018427387904)
    obtain ⟨outcomes, after, hx⟩ := hends.mpr (.inr (by decide))
    obtain ⟨-, -, hafter⟩ := htotal outcomes after hx
    obtain ⟨value, hvalue, rfl⟩ := hafter (by decide)
    obtain rfl : value = Int64.minValue := Int64.toInt_inj.mp (hvalue.trans (by decide))
    exact ⟨outcomes, _, hx, rfl⟩
  · have hcount' : Store.count? (store.insert "bads" (.whole (-1))) "bads" = some (-1) := rfl
    rw [(execute_incrementVariable_total hcount' (hsteady.insert (-1)) rfl
      (-4611686018427387904)).1]
    decide

end Builtin

end RowRecipe
