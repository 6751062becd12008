import Mathlib.Tactic.Choose
import RowRecipe.Proofs.PrintedNumbers

/-!
# Setting the type of a column

What a cell is converted to is of the type that it was to have, unless it is null, and stays as it
is when it is converted to that type again. Scalars come back from their texts: null, truth values,
whole numbers, texts and finite floats. Both go over from the cells to the batches, as setting the
type of a column converts the first cell of that name in each row.

Main statements: `RowDirective.setType_setType`, `RowDirective.setType_text_setType`.
-/
namespace RowRecipe

namespace Cell
variable {target : TargetType} {cell converted : Cell}

/-! ### Types -/

/-- A cell that is of a type. -/
inductive IsOf : TargetType → Cell → Prop where
  | text (value : String) : IsOf .text (.text value)
  | whole (value : Int64) : IsOf .whole (.whole value)
  | float (value : Float) : IsOf .float (.float value)
  | boolean (value : Bool) : IsOf .boolean (.boolean value)

theorem typeName_of_isOf (h : IsOf target cell) : cell.typeName = target.name := by
  cases h <;> rfl

/-- A cell that is of the type already stays as it is. -/
theorem convert?_of_isOf (h : IsOf target cell) : cell.convert? target = some cell := by
  cases h <;> rfl

theorem isOf_of_map {α : Type} {value? : Option α} {make : α → Cell}
    (hmake : ∀ value, IsOf target (make value)) (h : value?.map make = some converted) :
    IsOf target converted := by
  obtain ⟨value, -, rfl⟩ := Option.map_eq_some_iff.mp h
  exact hmake value

theorem isOf_of_toWhole? (h : cell.toWhole? = some converted) : IsOf .whole converted := by
  unfold toWhole? at h
  split at h
  · cases h
    exact .whole _
  · exact isOf_of_map .whole h
  · cases h
    exact .whole _
  · exact isOf_of_map .whole h
  · cases h

theorem isOf_of_toFloat? (h : cell.toFloat? = some converted) : IsOf .float converted := by
  unfold toFloat? at h
  split at h
  · exact isOf_of_map .float h
  · cases h
    exact .float _
  · exact isOf_of_map .float h

theorem isOf_of_toBoolean? (h : cell.toBoolean? = some converted) : IsOf .boolean converted := by
  unfold toBoolean? at h
  split at h
  · cases h
    exact .boolean _
  · cases h
    exact .boolean _
  · exact isOf_of_map .boolean h
  · cases h

/-- Null stays null, and any other cell becomes one of the type. -/
theorem convert?_cases (h : cell.convert? target = some converted) :
    cell = .null ∧ converted = .null ∨ cell ≠ .null ∧ IsOf target converted := by
  unfold convert? at h
  split at h
  · exact .inl ⟨rfl, (Option.some.inj h).symm⟩
  · next hcell =>
    apply Or.inr
    constructor
    · exact hcell
    cases target with
    | text => exact isOf_of_map .text h
    | whole => exact isOf_of_toWhole? h
    | float => exact isOf_of_toFloat? h
    | boolean => exact isOf_of_toBoolean? h

theorem eq_null_iff_of_convert? (h : cell.convert? target = some converted) :
    converted = .null ↔ cell = .null := by
  cases convert?_cases h with
  | inl hnull => simp [hnull.1, hnull.2]
  | inr hother =>
    have hconverted : converted ≠ .null := by
      cases hother.2 <;> exact Cell.noConfusion
    simp [hother.1, hconverted]

/-- A second conversion to a type changes nothing. -/
theorem convert?_of_convert? (h : cell.convert? target = some converted) :
    converted.convert? target = some converted := by
  cases convert?_cases h with
  | inl hnull => rw [hnull.2]; rfl
  | inr hother => exact convert?_of_isOf hother.2

/-! ### Texts and back -/

/-- A cell that is null or a scalar of a type, and finite if it is a float. -/
inductive IsScalarOf : TargetType → Cell → Prop where
  | null (target : TargetType) : IsScalarOf target .null
  | text (value : String) : IsScalarOf .text (.text value)
  | whole (value : Int64) : IsScalarOf .whole (.whole value)
  | float {value : Float} (h : Binary64.isFinite value = true) : IsScalarOf .float (.float value)
  | boolean (value : Bool) : IsScalarOf .boolean (.boolean value)

theorem convert?_whole_integerText (value : Int64) :
    (Cell.text (integerText value.toInt)).convert? .whole = some (.whole value) := by
  have hwhole : wholeOfText? (integerChars value.toInt) = some value := by
    rw [wholeOfText?, readWhole?_integerChars]
  rw [convert?_whole_text, integerText, String.toList_ofList,
    trimChars_of_isNumberChar isNumberChar_of_mem_integerChars, hwhole]
  rfl

theorem convert?_float_text {value : Float} (h : Binary64.isFinite value = true) :
    (Cell.text (FloatLayout.plain.text value)).convert? .float = some (.float value) := by
  have hfinite : readFinite? (FloatLayout.plain.chars value) = some value := by
    rw [readFinite?, FloatLayout.plain.readFloat?_chars rfl h, Option.filter_some, if_pos h]
  have hconvert : (Cell.text (FloatLayout.plain.text value)).convert? .float =
      (readFinite? (Text.trimChars (FloatLayout.plain.text value).toList)).map .float := rfl
  rw [hconvert, FloatLayout.text, String.toList_ofList, FloatLayout.plain.trimChars_chars rfl h,
    hfinite]
  rfl

theorem convert?_boolean_booleanText (value : Bool) :
    (Cell.text (booleanText value)).convert? .boolean = some (.boolean value) := by
  cases value <;> rfl

/-- A scalar comes back from its text. -/
theorem convert?_convert?_text (h : IsScalarOf target cell) :
    ∃ printed, cell.convert? .text = some printed ∧ printed.convert? target = some cell := by
  cases h with
  | null => exact ⟨.null, rfl, rfl⟩
  | text value => exact ⟨.text value, rfl, rfl⟩
  | whole value => exact ⟨_, rfl, convert?_whole_integerText value⟩
  | float h => exact ⟨_, rfl, convert?_float_text h⟩
  | boolean value => exact ⟨_, rfl, convert?_boolean_booleanText value⟩

end Cell

/-! ### Rows and batches -/

namespace Row
variable {row changed : Row} {column : String} {target : TargetType}

theorem convertColumn_of_convertColumn (h : row.convertColumn column target = .ok changed) :
    changed.convertColumn column target = .ok changed := by
  obtain ⟨position, value, converted, hrequire, hconvert, rfl⟩ := row.convertColumn_eq_ok.mp h
  apply (convertColumn_eq_ok _).mpr
  refine ⟨position, converted, converted, require_setAt hrequire converted,
    Cell.convert?_of_convert? hconvert, ?_⟩
  rw [setAt_setAt]

/-- A row whose cell comes back from its text comes back itself. -/
theorem exists_convertColumn_text {value : Cell} (hvalue : row.get? column = some value)
    (h : Cell.IsScalarOf target value) :
    ∃ printed, row.convertColumn column .text = .ok printed ∧
      printed.convertColumn column target = .ok row := by
  obtain ⟨position, hrequire⟩ := exists_require_of_get? hvalue
  obtain ⟨text, htext, hback⟩ := Cell.convert?_convert?_text h
  refine ⟨row.setAt position text, ?_, ?_⟩
  · exact (convertColumn_eq_ok _).mpr ⟨position, value, text, hrequire, htext, rfl⟩
  · apply (convertColumn_eq_ok _).mpr
    refine ⟨position, text, value, require_setAt hrequire text, hback, ?_⟩
    rw [setAt_setAt, setAt_of_require hrequire]

end Row

namespace RowDirective
variable {column : String} {target : TargetType} {rows : List Row} {store : Store}

theorem apply_setType {row changed : Row} (h : row.convertColumn column target = .ok changed) :
    (setType column target).apply store row = .ok [.keep changed] := by
  rw [apply, h]
  rfl

/-- A second conversion leaves each row as it is that comes out of a batch. -/
theorem exists_changed_of_applyAll_setType {outcomes : List Outcome}
    (h : (setType column target).applyAll store rows = .ok outcomes) :
    ∃ changed : List Row, outcomes = changed.map .keep ∧
      ∀ row ∈ changed, row.convertColumn column target = .ok row := by
  rw [applyAll_setType_eq_ok] at h
  induction h with
  | nil => exact ⟨[], rfl, List.forall_mem_nil _⟩
  | cons hrow _ ih =>
    obtain ⟨after, hafter, rfl⟩ := hrow
    obtain ⟨changed, rfl, hchanged⟩ := ih
    refine ⟨after :: changed, rfl, ?_⟩
    rw [List.forall_mem_cons]
    exact ⟨Row.convertColumn_of_convertColumn hafter, hchanged⟩

/-- What a cell is converted to is null only if the cell is, is else of the type, and stays as it is
in a second conversion. So where setting the type of a column succeeds, doing it once more succeeds
and changes nothing. -/
theorem setType_setType (target : TargetType) :
    (∀ cell converted : Cell, cell.convert? target = some converted →
      (converted = .null ↔ cell = .null) ∧
      (cell ≠ .null → converted.typeName = target.name) ∧
      converted.convert? target = some converted) ∧
    ∀ (column : String) (rows : List Row) (store after : Store) (outcomes : List Outcome),
      (Directive.builtin (.row (.setType column target))).execute rows store =
        (.ok outcomes, after) →
      ∃ changed : List Row, outcomes = changed.map .keep ∧ after = store ∧
        (Directive.builtin (.row (.setType column target))).execute changed store =
          (.ok (changed.map .keep), store) := by
  constructor
  · intro cell converted h
    refine ⟨Cell.eq_null_iff_of_convert? h, ?_, Cell.convert?_of_convert? h⟩
    intro hcell
    cases Cell.convert?_cases h with
    | inl hnull => exact absurd hnull.1 hcell
    | inr hother => exact Cell.typeName_of_isOf hother.2
  · intro column rows store after outcomes h
    obtain ⟨happly, hstore⟩ := Directive.execute_row_eq_ok.mp h
    obtain ⟨changed, houtcomes, hchanged⟩ := exists_changed_of_applyAll_setType happly
    refine ⟨changed, houtcomes, hstore, ?_⟩
    have hagain : (Directive.builtin (.row (.setType column target))).execute (changed.map id)
        store = (.ok ((changed.map id).map .keep), store) :=
      Directive.execute_row_map id id fun row hrow => apply_setType (hchanged row hrow)
    rwa [List.map_id] at hagain

/-- Texts, floats, truth values and null become whole numbers, and these stay. -/
theorem setType_setType_mixed :
    let rows : List Row := [[("n", .text " 2e1 "), ("n", .text "x")], [("n", .null)],
      [("m", .null), ("n", .float (Binary64.nearest true 5 2))], [("n", .boolean true)]]
    let changed : List Row := [[("n", .whole 20), ("n", .text "x")], [("n", .null)],
      [("m", .null), ("n", .whole (-2))], [("n", .whole 1)]]
    (Directive.builtin (.row (.setType "n" .whole))).execute rows .empty =
        (.ok (changed.map .keep), .empty) ∧
      (Directive.builtin (.row (.setType "n" .whole))).execute changed .empty =
        (.ok (changed.map .keep), .empty) := by
  intro rows changed
  have hfirst : (Directive.builtin (.row (.setType "n" .whole))).execute rows .empty =
      (.ok (changed.map .keep), .empty) := rfl
  obtain ⟨again, heq, -, hagain⟩ := (setType_setType .whole).2 "n" rows .empty .empty _ hfirst
  have hsame : changed = again := Outcome.map_keep_injective heq
  exact ⟨hfirst, hsame ▸ hagain⟩

/-- Null and the scalars of a type, floats that are not finite apart, come back from their texts.
So a batch with nothing else in a column comes back when the column is set to texts and then to that
type. -/
theorem setType_text_setType (target : TargetType) :
    (∀ cell : Cell, cell.IsScalarOf target →
      ∃ printed, cell.convert? .text = some printed ∧ printed.convert? target = some cell) ∧
    ∀ (column : String) (rows : List Row) (store : Store),
      (∀ row ∈ rows, ∃ value, row.get? column = some value ∧ value.IsScalarOf target) →
      ∃ texts : List Row,
        (Directive.builtin (.row (.setType column .text))).execute rows store =
          (.ok (texts.map .keep), store) ∧
        (Directive.builtin (.row (.setType column target))).execute texts store =
          (.ok (rows.map .keep), store) := by
  constructor
  · intro cell h
    exact Cell.convert?_convert?_text h
  · intro column rows store hrows
    have hprinted : ∀ row, ∃ printed : Row, row ∈ rows →
        row.convertColumn column .text = .ok printed ∧
          printed.convertColumn column target = .ok row := by
      intro row
      by_cases hrow : row ∈ rows
      · obtain ⟨value, hvalue, h⟩ := hrows row hrow
        obtain ⟨printed, hprinted⟩ := Row.exists_convertColumn_text hvalue h
        exact ⟨printed, fun _ => hprinted⟩
      · exact ⟨row, fun hmem => absurd hmem hrow⟩
    choose printed hprinted using hprinted
    have htexts : (Directive.builtin (.row (.setType column .text))).execute (rows.map id) store =
        (.ok ((rows.map printed).map .keep), store) :=
      Directive.execute_row_map id printed fun row hrow => apply_setType (hprinted row hrow).1
    have hback : (Directive.builtin (.row (.setType column target))).execute (rows.map printed)
        store = (.ok ((rows.map id).map .keep), store) :=
      Directive.execute_row_map printed id fun row hrow => apply_setType (hprinted row hrow).2
    rw [List.map_id] at htexts hback
    exact ⟨rows.map printed, htexts, hback⟩

/-- The texts of floats, of which the negative zero keeps its sign, and what they are read as. -/
theorem setType_text_setType_floats :
    let rows : List Row := [[("n", .float (Binary64.nearest false 1 10))], [("n", .null)],
      [("m", .whole 1), ("n", .float (Binary64.nearest true 0 1)), ("n", .bytes [])]]
    let texts : List Row := [[("n", .text "0.1")], [("n", .null)],
      [("m", .whole 1), ("n", .text "-0"), ("n", .bytes [])]]
    (∀ row ∈ rows, ∃ value, row.get? "n" = some value ∧ value.IsScalarOf .float) ∧
      (Directive.builtin (.row (.setType "n" .text))).execute rows .empty =
        (.ok (texts.map .keep), .empty) ∧
      (Directive.builtin (.row (.setType "n" .float))).execute texts .empty =
        (.ok (rows.map .keep), .empty) := by
  intro rows texts
  have hrows : ∀ row ∈ rows, ∃ value, row.get? "n" = some value ∧ value.IsScalarOf .float := by
    simp only [rows, List.forall_mem_cons]
    refine ⟨⟨_, rfl, .float rfl⟩, ⟨_, rfl, .null _⟩, ⟨_, rfl, .float rfl⟩, List.forall_mem_nil _⟩
  have hprinted : (Directive.builtin (.row (.setType "n" .text))).execute rows .empty =
      (.ok (texts.map .keep), .empty) := rfl
  obtain ⟨found, htexts, hback⟩ := (setType_text_setType .float).2 "n" rows .empty hrows
  have hsame : texts = found := by
    rw [hprinted] at htexts
    exact Outcome.map_keep_injective (Except.ok.inj (Prod.mk.inj htexts).1)
  exact ⟨hrows, hprinted, hsame ▸ hback⟩

end RowDirective

end RowRecipe
