import LocalPlatform.Management.SelectionPolicy

/-!
# What the engine calls of the repository do

Row updates register by register, what a conflict report says, and the few kinds of steps that
all operations of the repository are made of. Every invariant is then a case analysis over these
kinds.
-/

namespace LocalPlatform.Management

open Resumption MultiValue List

/-! ## Updates of one row -/

section
variable {f : (a : Assignment) → Register a.column.Value → Register a.column.Value}
  {as : List Assignment} {data : Data} {key k : Id} {c : Column}

/-- Other rows are left alone. -/
lemma modifyRow_of_ne_key (h : k ≠ key) : (modifyRow f key as data).cells c k = data.cells c k := by
  induction as generalizing data with
  | nil => rfl
  | cons a as ih =>
    have hrest : modifyRow f key (a :: as) data =
      modifyRow f key as (data.modify a.column key (f a)) := rfl
    rw [hrest, ih, Database.cells_modify_of_ne (.inr h)]

/-- Columns that are not assigned are left alone. -/
lemma modifyRow_of_notMem (h : ∀ a ∈ as, a.column ≠ c) :
    (modifyRow f key as data).cells c k = data.cells c k := by
  induction as generalizing data with
  | nil => rfl
  | cons a as ih =>
    have hrest : modifyRow f key (a :: as) data =
      modifyRow f key as (data.modify a.column key (f a)) := rfl
    rw [hrest, ih fun a' ha' => h a' (mem_cons_of_mem a ha'),
      Database.cells_modify_of_ne (.inl (h a mem_cons_self).symm)]

/-- An assigned column is changed once. -/
lemma modifyRow_of_mem (hnodup : (as.map (·.column)).Nodup) {a : Assignment} (ha : a ∈ as) :
    (modifyRow f key as data).cells a.column key = f a (data.cells a.column key) := by
  induction as generalizing data with
  | nil => exact absurd ha not_mem_nil
  | cons b as ih =>
    have hrest : modifyRow f key (b :: as) data =
      modifyRow f key as (data.modify b.column key (f b)) := rfl
    rw [map_cons, nodup_cons] at hnodup
    rw [hrest]
    rcases mem_cons.mp ha with rfl | ha
    · have hother : ∀ a' ∈ as, a'.column ≠ a.column := fun a' ha' heq =>
        hnodup.1 (mem_map.mpr ⟨a', ha', heq⟩)
      rw [modifyRow_of_notMem hother, Database.cells_modify_self]
    · have hne : a.column ≠ b.column := fun heq =>
        hnodup.1 (heq ▸ mem_map_of_mem ha)
      rw [ih hnodup.2 ha, Database.cells_modify_of_ne (.inl hne)]

lemma writeRow_of_mem (actor : ℕ) (hnodup : (as.map (·.column)).Nodup) {a : Assignment}
    (ha : a ∈ as) : (writeRow actor key as data).cells a.column key =
      (data.cells a.column key).write actor a.value :=
  modifyRow_of_mem hnodup ha

lemma subset_keys_modifyRow : data.keys ⊆ (modifyRow f key as data).keys := by
  induction as generalizing data with
  | nil => exact Finset.Subset.refl _
  | cons a as ih =>
    have hrest : (data.modify a.column key (f a)).keys ⊆ (modifyRow f key (a :: as) data).keys := ih
    exact Finset.Subset.trans (Finset.subset_insert key data.keys) hrest

lemma mem_keys_modifyRow (h : as ≠ []) : key ∈ (modifyRow f key as data).keys := by
  cases as with
  | nil => exact absurd rfl h
  | cons a as =>
    have hrest : (data.modify a.column key (f a)).keys ⊆ (modifyRow f key (a :: as) data).keys :=
      subset_keys_modifyRow
    exact hrest (Finset.mem_insert_self key data.keys)

/-- A change of a row is at most one write a column. -/
lemma modifyRow_evolves {actor : ℕ} (hf : ∀ a (r : Register a.column.Value),
    r.Evolves actor (f a r)) :
    (data.cells c k).Evolves actor ((modifyRow f key as data).cells c k) := by
  induction as generalizing data with
  | nil => exact .refl
  | cons a as ih =>
    have hrest : ((data.modify a.column key (f a)).cells c k).Evolves actor
        ((modifyRow f key (a :: as) data).cells c k) := ih
    refine .trans ?_ hrest
    by_cases hc : c = a.column
    · subst hc
      by_cases hk : k = key
      · subst hk
        rw [Database.cells_modify_self]
        exact hf a _
      · rw [Database.cells_modify_of_ne (.inr hk)]
    · rw [Database.cells_modify_of_ne (.inl hc)]

end

/-! ## Conflict reports -/

section
variable {P : Platform} {columns : List Column} {data : Data} {key : Id}

/-- A conflict is a column with its visible values. -/
lemma mem_rowConflictValues {conflict : ColumnConflict} :
    conflict ∈ rowConflictValues P columns data key ↔
      ∃ c ∈ columns, P.rules.isConflicted (data.cells c key) = true ∧
        conflict = ⟨c, (data.cells c key).values⟩ := by
  unfold rowConflictValues
  rw [mem_filterMap]
  refine exists_congr fun c => and_congr_right fun _ => ?_
  by_cases hc : P.rules.isConflicted (data.cells c key) = true
  · simp [hc, eq_comm]
  · simp [hc]

lemma rowConflictValues_eq_nil : rowConflictValues P columns data key = [] ↔
    ∀ c ∈ columns, P.rules.isConflicted (data.cells c key) = false := by
  rw [eq_nil_iff_forall_not_mem]
  constructor
  · intro hnone c hc
    by_contra hconf
    exact hnone _ (mem_rowConflictValues.mpr ⟨c, hc, by simpa using hconf, rfl⟩)
  · rintro hnone _ hmem
    obtain ⟨c, hc, hconf, -⟩ := mem_rowConflictValues.mp hmem
    rw [hnone c hc] at hconf
    cases hconf

lemma rowConflictValues_columns : (rowConflictValues P columns data key).map (·.column) =
    columns.filter fun c => P.rules.isConflicted (data.cells c key) := by
  induction columns with
  | nil => rfl
  | cons c columns ih =>
    unfold rowConflictValues at ih ⊢
    by_cases hc : P.rules.isConflicted (data.cells c key) = true
    · simp only [filterMap_cons, hc, if_true, map_cons, ih, filter_cons]
    · simp [hc, ih]

end

/-- Nothing is in conflict that was never written. -/
lemma exists_mem_of_isConflicted {E : Rules} (hE : E.Lawful) {ν : Type} {r : Register ν}
    (h : E.isConflicted r = true) : ∃ w, w ∈ r := by
  by_contra hempty
  push Not at hempty
  have hsingle := hE.single r fun w hw => absurd (Register.mem_live.mp hw).1 (hempty w)
  rw [Rules.isConflicted, hsingle] at h
  cases h

/-! ## Safe values -/

/-- The value on the safe side of a column, where there is one. -/
def Column.safe : (c : Column) → Option c.Value
  | .applicationId => some none
  | .selectedKind => some none
  | .selectedId => some none
  | .adminAllowed => some false
  | .selected => some false
  | .ownerSubject => none
  | .deviceId => none
  | .resourceOwnerSubject => none
  | .resourceApplicationId => none
  | .resourceKind => none
  | .resourceId => none

/-- The assignment puts its column on the safe side. -/
def Assignment.Safe (a : Assignment) : Prop := a.column.safe = some a.value

section
variable {conflict : ColumnConflict} {a : Assignment}

/-- A resolution writes the safe value of its column. -/
lemma convergentResolution_ok (h : convergentResolution conflict = .ok a) :
    a.column = conflict.column ∧ a.Safe := by
  unfold convergentResolution at h
  split at h
  case h_5 => cases h
  all_goals
    split at h
    · cases h
      exact ⟨rfl, rfl⟩
    · cases h

/-- A selection in conflict is resolved to deselected, if one side deselected it. -/
lemma resourceResolution_ok (h : resourceResolution conflict = .ok a) :
    a = ⟨.selected, false⟩ ∧ ∃ values, conflict = ⟨.selected, values⟩ ∧ false ∈ values := by
  unfold resourceResolution at h
  split at h
  · split at h
    · cases h
      exact ⟨rfl, _, rfl, ‹_›⟩
    · cases h
  · cases h

lemma nullAssignment_eq_some (h : nullAssignment conflict = some a) :
    a.column = conflict.column ∧ a.Safe := by
  unfold nullAssignment at h
  split at h
  case h_4 => cases h
  all_goals
    cases h
    exact ⟨rfl, rfl⟩

end

end LocalPlatform.Management
