import LocalPlatform.Management.Reference
import LocalPlatform.Management.ResourceTheorems

/-!
# Deselecting all resources of a device

`deselect_owned` returns early when the policy row names no selection any more, or names several
that are in conflict; it touches the rows of the resources only otherwise. It has deselected
everything exactly when it did not return early, or when there was nothing left to deselect.
-/

namespace LocalPlatform.Management

open Resumption MultiValue Register List Prod Option

/-! ## The early exit -/

/-- The policy row names no selection: each of the three columns is null, or is about to be reset
to null because it is in conflict. -/
def SelectionCleared (P : Platform) (data : Data) (d : Id) : Prop :=
  ∀ c, isSelectionColumn c = true →
    P.rules.isConflicted (data.cells c d) = true ∨ P.rules.read (data.cells c d) = c.safe

section
variable {P : Platform} {s s' : Replica} {d : Id} {o : String}

variable {c : Column} {data : Data} {selects restores : Id → Prop}

/-- A column of the selection has a safe value, the null that a reset writes. -/
lemma isSelectionColumn_safe (h : isSelectionColumn c = true) :
    c ∈ policyColumns ∧ ∃ v, c.safe = some v ∧
      ∀ values, nullAssignment ⟨c, values⟩ = some ⟨c, v⟩ := by
  cases c with
  | applicationId => exact ⟨by decide, none, rfl, fun _ => rfl⟩
  | selectedKind => exact ⟨by decide, none, rfl, fun _ => rfl⟩
  | selectedId => exact ⟨by decide, none, rfl, fun _ => rfl⟩
  | _ => cases h

/-- Once the conflicts are overwritten, the row names no selection exactly when it was cleared. -/
lemma selectionCleared_iff (hP : P.Lawful) (s : Replica) (d : Id) :
    SelectionCleared P s.data d ↔ ∀ c, isSelectionColumn c = true →
      P.rules.read ((s.resetRow P d).data.cells c d) = c.safe := by
  refine forall_congr' fun c => imp_congr_right fun hc => ?_
  obtain ⟨hmem, v, hsafe, hnull⟩ := isSelectionColumn_safe hc
  by_cases hconf : P.rules.isConflicted (s.data.cells c d) = true
  · have hassigned : (⟨c, v⟩ : Assignment) ∈
        (policyConflicts P d s.data).filterMap nullAssignment :=
      mem_filterMap.mpr ⟨_, mem_rowConflictValues.mpr ⟨c, hmem, hconf, rfl⟩, hnull _⟩
    have hcells : (s.resetRow P d).data.cells c d = (s.data.cells c d).write s.actor v :=
      writeRow_of_mem s.actor (nullAssignments_nodup d s.data) hassigned
    rw [hcells, hP.rules.read_write, hsafe]
    exact ⟨fun _ => rfl, fun _ => .inl hconf⟩
  · have hcells : (s.resetRow P d).data.cells c d = s.data.cells c d := by
      refine modifyRow_of_notMem fun a ha heq => hconf ?_
      obtain ⟨_, hrep, hnull⟩ := mem_filterMap.mp ha
      obtain ⟨_, -, hconf', rfl⟩ := mem_rowConflictValues.mp hrep
      obtain rfl := (nullAssignment_eq_some hnull).1.symm.trans heq
      exact hconf'
    rw [hcells]
    exact ⟨fun h => h.resolve_left hconf, .inr⟩

/-- The test for the early exit. -/
lemma policyRow_cleared {policy : SelectionPolicy} (hrow : policyRow P data d = some policy) :
    (policy.applicationId.isNone && policy.selectedKind.isNone && policy.selectedId.isNone) = true ↔
      ∀ c, isSelectionColumn c = true → P.rules.read (data.cells c d) = c.safe := by
  obtain ⟨-, -, ha, hk, hr, -⟩ := policyRow_eq_some.mp hrow
  simp only [Bool.and_eq_true, isNone_iff_eq_none]
  constructor
  · rintro ⟨⟨hnone, hnone'⟩, hnone''⟩ c hc
    rw [hnone] at ha
    rw [hnone'] at hk
    rw [hnone''] at hr
    cases c with
    | applicationId => exact ha
    | selectedKind => exact hk
    | selectedId => exact hr
    | _ => cases hc
  · intro hclr
    have ha' := hclr .applicationId rfl
    have hk' := hclr .selectedKind rfl
    have hr' := hclr .selectedId rfl
    rw [ha] at ha'
    rw [hk] at hk'
    rw [hr] at hr'
    exact ⟨⟨some.inj ha', some.inj hk'⟩, some.inj hr'⟩

/-- What a successful deselection has done. -/
lemma deselectOwned_run_ok (hP : P.Lawful) (h : (deselectOwned P d o).run s = (.ok true, s')) :
    policyConflicts P d (s.resetRow P d).data = [] ∧ (policyRow P (s.resetRow P d).data d).isSome ∧
      (SelectionCleared P s.data d ∧ s' = s.resetRow P d ∨ ¬SelectionCleared P s.data d ∧
          s' = ((s.resetRow P d).after P (.updateResource (.hasDevice d) false)).after P
            (.updatePolicy d (selectionAssignments none none none))) := by
  obtain ⟨conflicts, s₁, hconfs, h1⟩ := run_bind_ok.mp h
  obtain ⟨rfl, rfl⟩ : policyConflicts P d s.data = conflicts ∧ s = s₁ := by
    simpa using hconfs
  obtain ⟨_, s₂, hchk, h2⟩ := run_bind_ok.mp h1
  obtain ⟨-, rfl⟩ := failIf_run_ok.mp hchk
  obtain ⟨raw, _, hraw, h3⟩ := run_bind_ok.mp h2
  obtain rfl := (Prod.ext_iff.mp hraw).2
  cases raw with
  | none => simp at h3
  | some raw =>
    simp only at h3
    split at h3
    · simp at h3
    · obtain ⟨_, s4, hreset, h4⟩ := run_bind_ok.mp h3
      -- a row in conflict is resolved first, and must be clear after that
      have hs4 : s4 = s₂.resetRow P d ∧ policyConflicts P d s4.data = [] := by
        rw [skipIf_run] at hreset
        split at hreset
        · rename_i hempty
          rw [List.isEmpty_iff] at hempty
          obtain rfl := (Prod.ext_iff.mp hreset).2
          refine ⟨?_, hempty⟩
          rw [Replica.resetRow, hempty]
          rfl
        · obtain ⟨_, s5, hresv, hclear⟩ := run_bind_ok.mp hreset
          obtain ⟨hclean, rfl⟩ := clear_run_ok.mp hclear
          exact ⟨(Prod.ext_iff.mp hresv).2.symm, hclean⟩
      obtain ⟨rfl, hclean⟩ := hs4
      obtain ⟨found, s5, hrec, h5⟩ := run_bind_ok.mp h4
      rw [record_run_of_clear hP hclean] at hrec
      obtain ⟨rfl, rfl⟩ : policyRow P (s₂.resetRow P d).data d = found ∧
          s₂.resetRow P d = s5 := by simpa using hrec
      obtain ⟨_, _, hfound, h6⟩ := run_bind_ok.mp h5
      obtain ⟨hrow, rfl⟩ := okOr_run_ok.mp hfound
      have hexit := policyRow_cleared hrow
      rw [← selectionCleared_iff hP] at hexit
      refine ⟨hclean, by rw [hrow]; rfl, ?_⟩
      split at h6
      · rename_i hclr
        exact .inl ⟨hexit.mp hclr, (Prod.ext_iff.mp h6).2.symm⟩
      · rename_i hclr
        obtain ⟨_, _, hexe, h7⟩ := run_bind_ok.mp h6
        obtain ⟨_, _, hclear, h8⟩ := run_bind_ok.mp h7
        obtain ⟨-, rfl⟩ := clear_run_ok.mp hclear
        refine .inr ⟨fun hyes => hclr (hexit.mpr hyes), ?_⟩
        obtain rfl := (Prod.ext_iff.mp h8).2
        exact (Prod.ext_iff.mp hexe).2.symm

/-- The policy row and the rows of the resources have no column in common. -/
lemma resetRow_resource (hc : c ∈ resourceColumns) (x : Id) :
    (s.resetRow P d).data.cells c x = s.data.cells c x := by
  refine modifyRow_of_notMem (column_ne_of_policy (fun a ha => ?_) hc)
  obtain ⟨_, hmem, hnull⟩ := mem_filterMap.mp ha
  obtain ⟨_, hc', -, rfl⟩ := mem_rowConflictValues.mp hmem
  rw [(nullAssignment_eq_some hnull).1]
  exact hc'

/-- Clearing the policy leaves the resource rows alone. -/
lemma after_deselect_resource (hc : c ∈ resourceColumns) (x : Id) :
    (s.after P (.updatePolicy d (selectionAssignments none none none))).data.cells c x =
      s.data.cells c x :=
  after_updatePolicy_of_notMem
    (column_ne_of_policy (by simp [selectionAssignments, policyColumns]) hc) ..

/-! ## Listing the resources of a device -/

/-- The answer for one row does not depend on the others having been asked for before. -/
lemma rowSelected_eval_after (hP : P.Lawful) (hn : NamedRows P s.data)
    {row row' : ResourceSelection} (hid : P.resourceSelectionId d row.ownerSubject
      row.applicationId row.selectedKind row.selectedId ≠ P.resourceSelectionId d row'.ownerSubject
      row'.applicationId row'.selectedKind row'.selectedId) :
    (rowSelected P d row').eval ((rowSelected P d row).run s).2 = (rowSelected P d row').eval s := by
  have hn' : NamedRows P ((rowSelected P d row).run s).2.data := by
    have hreach : QuietRun P s
        ((rowSelected P d row).run s).2 := (rowSelected_reaches hP d row).run s
    exact hn.steps hP hreach
  unfold rowSelected at hn' ⊢
  by_cases hasked' : (row'.deviceId == d && row'.selected) = true
  · rw [if_pos hasked']
    by_cases hasked : (row.deviceId == d && row.selected) = true
    · rw [if_pos hasked] at hn' ⊢
      exact resourceSelected_congr hP hn hn' fun c _ =>
        resourceSelected_frame hP hn (.inr hid.symm)
    · rw [if_neg hasked]
      rfl
  · rw [if_neg hasked']
    rfl

/-- The list is empty exactly when none of the rows is answered with yes, or with an error. -/
lemma collectSelected_eq_nil_iff (hP : P.Lawful) (hn : NamedRows P s.data)
    {rows : List ResourceSelection} (hrows : rows.Pairwise fun row row' =>
      P.resourceSelectionId d row.ownerSubject row.applicationId row.selectedKind row.selectedId ≠
        P.resourceSelectionId d row'.ownerSubject row'.applicationId row'.selectedKind
          row'.selectedId) :
    (collectSelected P d rows).eval s = .ok [] ↔
      ∀ row ∈ rows, (rowSelected P d row).eval s = .ok false := by
  induction rows generalizing s with
  | nil => simp [collectSelected]
  | cons row rows ih =>
    obtain ⟨hrow, hrows⟩ := pairwise_cons.mp hrows
    have hreach : QuietRun P s
        ((rowSelected P d row).run s).2 := (rowSelected_reaches hP d row).run s
    have hrest := ih (hn.steps hP hreach) hrows
    have hothers : (∀ row' ∈ rows, (rowSelected P d row').eval ((rowSelected P d row).run s).2 =
        .ok false) ↔ ∀ row' ∈ rows, (rowSelected P d row').eval s = .ok false :=
      forall₂_congr fun row' hmem => by rw [rowSelected_eval_after hP hn (hrow row' hmem)]
    rw [hothers] at hrest
    rw [forall_mem_cons, ← hrest]
    unfold Task.eval
    rw [collectSelected]
    simp only [run_bind]
    rcases (rowSelected P d row).run s with ⟨answer | answer, s₁⟩
    · simp
    · simp only
      rcases (collectSelected P d rows).run s₁ with ⟨- | -, -⟩
      · simp
      · cases answer with
        | false => simp
        | true => simp

/-- The rows of a device are those that name it. -/
lemma mem_deviceRows (hn : NamedRows P data) {row : ResourceSelection} :
    row ∈ deviceRows P d data ↔ ∃ x, resourceRow P data x = some row ∧ row.deviceId = d := by
  rw [deviceRows, mem_filter, mem_filterMap]
  constructor
  · rintro ⟨⟨x, -, hrow⟩, hdev⟩
    exact ⟨x, hrow, by simpa using hdev⟩
  · rintro ⟨x, hrow, hdev⟩
    have hkey : x ∈ data.keys := (hn.keyed x (by rw [hrow]; rfl)).1
    exact ⟨⟨x, (Finset.mem_sort _).mpr hkey, hrow⟩, by simpa using hdev⟩

/-- The rows of a device have distinct identifiers. -/
lemma deviceRows_pairwise (hP : P.Lawful) (hn : NamedRows P data) :
    (deviceRows P d data).Pairwise fun row row' =>
      P.resourceSelectionId d row.ownerSubject row.applicationId row.selectedKind row.selectedId ≠
        P.resourceSelectionId d row'.ownerSubject row'.applicationId row'.selectedKind
          row'.selectedId := by
  have hids : (deviceRows P d data).Pairwise fun row row' => row.id ≠ row'.id := by
    refine List.Pairwise.filter _ (pairwise_filterMap.mpr ?_)
    refine (Finset.sort_nodup data.keys (· ≤ ·)).imp fun {x y} hne row hrow row' hrow' => ?_
    rw [(resourceRow_eq_some.mp hrow).1, (resourceRow_eq_some.mp hrow').1]
    exact hne
  -- the identifier of a row of the device is the key of its contents
  have hkey : ∀ row ∈ deviceRows P d data, row.id = P.resourceSelectionId d row.ownerSubject
      row.applicationId row.selectedKind row.selectedId := by
    intro row hmem
    obtain ⟨x, hrow, rfl⟩ := (mem_deviceRows hn).mp hmem
    obtain ⟨-, d, o, a, k, r, rfl⟩ := hn.keyed x (by rw [hrow]; rfl)
    rw [hn.row_eq hP hrow]
  refine hids.imp_of_mem fun {row row'} hmem hmem' hne => ?_
  rw [← hkey row hmem, ← hkey row' hmem']
  exact hne

/-- No row of the device is answered with yes, or with an error. -/
def NoneSelected (P : Platform) (s : Replica) (d : Id) : Prop :=
  ∀ x row, resourceRow P s.data x = some row → row.deviceId = d →
    (rowSelected P d row).eval s = .ok false

/-- The list is empty exactly where nothing is selected. -/
lemma selectedResourcesForDevice_eq_nil_iff (hP : P.Lawful) (hn : NamedRows P s.data) :
    (selectedResourcesForDevice P d).eval s = .ok [] ↔ NoneSelected P s d := by
  have hcollect := collectSelected_eq_nil_iff hP hn (deviceRows_pairwise (d := d) hP hn)
  have heval : (selectedResourcesForDevice P d).eval s =
      (collectSelected P d (deviceRows P d s.data)).eval s := by
    simp [selectedResourcesForDevice, Task.eval, run_bind]
  rw [heval, hcollect]
  constructor
  · intro h x row hrow hdev
    exact h row ((mem_deviceRows hn).mpr ⟨x, hrow, hdev⟩)
  · intro h row hmem
    obtain ⟨x, hrow, hdev⟩ := (mem_deviceRows hn).mp hmem
    exact h x row hrow hdev

/-- Selectedness depends on the resource columns alone. -/
lemma NoneSelected.congr (hP : P.Lawful) (hn : NamedRows P s.data) (hn' : NamedRows P s'.data)
    (h : ∀ c ∈ resourceColumns, ∀ x, s'.data.cells c x = s.data.cells c x) :
    NoneSelected P s' d ↔ NoneSelected P s d := by
  have hrow : ∀ x, resourceRow P s'.data x = resourceRow P s.data x := fun x =>
    resourceRow_congr fun c hc => h c hc x
  have heval : ∀ row, (rowSelected P d row).eval s' = (rowSelected P d row).eval s := by
    intro row
    unfold rowSelected
    split
    · exact resourceSelected_congr hP hn hn' fun c hc => h c hc _
    · rfl
  unfold NoneSelected
  simp only [hrow, heval]

/-! ## Deselected devices -/

/-- No resource of the device is selected, whatever else may be in its rows. -/
def Deselected (P : Platform) (data : Data) (d : Id) : Prop :=
  ∀ o a k r, Unselected data (P.resourceSelectionId d o a k r)

/-- Where nothing reads as selected, every row is deselected. -/
lemma NoneSelected.deselected (hP : P.Lawful) (hn : NamedRows P s.data)
    (h : NoneSelected P s d) : Deselected P s.data d := by
  intro o a k r
  by_cases hwrit : ∃ w, w ∈ s.data.cells .selected (P.resourceSelectionId d o a k r)
  · right
    obtain ⟨row, hrow⟩ := isSome_iff_exists.mp (hn.complete _ .selected (by decide) hwrit)
    have hans := h _ row hrow (by rw [hn.row_eq hP hrow])
    obtain ⟨-, -, -, -, -, -, hread⟩ := resourceRow_eq_some.mp hrow
    have heq := hn.row_eq hP hrow
    cases hsel : row.selected with
    | false =>
      rw [hsel] at hread
      exact hP.rules.mem_values_of_read hread
    | true =>
      -- the row reads as selected, so the answer was no because of a conflict
      rw [heq, rowSelected] at hans
      simp only [hsel, beq_self_eq_true, Bool.and_self, if_true] at hans
      rw [Task.eval, resourceSelected_run hP d o a k r s hn] at hans
      split at hans
      · simp [hrow, hsel] at hans
      · rename_i has
        rcases resourceResolution_cases has with ⟨hnil, -⟩ | ⟨-, hfalse, -⟩
        · cases hnil
        · exact hfalse
      · cases hans
  · push Not at hwrit
    exact .inl hwrit

/-- Deselecting by device empties the rows of the device. -/
lemma noneSelected_after_update (hP : P.Lawful) (hn : NamedRows P s.data) :
    NoneSelected P (s.after P (.updateResource (.hasDevice d) false)) d := by
  intro x row hrow hdev
  obtain ⟨-, hd, -, -, -, -, hread⟩ := resourceRow_eq_some.mp hrow
  rw [after_updateResource_of_ne (by decide)] at hd
  -- the row stood before, with the same device
  obtain ⟨w, hw, -⟩ := hP.rules.mem_of_read hd
  obtain ⟨_, hold⟩ := isSome_iff_exists.mp (hn.complete x .deviceId (by decide) ⟨w, hw⟩)
  have hmatch : matchesRow P (.hasDevice d) s.data x = true := by
    obtain ⟨-, hd', -⟩ := resourceRow_eq_some.mp hold
    rw [hd] at hd'
    rw [matchesRow, hold, any_some, ResourcePredicate.holds, ← some.inj hd', hdev]
    exact beq_self_eq_true d
  rw [after_updateResource_selected, if_pos hmatch, hP.rules.read_assign] at hread
  rw [rowSelected, ← some.inj hread, Bool.and_false, if_neg Bool.false_ne_true]
  rfl

/-- A successful deselection leaves nothing selected exactly when it did not return early or there
was nothing selected. -/
lemma deselectOwned_noneSelected (hP : P.Lawful) (hn : NamedRows P s.data)
    (h : (deselectOwned P d o).run s = (.ok true, s')) :
    NamedRows P s'.data ∧
      (NoneSelected P s' d ↔ ¬SelectionCleared P s.data d ∨ NoneSelected P s d) := by
  have hn' : NamedRows P s'.data := by
    have hreach : QuietRun P s _ := (deselectOwned_reaches hP d o).of_run h
    exact hn.steps hP hreach
  refine ⟨hn', ?_⟩
  obtain ⟨-, -, ⟨hclr, rfl⟩ | ⟨hclr, rfl⟩⟩ := deselectOwned_run_ok hP h
  · have hsame : NoneSelected P (s.resetRow P d) d ↔ NoneSelected P s d :=
      NoneSelected.congr hP hn hn' fun c hc x => resetRow_resource hc x
    rw [hsame]
    exact ⟨.inr, fun h => h.resolve_left fun hnot => hnot hclr⟩
  · have hreset : PolicyStep P (fun _ => False) (fun _ => False) s (s.resetRow P d) :=
      resetRow_step hP s d
    have hn1 : NamedRows P (s.resetRow P d).data := hn.step hP hreset
    have hdeselect : PolicyStep P (fun _ => False) (fun _ => False) (s.resetRow P d)
        ((s.resetRow P d).after P (.updateResource (.hasDevice d) false)) := .deselect _
    have hn2 : NamedRows P ((s.resetRow P d).after P (.updateResource (.hasDevice d) false)).data :=
      hn1.step hP hdeselect
    have hnone := noneSelected_after_update (d := d) hP hn1
    rw [← NoneSelected.congr hP hn2 hn' fun c hc x => after_deselect_resource hc x] at hnone
    exact ⟨fun _ => .inl hclr, fun _ => hnone⟩

/-! ## Until something is selected again -/

/-- Only a selection of this device ends its deselection. -/
lemma Deselected.step (hP : P.Lawful)
    (h : PolicyStep P selects restores s s') (hd : ¬selects d) (hs : Deselected P s.data d) :
    Deselected P s'.data d := by
  intro o a k r
  rcases h.resource (P.resourceSelectionId d o a k r) with
    ⟨-, hsel⟩ | ⟨d', o', a', k', r', hselects, hid, -, -⟩
  · cases hsel with
    | unchanged hcells =>
      rw [Unselected, hcells]
      exact hs o a k r
    | settled _ hcells =>
      right
      rw [hcells]
      exact mem_values_write.mpr rfl
    | assigned _ v hselect hcells =>
      have hv : v = false := by
        by_contra hv
        obtain ⟨d', o', a', k', r', hselects, hid⟩ := hselect (by simpa using hv)
        obtain ⟨rfl, -⟩ := hP.selectionId_injective hid
        exact hd hselects
      right
      rw [hcells, hv]
      exact hP.rules.mem_values_of_read (hP.rules.read_assign _ _)
  · obtain ⟨rfl, -⟩ := hP.selectionId_injective hid
    exact absurd hselects hd

/-- Hence no run without one does. -/
lemma Deselected.steps (hP : P.Lawful)
    (h : Relation.ReflTransGen (PolicyStep P selects restores) s s') (hd : ¬selects d)
    (hs : Deselected P s.data d) : Deselected P s'.data d := by
  induction h with
  | refl => exact hs
  | tail _ hstep ih => exact ih.step hP hstep hd

/-- What comes in from another replica selects nothing, if it has no selection that is new. -/
lemma Deselected.merge {data data' : Data} (hs : Deselected P data d)
    (hnew : ∀ o a k r, ∀ w ∈ data'.cells .selected (P.resourceSelectionId d o a k r),
      w.value = true → w ∈ data.cells .selected (P.resourceSelectionId d o a k r)) :
    Deselected P (data.merge data') d := by
  intro o a k r
  have hfalse : ∀ w ∈ (data.merge data').cells .selected (P.resourceSelectionId d o a k r),
      w ∉ data.cells .selected (P.resourceSelectionId d o a k r) → w.value = false := by
    intro w hw hold
    by_contra htrue
    have hmem := (mem_or_mem_of_merge hw).resolve_left hold
    exact hold (hnew o a k r w hmem (by simpa using htrue))
  rcases hs o a k r with hempty | hvis
  · by_cases hwrit : ∃ w, w ∈
        (data.merge data').cells .selected (P.resourceSelectionId d o a k r)
    · obtain ⟨w, hw⟩ := hwrit
      obtain ⟨x, hx, -⟩ := exists_live hw trivial fun _ _ _ _ _ _ => trivial
      exact .inr (mem_values.mpr ⟨x, hx, hfalse x (mem_live.mp hx).1 (hempty x)⟩)
    · push Not at hwrit
      exact .inl hwrit
  · right
    exact mem_values.mpr (exists_live_merge
      (fun w hw hold _ => hfalse w hw hold) (mem_values.mp hvis))

/-- A pair with a deselected device is not admitted. -/
lemma peersSelectedForSync_deselected (hP : P.Lawful) (hn : NamedRows P s.data)
    {records : List Device} {device : Device} {localKey remoteKey : String} {a : Id} {k : String}
    {r : Id} (hmem : device ∈ records)
    (hkey : device.publicKey = localKey ∨ device.publicKey = remoteKey)
    (hs : Deselected P s.data device.id) :
    (peersSelectedForSync P (.ok records) localKey remoteKey o a k r).eval s ≠ .ok true := by
  refine peersSelectedForSync_ne_true hP
    (I := fun s => NamedRows P s.data ∧ Deselected P s.data device.id)
    (fun s s' hreach hs => ⟨hs.1.steps hP hreach, hs.2.steps hP hreach id⟩)
    (fun s s' hs hadmits => ?_) hkey ⟨hn, hs⟩
  obtain ⟨_, _, hget, -, hsel⟩ := admitPeer_run_ok hmem hadmits
  have hreach : QuietRun P s _ := (get_reaches hP ..).of_run hget
  exact resourceSelected_ne_true hP (hs.1.steps hP hreach) (hs.2.steps hP hreach id o a k r)
    (congrArg fst hsel)

end

/-- A step that brings replica `i` no selection for the device, neither by a call there nor from
another replica. -/
inductive System.QuietStep (P : Platform) (i : ℕ) (d : Id) (s : System) : System → Prop
  | operate (j : ℕ) (op : Operation) (h : j = i → ¬op.Selects d) :
      QuietStep P i d s (s.operate P j op)
  | merge (j k : ℕ) (h : j = i → ∀ o a kind r,
      ∀ w ∈ (s.replicas k).cells .selected (P.resourceSelectionId d o a kind r), w.value = true →
        w ∈ (s.replicas i).cells .selected (P.resourceSelectionId d o a kind r)) :
      QuietStep P i d s (s.merge j k)

section
variable {P : Platform} {s s' : System} {i : ℕ} {d : Id}

lemma System.QuietStep.step (h : System.QuietStep P i d s s') : System.Step P s s' := by
  cases h with
  | operate j op _ => exact .operate j op
  | merge j k _ => exact .merge j k

/-- Merging another quiet replica does not end it either. -/
lemma Deselected.quietStep (hP : P.Lawful) (h : System.QuietStep P i d s s')
    (hs : Deselected P (s.replicas i) d) : Deselected P (s'.replicas i) d := by
  cases h with
  | operate j op hquiet =>
    by_cases hij : i = j
    · subst hij
      rw [System.operate_self]
      exact hs.steps hP (op.perform_reaches hP ⟨i, s.replicas i⟩) (hquiet rfl)
    · rw [System.operate_of_ne hij]
      exact hs
  | merge j k hquiet =>
    by_cases hij : i = j
    · subst hij
      rw [System.merge_self]
      exact hs.merge (hquiet rfl)
    · rw [System.merge_of_ne hij]
      exact hs

lemma Deselected.quietSteps (hP : P.Lawful)
    (h : Relation.ReflTransGen (System.QuietStep P i d) s s') (hs : Deselected P (s.replicas i) d)
    (hreach : s.Reachable P) : Deselected P (s'.replicas i) d ∧ s'.Reachable P := by
  induction h with
  | refl => exact ⟨hs, hreach⟩
  | tail _ hstep ih => exact ⟨ih.1.quietStep hP hstep, ih.2.tail hstep.step⟩

end

/-- After a successful deselection the list of the device is empty, and the device is admitted for
nothing until something is selected for it again, exactly when the call did not return early or
nothing was selected before. -/
theorem deselectOwned_deselects_iff (P : Platform) (hP : P.Lawful) (s : System)
    (hs : s.Reachable P) (i : ℕ) (d : Id) (o : String) (r : Replica)
    (h : (deselectOwned P d o).run ⟨i, s.replicas i⟩ = (.ok true, r)) :
    ((selectedResourcesForDevice P d).eval r = .ok [] ∧
      ∀ s', Relation.ReflTransGen (System.QuietStep P i d) (s.operate P i (.deselect d o)) s' →
        ∀ (records : List Device) (device : Device) (localKey remoteKey o' : String) (a : Id)
          (k : String) (id : Id), device ∈ records → device.id = d →
          device.publicKey = localKey ∨ device.publicKey = remoteKey →
            (peersSelectedForSync P (.ok records) localKey remoteKey o' a k id).eval
              ⟨i, s'.replicas i⟩ ≠ .ok true) ↔
      ¬SelectionCleared P (s.replicas i) d ∨ NoneSelected P ⟨i, s.replicas i⟩ d := by
  obtain ⟨hn, hnone⟩ := deselectOwned_noneSelected hP (hs.namedRows hP i) h
  rw [← hnone, ← selectedResourcesForDevice_eq_nil_iff hP hn]
  refine ⟨fun hall => hall.1, fun hempty => ⟨hempty, ?_⟩⟩
  intro s' hquiet records device localKey remoteKey o' a k id hmem hid hkey
  have hdesel : Deselected P ((s.operate P i (.deselect d o)).replicas i) d := by
    rw [System.operate_self]
    have hdata : s.result P i (.deselect d o) = r.data := by
      rw [System.result, Operation.perform, h]
    rw [hdata]
    exact ((selectedResourcesForDevice_eq_nil_iff hP hn).mp hempty).deselected hP hn
  obtain ⟨hlater, hreach⟩ :=
    hdesel.quietSteps hP hquiet (hs.tail (.operate i (.deselect d o)))
  subst hid
  exact peersSelectedForSync_deselected hP (hreach.namedRows hP i) hmem hkey hlater

open Reference

/-- A deselection of the only resource that is selected. -/
theorem deselectOwned_deselects_iff_reference :
    (deselectOwned platform 1 "owner").eval ⟨0, selected.replicas 0⟩ =
      .ok true ∧
    (selectedResourcesForDevice platform 1).eval
      ((deselectOwned platform 1 "owner").run ⟨0, selected.replicas 0⟩).2 =
        .ok [] := by
  have hok : (deselectOwned platform 1 "owner").eval
      ⟨0, selected.replicas 0⟩ = .ok true := by decide +kernel
  have hnot : ¬SelectionCleared platform (selected.replicas 0) 1 := by
    intro hclr
    have hcolumn := hclr .selectedId rfl
    revert hcolumn
    decide +kernel
  exact ⟨hok, ((deselectOwned_deselects_iff platform platform_lawful _
    selected_reachable 0 1 "owner" _ (Prod.ext hok rfl)).mpr (.inl hnot)).1⟩

/-- One replica deselects everything while the other one selects database 5, and then hears of it. -/
def reselected : System :=
  ((common.operate platform 0 (.deselect 1 "owner")).operate platform
    1 (.setPolicy (choice 5))).merge 0 1

lemma reselected_reachable : reselected.Reachable platform :=
  ((common_reachable.tail (.operate 0 _)).tail (.operate 1 _)).tail (.merge 0 1)

/-- A deselection that succeeds and leaves a resource selected. -/
theorem deselectOwned_leaves_selected :
    reselected.Reachable platform ∧
    (deselectOwned platform 1 "owner").eval ⟨0, reselected.replicas 0⟩ = .ok true ∧
    (resourceSelected platform 1 "owner" 3 "database" 5).eval
      ((deselectOwned platform 1 "owner").run ⟨0, reselected.replicas 0⟩).2 =
        .ok true ∧
    (selectedResourcesForDevice platform 1).eval
      ((deselectOwned platform 1 "owner").run ⟨0, reselected.replicas 0⟩).2 ≠ .ok [] := by
  have hok : (deselectOwned platform 1 "owner").eval ⟨0, reselected.replicas 0⟩ =
      .ok true := by decide +kernel
  have hsel : (resourceSelected platform 1 "owner" 3 "database" 5).eval
      ((deselectOwned platform 1 "owner").run ⟨0, reselected.replicas 0⟩).2 =
        .ok true := by decide +kernel
  obtain ⟨hn, -⟩ := deselectOwned_noneSelected platform_lawful
    (reselected_reachable.namedRows platform_lawful 0) (Prod.ext hok rfl)
  refine ⟨reselected_reachable, hok, hsel, fun hempty => ?_⟩
  have hnone := (selectedResourcesForDevice_eq_nil_iff platform_lawful hn).mp hempty
  exact resourceSelected_ne_true platform_lawful hn
    (hnone.deselected platform_lawful hn "owner" 3 "database" 5) hsel

end LocalPlatform.Management
