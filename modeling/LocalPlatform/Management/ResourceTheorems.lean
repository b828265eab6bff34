import LocalPlatform.Management.RecordTheorems

/-!
# Rows of resource selections

The row of a resource selection stands under the key that is computed from its contents, in every
replica that can come about. From this follows what `resource_selected` answers.
-/

namespace LocalPlatform.Management

open Resumption MultiValue Register List Option

section
variable {P : Platform} {s s' : Replica} {data data' : Data} {x : Id}

/-! ## Rows -/

/-- The columns of a row that a query returns. -/
lemma resourceRow_eq_some {row : ResourceSelection} : resourceRow P data x = some row ↔
    row.id = x ∧ P.rules.read (data.cells .deviceId x) = some row.deviceId ∧
      P.rules.read (data.cells .resourceOwnerSubject x) = some row.ownerSubject ∧
      P.rules.read (data.cells .resourceApplicationId x) = some row.applicationId ∧
      P.rules.read (data.cells .resourceKind x) = some row.selectedKind ∧
      P.rules.read (data.cells .resourceId x) = some row.selectedId ∧
      P.rules.read (data.cells .selected x) = some row.selected := by
  constructor
  · intro h
    simp only [resourceRow, bind_eq_bind, bind_eq_some_iff] at h
    obtain ⟨d, hd, o, ho, a, ha, k, hk, r, hr, b, hb, hrow⟩ := h
    obtain rfl := some.inj hrow
    exact ⟨rfl, hd, ho, ha, hk, hr, hb⟩
  · rintro ⟨rfl, hd, ho, ha, hk, hr, hb⟩
    simp [resourceRow, hd, ho, ha, hk, hr, hb]

lemma resourceRow_congr (h : ∀ c ∈ resourceColumns, data'.cells c x = data.cells c x) :
    resourceRow P data' x = resourceRow P data x := by
  simp only [resourceColumns, forall_mem_cons] at h
  obtain ⟨hd, ho, ha, hk, hr, hb, -⟩ := h
  rw [resourceRow, resourceRow, hd, ho, ha, hk, hr, hb]

/-- A row exists when all its columns have been written. -/
lemma resourceRow_isSome_iff (hP : P.Lawful) :
    (resourceRow P data x).isSome ↔ ∀ c ∈ resourceColumns, ∃ w, w ∈ data.cells c x := by
  have hread : ∀ c : Column, (P.rules.read (data.cells c x)).isSome ↔ ∃ w, w ∈ data.cells c x :=
    fun c => hP.rules.read_isSome_iff
  simp only [resourceColumns, forall_mem_cons, not_mem_nil, IsEmpty.forall_iff,
    implies_true, and_true, ← hread]
  rw [isSome_iff_exists]
  constructor
  · rintro ⟨_, hrow⟩
    obtain ⟨-, hd, ho, ha, hk, hr, hb⟩ := resourceRow_eq_some.mp hrow
    rw [hd, ho, ha, hk, hr, hb]
    exact ⟨rfl, rfl, rfl, rfl, rfl, rfl⟩
  · simp only [isSome_iff_exists]
    rintro ⟨⟨d, hd⟩, ⟨o, ho⟩, ⟨a, ha⟩, ⟨k, hk⟩, ⟨r, hr⟩, ⟨b, hb⟩⟩
    exact ⟨⟨x, d, o, a, k, r, b⟩, resourceRow_eq_some.mpr ⟨rfl, hd, ho, ha, hk, hr, hb⟩⟩

/-! ## What a step does to a row -/

/-- What a step does to the `selected` column of a row that it does not insert. -/
inductive SelectedStep (P : Platform) (selects : Id → Prop) (s s' : Replica) (x : Id) : Prop
  | unchanged (h : s'.data.cells .selected x = s.data.cells .selected x)
  | settled (hwritten : ∃ w, w ∈ s.data.cells .selected x)
      (h : s'.data.cells .selected x = (s.data.cells .selected x).write s.actor false)
  | assigned (hrow : (resourceRow P s.data x).isSome) (v : Bool)
      (hselect : v = true → ∃ d o a k r, selects d ∧ x = P.resourceSelectionId d o a k r)
      (h : s'.data.cells .selected x = P.rules.assign s.actor v (s.data.cells .selected x))

lemma SelectedStep.of_update {selects : Id → Prop} (predicate : ResourcePredicate) (v : Bool)
    (hselect : v = true → ∃ d o a k r, selects d ∧ predicate =
      .hasId (P.resourceSelectionId d o a k r)) (x : Id) :
    SelectedStep P selects s (s.after P (.updateResource predicate v)) x := by
  have hcells := after_updateResource_selected (P := P) (s := s) predicate v x
  by_cases hmatch : matchesRow P predicate s.data x = true
  · rw [if_pos hmatch] at hcells
    obtain ⟨row, hrow, hholds⟩ : ∃ row, resourceRow P s.data x = some row ∧
        predicate.holds row = true := by
      simpa [matchesRow, Option.any_eq_true] using hmatch
    refine .assigned (by rw [hrow]; rfl) v (fun hv => ?_) hcells
    obtain ⟨d, o, a, k, r, hd, rfl⟩ := hselect hv
    have hid : row.id = P.resourceSelectionId d o a k r := by
      simpa [ResourcePredicate.holds] using hholds
    exact ⟨d, o, a, k, r, hd, (resourceRow_eq_some.mp hrow).1.symm.trans hid⟩
  · rw [if_neg hmatch] at hcells
    exact .unchanged hcells

/-- The two tables have no column in common. -/
lemma notMem_resourceColumns : ∀ c ∈ policyColumns, c ∉ resourceColumns := by decide

lemma column_ne_of_policy {as : List Assignment} (has : ∀ a ∈ as, a.column ∈ policyColumns)
    {c : Column} (hc : c ∈ resourceColumns) : ∀ a ∈ as, a.column ≠ c := by
  rintro a ha rfl
  exact notMem_resourceColumns _ (has a ha) hc

/-- A step leaves the identity of every row alone and changes its `selected` column in one of the
three ways, or it inserts the row. -/
lemma PolicyStep.resource {selects restores : Id → Prop} (h : PolicyStep P selects restores s s')
    (x : Id) :
    ((∀ c ∈ resourceColumns, c ≠ .selected → s'.data.cells c x = s.data.cells c x) ∧
      SelectedStep P selects s s' x) ∨
    ∃ d o a k r, selects d ∧ x = P.resourceSelectionId d o a k r ∧ resourceRow P s.data x = none ∧
      s' = s.after P (.insertResource ⟨x, d, o, a, k, r, true⟩) := by
  have hpol : ∀ s' : Replica, (∀ c ∈ resourceColumns, s'.data.cells c x = s.data.cells c x) →
      (∀ c ∈ resourceColumns, c ≠ .selected → s'.data.cells c x = s.data.cells c x) ∧
        SelectedStep P selects s s' x := fun s' hsame =>
    ⟨fun c hc _ => hsame c hc, .unchanged (hsame .selected (by decide))⟩
  cases h with
  | resolve key as hnodup hsafe hwrit =>
    left
    refine ⟨fun c hc hne => ?_, ?_⟩
    · rcases writeRow_safe s.actor key s.data hnodup hsafe c x with hsame | ⟨-, v, hv, -⟩
      · exact hsame
      -- the columns that identify a row have no safe value
      · have hnone : c.safe = none := by
          simp only [resourceColumns, mem_cons, not_mem_nil, or_false] at hc
          rcases hc with rfl | rfl | rfl | rfl | rfl | rfl
          · rfl
          · rfl
          · rfl
          · rfl
          · rfl
          · exact absurd rfl hne
        rw [hnone] at hv
        cases hv
    · rcases writeRow_safe s.actor key s.data hnodup hsafe .selected x with
        hsame | ⟨rfl, v, hv, hmem, hcells⟩
      · exact .unchanged hsame
      · obtain rfl := some.inj hv
        exact .settled (hwrit _ hmem) hcells
  | deselect predicate =>
    left
    exact ⟨fun c _ hne => after_updateResource_of_ne hne .., .of_update _ _ (fun h => by cases h) x⟩
  | select d o a k r hd =>
    left
    exact ⟨fun c _ hne => after_updateResource_of_ne hne ..,
      .of_update _ _ (fun _ => ⟨d, o, a, k, r, hd, rfl⟩) x⟩
  | choose d a k r =>
    left
    refine hpol _ fun c hc => after_updatePolicy_of_notMem (column_ne_of_policy ?_ hc) ..
    simp [selectionAssignments, policyColumns]
  | restrict d allowed _ =>
    left
    refine hpol _ fun c hc => after_updatePolicy_of_notMem (column_ne_of_policy ?_ hc) ..
    simp [policyColumns]
  | insertPolicy policy _ =>
    left
    refine hpol _ fun c hc => modifyRow_of_notMem (column_ne_of_policy ?_ hc)
    simp [SelectionPolicy.assignments, policyColumns]
  | insertResource d o a k r hd hnew =>
    by_cases hx : x = P.resourceSelectionId d o a k r
    · subst hx
      exact .inr ⟨d, o, a, k, r, hd, rfl, hnew, rfl⟩
    · exact .inl (hpol _ fun c _ => modifyRow_of_ne_key hx)

end

/-! ## Named rows -/

/-- The values of the columns that identify a selection. -/
def Column.identity (d : Id) (o : String) (a : Id) (k : String) (r : Id) :
    (c : Column) → Option c.Value
  | .deviceId => some d
  | .resourceOwnerSubject => some o
  | .resourceApplicationId => some a
  | .resourceKind => some k
  | .resourceId => some r
  | .selected => none
  | .ownerSubject => none
  | .applicationId => none
  | .selectedKind => none
  | .selectedId => none
  | .adminAllowed => none

/-- Rows are complete, a scan of the keys finds them, and each stands under the key that is
computed from its contents. -/
structure NamedRows (P : Platform) (data : Data) : Prop where
  complete : ∀ x, ∀ c ∈ resourceColumns, (∃ w, w ∈ data.cells c x) → (resourceRow P data x).isSome
  keyed : ∀ x, (resourceRow P data x).isSome →
    x ∈ data.keys ∧ ∃ d o a k r, x = P.resourceSelectionId d o a k r
  named : ∀ d o a k r c v, Column.identity d o a k r c = some v →
    ∀ w ∈ data.cells c (P.resourceSelectionId d o a k r), w.value = v

section
variable {P : Platform} {selects restores : Id → Prop} {s s' : Replica} {data data' : Data}
  {d : Id} {o : String} {a : Id} {k : String} {r : Id} {x : Id} {c : Column}

lemma Column.identity_spec {v : c.Value} (h : Column.identity d o a k r c = some v)
    (x : Id) (b : Bool) : ⟨c, v⟩ ∈ (ResourceSelection.mk x d o a k r b).assignments ∧
      c ∈ resourceColumns ∧ c ≠ .selected := by
  cases c <;> cases h <;> simp [ResourceSelection.assignments, resourceColumns]

variable {row : ResourceSelection}

section
variable (hP : P.Lawful)
include hP

/-- The row under the key of a selection is the row of this selection. -/
lemma NamedRows.row_eq (h : NamedRows P data)
    (hrow : resourceRow P data (P.resourceSelectionId d o a k r) = some row) :
    row = ⟨P.resourceSelectionId d o a k r, d, o, a, k, r, row.selected⟩ := by
  have hvalue : ∀ c v v', Column.identity d o a k r c = some v →
      P.rules.read (data.cells c (P.resourceSelectionId d o a k r)) = some v' → v' = v := by
    intro c v v' hv hread
    obtain ⟨w, hw, rfl⟩ := hP.rules.mem_of_read hread
    exact h.named d o a k r c v hv w hw
  obtain ⟨hid, hd, ho, ha, hk, hr, -⟩ := resourceRow_eq_some.mp hrow
  have hd := hvalue .deviceId d _ rfl hd
  have ho := hvalue .resourceOwnerSubject o _ rfl ho
  have ha := hvalue .resourceApplicationId a _ rfl ha
  have hk := hvalue .resourceKind k _ rfl hk
  have hr := hvalue .resourceId r _ rfl hr
  rw [← hid, ← hd, ← ho, ← ha, ← hk, ← hr]

lemma NamedRows.empty : NamedRows P .empty := by
  refine ⟨?_, ?_, ?_⟩
  · rintro x c - ⟨w, hw⟩
    exact absurd hw (notMem_empty w)
  · intro x hx
    obtain ⟨w, hw⟩ := (resourceRow_isSome_iff hP).mp hx .selected (by decide)
    exact absurd hw (notMem_empty w)
  · intro d o a k r c v _ w hw
    exact absurd hw (notMem_empty w)

/-- Merging replicas keeps the names of rows. -/
lemma NamedRows.merge (h : NamedRows P data) (h' : NamedRows P data') :
    NamedRows P (data.merge data') := by
  have hrow : ∀ x, ∀ c ∈ resourceColumns, (∃ w, w ∈ (data.merge data').cells c x) →
      (resourceRow P data x).isSome ∨ (resourceRow P data' x).isSome := by
    rintro x c hc ⟨w, hw⟩
    rcases mem_or_mem_of_merge hw with hw | hw
    · exact .inl (h.complete x c hc ⟨w, hw⟩)
    · exact .inr (h'.complete x c hc ⟨w, hw⟩)
  refine ⟨fun x c hc hw => ?_, fun x hx => ?_, fun d o a k r c v hv w hw => ?_⟩
  · rw [resourceRow_isSome_iff hP]
    intro c' hc'
    rcases hrow x c hc hw with hrow | hrow
    · obtain ⟨y, hy⟩ := (resourceRow_isSome_iff hP).mp hrow c' hc'
      exact exists_mem_merge (.inl hy)
    · obtain ⟨y, hy⟩ := (resourceRow_isSome_iff hP).mp hrow c' hc'
      exact exists_mem_merge (.inr hy)
  · rcases hrow x .selected (by decide) ((resourceRow_isSome_iff hP).mp hx .selected (by decide))
      with hrow | hrow
    · obtain ⟨hkey, hname⟩ := h.keyed x hrow
      exact ⟨Finset.mem_union_left _ hkey, hname⟩
    · obtain ⟨hkey, hname⟩ := h'.keyed x hrow
      exact ⟨Finset.mem_union_right _ hkey, hname⟩
  · rcases mem_or_mem_of_merge hw with hw | hw
    · exact h.named d o a k r c v hv w hw
    · exact h'.named d o a k r c v hv w hw

/-- A policy step keeps them. -/
lemma NamedRows.step (h : PolicyStep P selects restores s s')
    (hn : NamedRows P s.data) : NamedRows P s'.data := by
  have hmono : ∀ c x w, w ∈ s.data.cells c x → w ∈ s'.data.cells c x := fun c x w hw =>
    (h.evolves.2 c x).mem hw
  -- a row that stands after the step stood before, unless the step has inserted it
  have hrow : ∀ x, ∀ c ∈ resourceColumns, (∃ w, w ∈ s'.data.cells c x) →
      (resourceRow P s'.data x).isSome ∧ x ∈ s'.data.keys ∧
        ∃ d o a k r, x = P.resourceSelectionId d o a k r := by
    intro x c hc hw
    rcases h.resource x with ⟨hsame, hsel⟩ | ⟨d, o, a, k, r, -, rfl, -, rfl⟩
    · have hold : (resourceRow P s.data x).isSome := by
        by_cases hne : c = .selected
        · subst hne
          cases hsel with
          | unchanged hcells =>
            rw [hcells] at hw
            exact hn.complete x _ hc hw
          | settled hwrit _ => exact hn.complete x _ hc hwrit
          | assigned hrow v _ _ => exact hrow
        · rw [hsame c hc hne] at hw
          exact hn.complete x c hc hw
      obtain ⟨hkey, hname⟩ := hn.keyed x hold
      rw [resourceRow_isSome_iff hP] at hold ⊢
      exact ⟨fun c hc => (hold c hc).imp fun w hw => hmono c x w hw, h.keys hkey, hname⟩
    · refine ⟨(resourceRow_isSome_iff hP).mpr fun c hc => ?_, ?_, d, o, a, k, r, rfl⟩
      · obtain ⟨v, hcells⟩ := after_insertResource_of_column
          ⟨P.resourceSelectionId d o a k r, d, o, a, k, r, true⟩ hc
        rw [hcells]
        exact ⟨_, mem_write.mpr (.inr rfl)⟩
      · exact mem_keys_modifyRow (by simp [ResourceSelection.assignments])
  refine ⟨fun x c hc hw => (hrow x c hc hw).1, fun x hx => ?_, fun d o a k r c v hv w hw => ?_⟩
  · exact (hrow x .selected (by decide) ((resourceRow_isSome_iff hP).mp hx .selected (by decide))).2
  · obtain ⟨hmem, hc, hne⟩ := Column.identity_spec hv (P.resourceSelectionId d o a k r) true
    rcases h.resource (P.resourceSelectionId d o a k r) with
      ⟨hsame, -⟩ | ⟨d', o', a', k', r', -, hid, -, rfl⟩
    · rw [hsame c hc hne] at hw
      exact hn.named d o a k r c v hv w hw
    · obtain ⟨rfl, rfl, rfl, rfl, rfl⟩ := hP.selectionId_injective hid
      have hcells := after_insertResource_of_mem (P := P) (s := s) hmem
      rw [hcells] at hw
      rcases mem_write.mp hw with hw | rfl
      · exact hn.named d o a k r c v hv w hw
      · rfl

lemma NamedRows.steps (h : Relation.ReflTransGen (PolicyStep P selects restores) s s')
    (hn : NamedRows P s.data) : NamedRows P s'.data := by
  induction h with
  | refl => exact hn
  | tail _ hstep ih => exact ih.step hP hstep

/-- Hence every reachable replica has them. -/
lemma System.Reachable.namedRows {s : System} (h : s.Reachable P) (i : ℕ) :
    NamedRows P (s.replicas i) := by
  induction h generalizing i with
  | refl => exact .empty hP
  | tail _ hstep ih =>
    cases hstep with
    | operate j op =>
      by_cases hij : i = j
      · subst hij
        rw [System.operate_self]
        exact (ih i).steps hP (op.perform_reaches hP _)
      · rw [System.operate_of_ne hij]
        exact ih i
    | merge j k =>
      by_cases hij : i = j
      · subst hij
        rw [System.merge_self]
        exact (ih i).merge hP (ih k)
      · rw [System.merge_of_ne hij]
        exact ih i

end

/-! ## What `resource_selected` answers -/

/-- The conflicts of a row can be settled if there are none, or only one about `selected` in which
a deselection is visible. -/
lemma resourceResolution_cases {as : List Assignment}
    (h : (resourceConflicts P x data).mapM resourceResolution = .ok as) :
    as = [] ∧ resourceConflicts P x data = [] ∨
      as = [⟨.selected, false⟩] ∧ false ∈ (data.cells .selected x).values ∧
        ∀ c ∈ resourceColumns, c ≠ .selected → P.rules.isConflicted (data.cells c x) = false := by
  have hcols : as.map (·.column) = (resourceConflicts P x data).map (·.column) :=
    map_eq_of_mapM (fun conflict a ha => by
      obtain ⟨rfl, _, rfl, -⟩ := resourceResolution_ok ha
      rfl) h
  have hnodup : (as.map (·.column)).Nodup := by
    rw [hcols, resourceConflicts, rowConflictValues_columns]
    exact resourceColumns_nodup.filter _
  have hall : ∀ a ∈ as, a = ⟨.selected, false⟩ ∧ false ∈ (data.cells .selected x).values := by
    intro a ha
    obtain ⟨conflict, hmem, hconf⟩ := exists_of_mem_mapM h ha
    obtain ⟨rfl, _, rfl, hfalse⟩ := resourceResolution_ok hconf
    obtain ⟨c, -, -, heq⟩ := mem_rowConflictValues.mp hmem
    cases heq
    exact ⟨rfl, hfalse⟩
  cases as with
  | nil => exact .inl ⟨rfl, map_eq_nil_iff.mp hcols.symm⟩
  | cons a as =>
    obtain ⟨rfl, hfalse⟩ := hall a mem_cons_self
    have hrest : as = [] := by
      rw [eq_nil_iff_forall_not_mem]
      intro b hb
      rw [map_cons, nodup_cons] at hnodup
      refine hnodup.1 (mem_map.mpr ⟨b, hb, ?_⟩)
      rw [(hall b (mem_cons_of_mem _ hb)).1]
    subst hrest
    refine .inr ⟨rfl, hfalse, fun c hc hne => ?_⟩
    by_contra hconf
    rw [Bool.not_eq_false] at hconf
    have hmem : c ∈ (resourceConflicts P x data).map (·.column) := by
      rw [resourceConflicts, rowConflictValues_columns]
      exact mem_filter.mpr ⟨hc, hconf⟩
    rw [← hcols] at hmem
    exact hne (mem_singleton.mp hmem)

section
variable (hP : P.Lawful)
include hP

/-- The query of `resource_selected` compares what the key determines anyway. -/
lemma NamedRows.any_selected (h : NamedRows P data) :
    ((resourceRow P data (P.resourceSelectionId d o a k r)).any fun selection =>
      selection.id == P.resourceSelectionId d o a k r && selection.deviceId == d &&
        selection.ownerSubject == o && selection.applicationId == a &&
        selection.selectedKind == k && selection.selectedId == r && selection.selected) =
      (resourceRow P data (P.resourceSelectionId d o a k r)).any (·.selected) := by
  cases hrow : resourceRow P data (P.resourceSelectionId d o a k r) with
  | none => rfl
  | some row =>
    rw [h.row_eq hP hrow]
    simp

/-- Settling a disagreement about `selected` deselects. -/
lemma any_selected_settled (actor : ℕ) (x : Id) (data : Data) :
    (resourceRow P (writeRow actor x [⟨.selected, false⟩] data) x).any (·.selected) = false := by
  cases hrow : resourceRow P (writeRow actor x [⟨.selected, false⟩] data) x with
  | none => rfl
  | some row =>
    have hread := (resourceRow_eq_some.mp hrow).2.2.2.2.2.2
    have hcells : (writeRow actor x [⟨.selected, false⟩] data).cells .selected x =
        (data.cells .selected x).write actor false :=
      writeRow_of_mem actor (by simp) mem_cons_self
    rw [hcells, hP.rules.read_write] at hread
    exact (some.inj hread).symm

lemma resourceSelected_run (d : Id) (o : String) (a : Id) (k : String) (r : Id)
    (s : Replica) (hn : NamedRows P s.data) :
    (resourceSelected P d o a k r).run s =
      match (resourceConflicts P (P.resourceSelectionId d o a k r) s.data).mapM
        resourceResolution with
      | .ok [] =>
        (.ok ((resourceRow P s.data (P.resourceSelectionId d o a k r)).any (·.selected)), s)
      | .ok (_ :: _) =>
        (.ok false, { s with
          data := writeRow s.actor (P.resourceSelectionId d o a k r) [⟨.selected, false⟩] s.data })
      | .error e => (.error e, s) := by
  have hreach : QuietRun P s ((settleResource P (P.resourceSelectionId d o a k r)).run s).2 :=
    (settleResource_reaches hP _).run s
  have hn' := hn.steps hP hreach
  unfold resourceSelected
  rw [run_bind]
  rw [settleResource_run] at hn' ⊢
  cases has : (resourceConflicts P (P.resourceSelectionId d o a k r) s.data).mapM
      resourceResolution with
  | error e => rfl
  | ok as =>
    rw [has] at hn'
    simp only [run_bind, query_run, Task.run_pure, hn'.any_selected hP]
    rcases resourceResolution_cases has with ⟨rfl, -⟩ | ⟨rfl, -, -⟩
    · rfl
    · simp only [any_selected_settled hP]

/-- Asking for a row leaves everything alone but its `selected` column. -/
lemma resourceSelected_frame (hn : NamedRows P s.data) {x : Id}
    (h : c ≠ .selected ∨ x ≠ P.resourceSelectionId d o a k r) :
    ((resourceSelected P d o a k r).run s).2.data.cells c x = s.data.cells c x := by
  rw [resourceSelected_run hP d o a k r s hn]
  split
  · rfl
  · rcases h with hc | hx
    · exact modifyRow_of_notMem (by simpa using hc.symm)
    · exact modifyRow_of_ne_key hx
  · rfl

/-- The answer depends on nothing but the row. -/
lemma resourceSelected_congr (hn : NamedRows P s.data) (hn' : NamedRows P s'.data)
    (h : ∀ c ∈ resourceColumns, s'.data.cells c (P.resourceSelectionId d o a k r) =
      s.data.cells c (P.resourceSelectionId d o a k r)) :
    (resourceSelected P d o a k r).eval s' = (resourceSelected P d o a k r).eval s := by
  have hconfs : resourceConflicts P (P.resourceSelectionId d o a k r) s'.data =
      resourceConflicts P (P.resourceSelectionId d o a k r) s.data := by
    unfold resourceConflicts rowConflictValues
    refine filterMap_congr fun c hc => ?_
    rw [h c hc]
  unfold Task.eval
  rw [resourceSelected_run hP d o a k r s hn, resourceSelected_run hP d o a k r s' hn', hconfs,
    resourceRow_congr h]
  split
  · rfl
  · rfl
  · rfl

end

/-- There is no row, or a deselection is visible in it. -/
def Unselected (data : Data) (x : Id) : Prop :=
  (∀ w, w ∉ data.cells .selected x) ∨ false ∈ (data.cells .selected x).values

/-- The row of a selection without conflicts, and selected. -/
def SelectedRow (P : Platform) (data : Data) (d : Id) (o : String) (a : Id) (k : String) (r : Id) :
    Prop :=
  resourceConflicts P (P.resourceSelectionId d o a k r) data = [] ∧
    resourceRow P data (P.resourceSelectionId d o a k r) =
      some ⟨P.resourceSelectionId d o a k r, d, o, a, k, r, true⟩

/-- An unselected row does not answer yes. -/
lemma resourceSelected_ne_true (hP : P.Lawful) (hn : NamedRows P s.data)
    (h : Unselected s.data (P.resourceSelectionId d o a k r)) :
    (resourceSelected P d o a k r).eval s ≠ .ok true := by
  intro heval
  unfold Task.eval at heval
  rw [resourceSelected_run hP d o a k r s hn] at heval
  split at heval
  · rename_i has
    have hclean : resourceConflicts P (P.resourceSelectionId d o a k r) s.data = [] := by
      rcases resourceResolution_cases has with ⟨-, hclean⟩ | ⟨hne, -⟩
      · exact hclean
      · cases hne
    have hclear := rowConflictValues_eq_nil.mp hclean .selected (by decide)
    obtain ⟨row, hrow, hsel⟩ : ∃ row,
        resourceRow P s.data (P.resourceSelectionId d o a k r) = some row ∧ row.selected = true := by
      simpa [Option.any_eq_true] using heval
    obtain ⟨-, -, -, -, -, -, hread⟩ := resourceRow_eq_some.mp hrow
    rw [hsel] at hread
    rcases h with hempty | hfalse
    · obtain ⟨w, hw, -⟩ := hP.rules.mem_of_read hread
      exact hempty w hw
    · have := hP.rules.eq_of_not_isConflicted hclear (hP.rules.mem_values_of_read hread) hfalse
      cases this
  · simp at heval
  · simp at heval

/-- A selected row without conflict answers yes. -/
lemma resourceSelected_of_selectedRow (hP : P.Lawful) (hn : NamedRows P s.data)
    (h : SelectedRow P s.data d o a k r) : (resourceSelected P d o a k r).run s = (.ok true, s) := by
  rw [resourceSelected_run hP d o a k r s hn, h.1, h.2]
  rfl

end

end LocalPlatform.Management
