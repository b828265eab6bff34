import LocalPlatform.Management.ResourceTheorems

/-!
# Selecting a resource for a device

A successful `set_prevalidated` with a selection leaves the row of the resource selected and free
of conflicts, touches no other row of a resource, and leaves the policy row without conflicts.
-/

namespace LocalPlatform.Management

open Resumption MultiValue List Prod Option

section
variable {P : Platform} {s s' : Replica} {d : Id} {o : String} {a : Id} {k : String} {r : Id}

/-! ## What a task writes -/

/-- A step that writes only where it may. -/
def Touches (T : Column → Id → Prop) (s s' : Replica) : Prop :=
  ∀ c x, ¬T c x → s'.data.cells c x = s.data.cells c x

variable {T : Column → Id → Prop} {key : Id} {b : Bool} {u : Unit} {c : Column}

/-- A cell outside `T` is left alone by a whole run. -/
lemma Touches.cells (h : Relation.ReflTransGen (Touches T) s s') {x : Id} (hT : ¬T c x) :
    s'.data.cells c x = s.data.cells c x := by
  induction h with
  | refl => rfl
  | tail _ hstep ih => exact (hstep c x hT).trans ih

lemma Touches.modifyRow {f : (a : Assignment) → Register a.column.Value → Register a.column.Value}
    {as : List Assignment} (h : ∀ a ∈ as, T a.column key) :
    Touches T s { s with data := modifyRow f key as s.data } := by
  intro c x hT
  by_cases hx : x = key
  · subst hx
    refine modifyRow_of_notMem fun a ha heq => hT ?_
    rw [← heq]
    exact h a ha
  · exact modifyRow_of_ne_key hx

lemma Touches.updatePolicy {as : List Assignment} (h : ∀ a ∈ as, T a.column key) :
    Touches T s (s.after P (.updatePolicy key as)) := by
  intro c x hT
  rw [after_updatePolicy]
  split
  · exact Touches.modifyRow (s := s) h c x hT
  · rfl

lemma Touches.updateResource (h : T .selected key) (v : Bool) :
    Touches T s (s.after P (.updateResource (.hasId key) v)) := by
  intro c x hT
  by_cases hc : c = .selected
  · subst hc
    rw [after_updateResource_selected, if_neg]
    intro hmatch
    obtain ⟨row, hrow, hid⟩ : ∃ row, resourceRow P s.data x = some row ∧ row.id = key := by
      simpa [matchesRow, Option.any_eq_true, ResourcePredicate.holds] using hmatch
    rw [← hid, (resourceRow_eq_some.mp hrow).1] at h
    exact hT h
  · exact after_updateResource_of_ne hc ..

/-- Settling the conflicts of a row writes columns of this row. -/
lemma Touches.resolve {columns : List Column} {f : ColumnConflict → ManagementResult Assignment}
    (hf : ∀ conflict a, f conflict = .ok a → a.column = conflict.column) {as : List Assignment}
    (h : (rowConflictValues P columns s.data key).mapM f = .ok as) (hT : ∀ c ∈ columns, T c key) :
    Touches T s { s with data := writeRow s.actor key as s.data } := by
  refine .modifyRow fun a ha => hT _ ?_
  have hmem : a.column ∈ as.map (·.column) := mem_map_of_mem ha
  rw [map_eq_of_mapM hf h, rowConflictValues_columns] at hmem
  exact mem_of_mem_filter hmem

/-- Reading a policy touches its own row only. -/
lemma record_touches (hT : ∀ c ∈ policyColumns, T c d) : (record P d).Reaches (Touches T) := by
  refine .bind ⟨fun s => ?_⟩ fun _ => .bind (clear_reaches _) fun _ =>
    .bind (.read _ _) fun _ => .bind (clear_reaches _) fun _ => .pure _
  rw [resolveConvergentConflicts_run]
  split
  · exact .single (.resolve (fun _ _ ha => (convergentResolution_ok ha).1) ‹_› hT)
  · exact .refl

/-- A policy, or the given resource row. -/
def OnRow (key : Id) (c : Column) (x : Id) : Prop := c ∈ policyColumns ∨ x = key

lemma not_onRow {x : Id} (hc : c ∈ resourceColumns) (hx : x ≠ key) : ¬OnRow key c x :=
  fun h => h.elim (notMem_resourceColumns c · hc) hx

section
variable (a : Id) (k : String) (r : Id)
  (hrow : ∀ c ∈ resourceColumns, T c (P.resourceSelectionId d o a k r))
include hrow

lemma resourceSelected_touches : (resourceSelected P d o a k r).Reaches (Touches T) := by
  refine .bind ⟨fun s => ?_⟩ fun _ => .bind (.read _ _) fun _ => .pure _
  rw [settleResource_run]
  split
  · refine .single (.resolve (fun _ _ ha => ?_) ‹_› hrow)
    obtain ⟨rfl, -, rfl, -⟩ := resourceResolution_ok ha
    rfl
  · exact .refl

/-- A selection touches the row of its resource only. -/
lemma setResourceSelected_touches :
    (setResourceSelected P ⟨d, o, some a, some k, some r, b⟩).Reaches (Touches T) := by
  refine .bind (resourceSelected_touches a k r hrow) fun already => ?_
  split
  · exact .pure _
  · refine .bind (.bind (.read _ _) fun conflicts => ?_) fun present => ?_
    · split
      · exact .read _ _
      · exact .pure _
    · split
      · exact execute_reaches fun s _ => .updateResource (hrow _ (by decide)) true
      · refine execute_reaches fun s _ => .modifyRow fun b hb => hrow _ ?_
        exact mem_map_of_mem (f := Assignment.column) hb

variable (hpolicy : ∀ c ∈ policyColumns, T c d)
include hpolicy

/-- With the policy's row, that is all a selection touches. -/
lemma setPrevalidated_touches :
    (setPrevalidated P ⟨d, o, some a, some k, some r, b⟩).Reaches (Touches T) := by
  refine .bind (.failIf _ _) fun _ => .bind (record_touches hpolicy) fun old =>
    .bind ?_ fun _ => .bind (.skipIf _ ?_) fun _ => .bind (clear_reaches _) fun _ =>
      setResourceSelected_touches a k r hrow
  · cases old with
    | none => exact .pure _
    | some old =>
      exact .bind (.failIf _ _) fun _ => .bind (.failIf _ _) fun _ => .failIf _ _
  · cases old with
    | none =>
      refine execute_reaches fun s _ => .modifyRow fun b hb => hpolicy _ ?_
      exact mem_map_of_mem (f := Assignment.column) hb
    | some old =>
      simp only [policyStatement]
      split
      · exact ⟨fun s => .refl⟩
      · refine execute_reaches fun s _ => .updatePolicy fun b hb => hpolicy _ ?_
        revert b
        simp [selectionAssignments, policyColumns]

lemma deselectResourceOwned_touches : (deselectResourceOwned P d o a k r).Reaches (Touches T) := by
  refine .bind (record_touches hpolicy) fun policy => ?_
  split
  · exact .pure _
  · split
    · exact .pure _
    · refine .bind (resourceSelected_touches a k r hrow) fun selected => ?_
      split
      · exact .bind (execute_reaches fun s _ => .updateResource (hrow _ (by decide)) false) fun _ =>
          .pure _
      · exact .pure _

end

/-! ## The row of the resource -/

/-- A row that reads as selected without conflict is selected. -/
lemma selectedRow_of_read (hP : P.Lawful) (hn : NamedRows P s.data)
    (hclean : resourceConflicts P (P.resourceSelectionId d o a k r) s.data = [])
    (hread : P.rules.read (s.data.cells .selected (P.resourceSelectionId d o a k r)) = some true) :
    SelectedRow P s.data d o a k r := by
  refine ⟨hclean, ?_⟩
  obtain ⟨w, hw, -⟩ := hP.rules.mem_of_read hread
  obtain ⟨_, hrow⟩ := isSome_iff_exists.mp (hn.complete _ .selected (by decide) ⟨w, hw⟩)
  obtain ⟨-, -, -, -, -, -, hread'⟩ := resourceRow_eq_some.mp hrow
  rw [hread] at hread'
  rw [hrow, hn.row_eq hP hrow, ← some.inj hread']

/-- What a successful question about a row leaves behind. -/
lemma resourceSelected_run_ok (hP : P.Lawful) (hn : NamedRows P s.data) {answer : Bool}
    (h : (resourceSelected P d o a k r).run s = (.ok answer, s')) :
    resourceConflicts P (P.resourceSelectionId d o a k r) s'.data = [] ∧
      (answer = true → SelectedRow P s'.data d o a k r) := by
  rw [resourceSelected_run hP d o a k r s hn] at h
  split at h
  · rename_i has
    obtain ⟨hans, rfl⟩ := mk.inj h
    have hclean : resourceConflicts P (P.resourceSelectionId d o a k r) s.data = [] := by
      rcases resourceResolution_cases has with ⟨-, hclean⟩ | ⟨hne, -⟩
      · exact hclean
      · cases hne
    refine ⟨hclean, fun htrue => ?_⟩
    subst htrue
    obtain ⟨row, hrow, hsel⟩ : ∃ row,
        resourceRow P s.data (P.resourceSelectionId d o a k r) = some row ∧ row.selected = true := by
      simpa [Option.any_eq_true] using hans
    obtain ⟨-, -, -, -, -, -, hread⟩ := resourceRow_eq_some.mp hrow
    rw [hsel] at hread
    exact selectedRow_of_read hP hn hclean hread
  · rename_i has
    obtain ⟨hans, rfl⟩ := mk.inj h
    have hans : answer = false := (Except.ok.inj hans).symm
    refine ⟨rowConflictValues_eq_nil.mpr fun c hc => ?_, fun htrue => ?_⟩
    · rcases resourceResolution_cases has with ⟨hnil, -⟩ | ⟨-, -, hothers⟩
      · cases hnil
      · -- the write settles the column it is for, and the others were not in conflict
        by_cases hne : c = .selected
        · subst hne
          have hcells : (writeRow s.actor (P.resourceSelectionId d o a k r) [⟨.selected, false⟩]
              s.data).cells .selected (P.resourceSelectionId d o a k r) =
              (s.data.cells .selected (P.resourceSelectionId d o a k r)).write s.actor false :=
            writeRow_of_mem s.actor (by simp) mem_cons_self
          rw [hcells]
          exact hP.rules.isConflicted_write _ _
        · have hcells : (writeRow s.actor (P.resourceSelectionId d o a k r) [⟨.selected, false⟩]
              s.data).cells c (P.resourceSelectionId d o a k r) =
              s.data.cells c (P.resourceSelectionId d o a k r) :=
            modifyRow_of_notMem (by simpa using Ne.symm hne)
          rw [hcells]
          exact hothers c hc hne
    · rw [hans] at htrue
      cases htrue
  · cases h

/-- Setting the `selected` column of a clean row. -/
lemma selectedRow_after_update (hP : P.Lawful) (hn : NamedRows P s.data)
    (hclean : resourceConflicts P (P.resourceSelectionId d o a k r) s.data = [])
    (hrow : (resourceRow P s.data (P.resourceSelectionId d o a k r)).isSome) :
    SelectedRow P (s.after P (.updateResource (.hasId (P.resourceSelectionId d o a k r))
      true)).data d o a k r := by
  have hselect : PolicyStep P (fun _ => True) (fun _ => False) s
      (s.after P (.updateResource (.hasId (P.resourceSelectionId d o a k r)) true)) :=
    .select d o a k r trivial
  have hn' : NamedRows P
      (s.after P (.updateResource (.hasId (P.resourceSelectionId d o a k r)) true)).data :=
    hn.step hP hselect
  have hmatch : matchesRow P (.hasId (P.resourceSelectionId d o a k r)) s.data
      (P.resourceSelectionId d o a k r) = true := by
    obtain ⟨_, hrow⟩ := isSome_iff_exists.mp hrow
    rw [matchesRow, hrow, any_some, ResourcePredicate.holds, (resourceRow_eq_some.mp hrow).1]
    exact beq_self_eq_true _
  have hcells := after_updateResource_selected (P := P) (s := s)
    (.hasId (P.resourceSelectionId d o a k r)) true (P.resourceSelectionId d o a k r)
  rw [if_pos hmatch] at hcells
  refine selectedRow_of_read hP hn' (rowConflictValues_eq_nil.mpr fun c hc => ?_) ?_
  · have hbef := rowConflictValues_eq_nil.mp hclean c hc
    by_cases hne : c = .selected
    · subst hne
      rw [hcells]
      exact hP.rules.isConflicted_assign hbef _ _
    · rw [after_updateResource_of_ne hne]
      exact hbef
  · rw [hcells]
    exact hP.rules.read_assign _ _

/-- Inserting the row. -/
lemma selectedRow_after_insert (hP : P.Lawful) (hn : NamedRows P s.data)
    (hnew : resourceRow P s.data (P.resourceSelectionId d o a k r) = none) :
    SelectedRow P (s.after P (.insertResource
      ⟨P.resourceSelectionId d o a k r, d, o, a, k, r, true⟩)).data d o a k r := by
  have hins : PolicyStep P (fun _ => True) (fun _ => False) s (s.after P (.insertResource
      ⟨P.resourceSelectionId d o a k r, d, o, a, k, r, true⟩)) :=
    .insertResource d o a k r trivial hnew
  have hn' : NamedRows P (s.after P (.insertResource
      ⟨P.resourceSelectionId d o a k r, d, o, a, k, r, true⟩)).data :=
    hn.step hP hins
  refine selectedRow_of_read hP hn' (rowConflictValues_eq_nil.mpr fun c hc => ?_) ?_
  · obtain ⟨v, hcells⟩ := after_insertResource_of_column
      ⟨P.resourceSelectionId d o a k r, d, o, a, k, r, true⟩ hc
    rw [hcells]
    exact hP.rules.isConflicted_write _ _
  · have hmem : (⟨.selected, true⟩ : Assignment) ∈ (ResourceSelection.mk
        (P.resourceSelectionId d o a k r) d o a k r true).assignments := by
      simp [ResourceSelection.assignments]
    have hcells := after_insertResource_of_mem (P := P) (s := s) hmem
    exact (congrArg P.rules.read hcells).trans (hP.rules.read_write _ _)

lemma rowExists_run {x : Id} (hclean : resourceConflicts P x s.data = []) :
    (rowExists P x).run s = (.ok (resourceRow P s.data x).isSome, s) := by
  unfold rowExists
  rw [run_bind, query_run]
  simp only [hclean, isEmpty_nil, if_true]
  rfl

/-- What a successful `set_resource_selected` has done. -/
lemma setResourceSelected_run_ok (hP : P.Lawful) (hn : NamedRows P s.data)
    (h : (setResourceSelected P ⟨d, o, some a, some k, some r, b⟩).run s = (.ok u, s')) :
    SelectedRow P s'.data d o a k r ∧ ∀ c ∉ resourceColumns, ∀ x,
      s'.data.cells c x = s.data.cells c x := by
  have htouches := (setResourceSelected_touches (T := fun c _ => c ∈ resourceColumns) a k r
    fun c hc => hc).of_run h
  refine ⟨?_, fun c hc x => Touches.cells htouches hc⟩
  obtain ⟨answer, s₁, hask, h1⟩ := run_bind_ok.mp h
  obtain ⟨hclean, hsel⟩ := resourceSelected_run_ok hP hn hask
  have hn1 : NamedRows P s₁.data := by
    have hreach : QuietRun P s _ := (resourceSelected_reaches hP ..).of_run hask
    exact hn.steps hP hreach
  cases answer with
  | true =>
    obtain rfl := (Prod.ext_iff.mp h1).2
    exact hsel rfl
  | false =>
    obtain ⟨present, s₂, hpres, h2⟩ := run_bind_ok.mp h1
    rw [rowExists_run hclean] at hpres
    obtain ⟨rfl, rfl⟩ : (resourceRow P s₁.data (P.resourceSelectionId d o a k r)).isSome = present ∧
        s₁ = s₂ := by simpa using hpres
    split at h2
    · rename_i hrow
      obtain ⟨-, rfl⟩ := execute_run_ok h2
      exact selectedRow_after_update hP hn1 hclean hrow
    · rename_i hrow
      obtain ⟨-, rfl⟩ := execute_run_ok h2
      exact selectedRow_after_insert hP hn1 (by simpa using hrow)

/-! ## The policy row -/

/-- The policy row names the selection. -/
def SelectionPolicy.Names (policy : SelectionPolicy) (a : Id) (k : String) (r : Id) : Prop :=
  policy.applicationId = some a ∧ policy.selectedKind = some k ∧ policy.selectedId = some r

/-- The policy row after a selection: inserted, left alone, or updated. -/
inductive PolicyUpdate (P : Platform) (s : Replica) (d : Id) (o : String) (a : Id) (k : String)
    (r : Id) (b : Bool) : Replica → Prop
  | insert (hnew : policyRow P s.data d = none) :
      PolicyUpdate P s d o a k r b
        (s.after P (.insertPolicy ⟨d, o, some a, some k, some r, b⟩))
  | keep (old : SelectionPolicy) (hold : policyRow P s.data d = some old) (hnames : old.Names a k r) :
      PolicyUpdate P s d o a k r b s
  | update (old : SelectionPolicy) (hold : policyRow P s.data d = some old)
      (hnames : ¬old.Names a k r) :
      PolicyUpdate P s d o a k r b
        (s.after P (.updatePolicy d (selectionAssignments (some a) (some k) (some r))))

/-- What a successful selection has done, up to the row of the resource. -/
lemma setPrevalidated_run_ok
    (h : (setPrevalidated P ⟨d, o, some a, some k, some r, b⟩).run s = (.ok u, s')) :
    ∃ s₁ s₂, (record P d).run s = (.ok (policyRow P s₁.data d), s₁) ∧
      (∀ old, policyRow P s₁.data d = some old →
        old.ownerSubject = o ∧ old.incomplete = false ∧ old.adminAllowed = true) ∧
      PolicyUpdate P s₁ d o a k r b s₂ ∧ policyConflicts P d s₂.data = [] ∧
      (setResourceSelected P ⟨d, o, some a, some k, some r, b⟩).run s₂ = (.ok u, s') := by
  obtain ⟨_, _, hvalid, h0⟩ := run_bind_ok.mp h
  obtain ⟨-, rfl⟩ := failIf_run_ok.mp hvalid
  obtain ⟨old, s₁, hrec, h1⟩ := run_bind_ok.mp h0
  obtain ⟨-, -, -, -, rfl⟩ := record_run_ok hrec
  obtain ⟨_, _, hcheck, h2⟩ := run_bind_ok.mp h1
  obtain ⟨_, _, hexe, h3⟩ := run_bind_ok.mp h2
  obtain ⟨_, s4, hclear, h4⟩ := run_bind_ok.mp h3
  obtain ⟨hclean, rfl⟩ := clear_run_ok.mp hclear
  cases hold : policyRow P s₁.data d with
  | none =>
    rw [hold] at hcheck hexe hrec
    obtain rfl := (Prod.ext_iff.mp hcheck).2
    obtain ⟨_, rfl⟩ := execute_run_ok hexe
    refine ⟨s₁, _, by rw [hold]; exact hrec, fun old hsome => ?_, .insert hold, hclean, h4⟩
    rw [hold] at hsome
    cases hsome
  | some old =>
    rw [hold] at hcheck hexe hrec
    obtain ⟨_, _, howner, hcheck1⟩ := run_bind_ok.mp hcheck
    obtain ⟨hownerEq, rfl⟩ := failIf_run_ok.mp howner
    obtain ⟨_, _, hcompl, hadmin⟩ := run_bind_ok.mp hcheck1
    obtain ⟨hcompleteEq, rfl⟩ := failIf_run_ok.mp hcompl
    obtain ⟨hadminEq, rfl⟩ := failIf_run_ok.mp hadmin
    refine ⟨_, s4, by rw [hold]; exact hrec, fun old' hsome => ?_, ?_, hclean, h4⟩
    · rw [hold] at hsome
      obtain rfl := some.inj hsome
      exact ⟨by simpa using hownerEq, hcompleteEq, by simpa using hadminEq⟩
    · simp only [policyStatement] at hexe
      split at hexe
      · rename_i hnames
        obtain rfl := (Prod.ext_iff.mp hexe).2
        exact .keep old hold hnames
      · rename_i hnames
        obtain ⟨-, rfl⟩ := execute_run_ok hexe
        exact .update old hold hnames

/-- The effect on the policy's row, as steps. -/
lemma PolicyUpdate.reaches {selects restores : Id → Prop} (h : PolicyUpdate P s d o a k r b s') :
    Relation.ReflTransGen (PolicyStep P selects restores) s s' := by
  cases h with
  | insert hnew => exact .single (.insertPolicy _ hnew)
  | keep old _ _ => exact .refl
  | update old _ _ => exact .single (.choose d _ _ _)

/-- A successful selection selects the resource, touches no other, and brings the policy row up to
date. -/
lemma setPrevalidated_spec (hP : P.Lawful) (hn : NamedRows P s.data)
    (h : (setPrevalidated P ⟨d, o, some a, some k, some r, b⟩).run s = (.ok u, s')) :
    SelectedRow P s'.data d o a k r ∧
    (∀ c ∈ resourceColumns, ∀ x, x ≠ P.resourceSelectionId d o a k r →
      s'.data.cells c x = s.data.cells c x) ∧
    ∃ s₁ s₂, (record P d).run s = (.ok (policyRow P s₁.data d), s₁) ∧
      (∀ old, policyRow P s₁.data d = some old →
        old.ownerSubject = o ∧ old.incomplete = false ∧ old.adminAllowed = true) ∧
      PolicyUpdate P s₁ d o a k r b s₂ ∧ policyConflicts P d s₂.data = [] ∧
      ∀ c ∉ resourceColumns, ∀ x, s'.data.cells c x = s₂.data.cells c x := by
  have htouches := (setPrevalidated_touches (T := OnRow (P.resourceSelectionId d o a k r)) a k r
    (fun _ _ => .inr rfl) fun c hc => .inl hc).of_run h
  obtain ⟨s₁, s₂, hrec, hchk, hupd, hclean, hset⟩ := setPrevalidated_run_ok h
  have hn2 : NamedRows P s₂.data := by
    have hreach : QuietRun P s _ := (record_reaches hP d).of_run hrec
    have hupdated : QuietRun P s₁ s₂ := hupd.reaches
    exact (hn.steps hP hreach).steps hP hupdated
  obtain ⟨hsel, hframe⟩ := setResourceSelected_run_ok hP hn2 hset
  exact ⟨hsel, fun c hc x hx => Touches.cells htouches (not_onRow hc hx), s₁, s₂, hrec,
    hchk, hupd, hclean, hframe⟩

end

end LocalPlatform.Management
