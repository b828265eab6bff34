import LocalPlatform.Management.StoreTheorems

/-!
# Operations, replicas and merges

The operations of the repository as steps of a system of replicas that also exchange what they
know, and the steps of which a single operation is made.
-/

namespace LocalPlatform.Management

open Resumption MultiValue List Task

/-- An operation of the repository with its arguments. -/
inductive Operation where
  | setPolicy (policy : SelectionPolicy)
  | setAdminAllowed (deviceId : Id) (ownerSubject : String) (adminAllowed : Bool)
  | deselectResource (deviceId : Id) (ownerSubject : String) (applicationId : Id) (kind : String)
      (resourceId : Id)
  | deselect (deviceId : Id) (ownerSubject : String)
  | readPolicy (deviceId : Id) (ownerSubject : String) (applicationId : Id)
  | selectedResources (deviceId : Id)
  | peersSelected (devices : ManagementResult (List Device))
      (localPublicKey remotePublicKey ownerSubject : String) (applicationId : Id) (kind : String)
      (resourceId : Id)

/-- The operation selects a resource for the device. -/
def Operation.Selects (op : Operation) (deviceId : Id) : Prop :=
  match op with
  | .setPolicy policy => policy.selectedId.isSome ∧ policy.deviceId = deviceId
  | _ => False

/-- The operation lifts the restriction of the device. -/
def Operation.Restores (op : Operation) (deviceId : Id) : Prop :=
  match op with
  | .setAdminAllowed d _ adminAllowed => adminAllowed = true ∧ d = deviceId
  | _ => False

section
variable (P : Platform)

/-- The replica after an uninterrupted run of the operation, whatever its outcome. -/
def Operation.perform (s : Replica) : Operation → Replica
  | .setPolicy policy => ((setPrevalidated P policy).run s).2
  | .setAdminAllowed d o allowed => ((setAdminAllowedPrevalidated P d o allowed).run s).2
  | .deselectResource d o a k r => ((deselectResourceOwned P d o a k r).run s).2
  | .deselect d o => ((deselectOwned P d o).run s).2
  | .readPolicy d o a => ((get P d o a).run s).2
  | .selectedResources d => ((selectedResourcesForDevice P d).run s).2
  | .peersSelected devices l r o a k i =>
    ((peersSelectedForSync P devices l r o a k i).run s).2

/-! ## The steps of one operation -/

/-- A replica after one statement. -/
def Replica.after (s : Replica) (statement : Statement) : Replica :=
  { s with data := statement.apply P s.actor s.data }

/-- The replica after a deselection has overwritten the conflicts of the policy row. -/
def Replica.resetRow (s : Replica) (d : Id) : Replica :=
  { s with
    data := writeRow s.actor d ((policyConflicts P d s.data).filterMap nullAssignment) s.data }

/-- Everything that an operation does to the tables. `selects` and `restores` are the devices for
which it may select a resource or lift a restriction. -/
inductive PolicyStep (selects restores : Id → Prop) (s : Replica) : Replica → Prop
  | resolve (key : Id) (as : List Assignment) (hnodup : (as.map (·.column)).Nodup)
      (hsafe : ∀ a ∈ as, a.Safe) (hwritten : ∀ a ∈ as, ∃ w, w ∈ s.data.cells a.column key) :
      PolicyStep selects restores s { s with data := writeRow s.actor key as s.data }
  | deselect (predicate : ResourcePredicate) :
      PolicyStep selects restores s (s.after P (.updateResource predicate false))
  | choose (deviceId : Id) (applicationId : Option Id) (kind : Option String)
      (resourceId : Option Id) :
      PolicyStep selects restores s
        (s.after P (.updatePolicy deviceId (selectionAssignments applicationId kind resourceId)))
  | insertPolicy (policy : SelectionPolicy) (hnew : policyRow P s.data policy.deviceId = none) :
      PolicyStep selects restores s (s.after P (.insertPolicy policy))
  | restrict (deviceId : Id) (allowed : Bool) (hlift : allowed = true → restores deviceId) :
      PolicyStep selects restores s (s.after P (.updatePolicy deviceId [⟨.adminAllowed, allowed⟩]))
  | select (d : Id) (o : String) (a : Id) (k : String) (r : Id) (hselect : selects d) :
      PolicyStep selects restores s
        (s.after P (.updateResource (.hasId (P.resourceSelectionId d o a k r)) true))
  | insertResource (d : Id) (o : String) (a : Id) (k : String) (r : Id) (hselect : selects d)
      (hnew : resourceRow P s.data (P.resourceSelectionId d o a k r) = none) :
      PolicyStep selects restores s
        (s.after P (.insertResource ⟨P.resourceSelectionId d o a k r, d, o, a, k, r, true⟩))

/-- Any number of steps that select and restore nothing. -/
abbrev QuietRun : Replica → Replica → Prop :=
  Relation.ReflTransGen (PolicyStep P (fun _ => False) fun _ => False)

end

section
variable {P : Platform} {s s' : Replica} {deviceId : Id} {e : ManagementError} {u : Unit}

/-! ## Runs of the basic tasks -/

@[simp] lemma query_run {α : Type} (f : Data → α) (s : Replica) :
    (query f).run s = (.ok (f s.data), s) := rfl

@[simp] lemma resolveRow_run (key : Id) (as : List Assignment) (s : Replica) :
    (resolveRow key as).run s = (.ok (), { s with data := writeRow s.actor key as s.data }) := rfl

lemma skipIf_run (c : Bool) (t : PolicyTask Unit) (s : Replica) :
    (skipIf c t).run s = if c then (.ok (), s) else t.run s := by
  unfold skipIf
  split <;> rfl

lemma failIf_run_ok {c : Bool} :
    (failIf c e : PolicyTask Unit).run s = (.ok u, s') ↔ c = false ∧ s' = s := by
  cases c <;> simp [failIf, eq_comm]

lemma okOr_run_ok {α : Type} {x : Option α} {a : α} :
    (okOr x e : PolicyTask α).run s = (.ok a, s') ↔ x = some a ∧ s' = s := by
  cases x <;> simp [okOr, eq_comm]

/-- A single statement that is no repeated insertion takes effect. -/
lemma execute_run (statement : Statement) (h : statement.duplicate P s.data = false) :
    (execute P [statement]).run s = (.ok (), s.after P statement) := by
  simp [execute, Replica.after, h]

lemma execute_run_ok {statement : Statement} (h : (execute P [statement]).run s = (.ok u, s')) :
    statement.duplicate P s.data = false ∧ s' = s.after P statement := by
  by_cases hdup : statement.duplicate P s.data = true
  · simp [execute, hdup] at h
  · rw [Bool.not_eq_true] at hdup
    rw [execute_run statement hdup] at h
    exact ⟨hdup, (Prod.ext_iff.mp h).2.symm⟩

lemma clear_run_ok : (clear P deviceId).run s = (.ok u, s') ↔
    policyConflicts P deviceId s.data = [] ∧ s' = s := by
  unfold clear
  rw [run_bind, query_run]
  simp only [failIf_run_ok]
  simp

/-- Settling the conflicts of a policy writes the safe values, or changes nothing. -/
lemma resolveConvergentConflicts_run (deviceId : Id) (s : Replica) :
    (resolveConvergentConflicts P deviceId).run s =
      match (policyConflicts P deviceId s.data).mapM convergentResolution with
      | .ok as => (.ok (), { s with data := writeRow s.actor deviceId as s.data })
      | .error e => (.error e, s) := by
  unfold resolveConvergentConflicts
  rw [run_bind, query_run]
  simp only [run_bind, run_lift]
  cases (policyConflicts P deviceId s.data).mapM convergentResolution with
  | error e => rfl
  | ok as =>
    cases as <;> rfl

lemma settleResource_run (id : Id) (s : Replica) :
    (settleResource P id).run s =
      match (resourceConflicts P id s.data).mapM resourceResolution with
      | .ok as => (.ok (), { s with data := writeRow s.actor id as s.data })
      | .error e => (.error e, s) := by
  unfold settleResource
  rw [run_bind, query_run]
  simp only [run_bind, run_lift]
  cases hconfs : resourceConflicts P id s.data with
  | nil => rfl
  | cons conflict conflicts =>
    cases (conflict :: conflicts).mapM resourceResolution with
    | error e => rfl
    | ok as => rfl

end

/-! ## Every operation is made of such steps -/

section
variable {P : Platform} {columns : List Column} {data : Data} {key : Id}

/-- What settling the conflicts of a row writes. -/
lemma resolution_spec (hP : P.Lawful) (hcols : columns.Nodup)
    {f : ColumnConflict → ManagementResult Assignment}
    (hf : ∀ conflict a, f conflict = .ok a → a.column = conflict.column ∧ a.Safe)
    {as : List Assignment} (h : (rowConflictValues P columns data key).mapM f = .ok as) :
    (as.map (·.column)).Nodup ∧ (∀ a ∈ as, a.Safe) ∧
      ∀ a ∈ as, ∃ w, w ∈ data.cells a.column key := by
  have hcolumn : as.map (·.column) = (rowConflictValues P columns data key).map (·.column) :=
    map_eq_of_mapM (fun conflict a ha => (hf conflict a ha).1) h
  refine ⟨?_, fun a ha => ?_, fun a ha => ?_⟩
  · rw [hcolumn, rowConflictValues_columns]
    exact hcols.filter _
  · obtain ⟨conflict, -, hconf⟩ := exists_of_mem_mapM h ha
    exact (hf conflict a hconf).2
  · obtain ⟨conflict, hmem, hconf⟩ := exists_of_mem_mapM h ha
    obtain ⟨c, -, hrep, rfl⟩ := mem_rowConflictValues.mp hmem
    rw [(hf _ a hconf).1]
    exact exists_mem_of_isConflicted hP.rules hrep

end

lemma policyColumns_nodup : policyColumns.Nodup := by decide

lemma resourceColumns_nodup : resourceColumns.Nodup := by decide

section
variable {P : Platform} (hP : P.Lawful) {selects restores : Id → Prop}

/-- A statement that is a step on its own. -/
lemma execute_reaches {R : Replica → Replica → Prop} {statement : Statement} (h : ∀ s : Replica,
    statement.duplicate P s.data = false → R s (s.after P statement)) :
    (execute P [statement]).Reaches R := by
  refine ⟨fun s => ?_⟩
  by_cases hdup : statement.duplicate P s.data = true
  · simp only [execute, run_atomic, any_cons, any_nil, Bool.or_false, hdup, if_true]
    exact .refl
  · rw [Bool.not_eq_true] at hdup
    rw [execute_run statement hdup]
    exact .single (h s hdup)

variable (deviceId : Id)

lemma clear_reaches {R : Replica → Replica → Prop} : (clear P deviceId).Reaches R :=
  .bind (.read _ _) fun _ => .failIf _ _

include hP

/-- A resolution writes safe values only. -/
lemma resolveConvergentConflicts_reaches :
    (resolveConvergentConflicts P deviceId).Reaches (PolicyStep P selects restores) := by
  refine ⟨fun s => ?_⟩
  rw [resolveConvergentConflicts_run]
  cases h : (policyConflicts P deviceId s.data).mapM convergentResolution with
  | error e => exact .refl
  | ok as =>
    obtain ⟨hnodup, hsafe, hwrit⟩ :=
      resolution_spec hP policyColumns_nodup (fun _ _ => convergentResolution_ok) h
    exact .single (.resolve deviceId as hnodup hsafe hwrit)

lemma settleResource_reaches (id : Id) :
    (settleResource P id).Reaches (PolicyStep P selects restores) := by
  refine ⟨fun s => ?_⟩
  rw [settleResource_run]
  cases h : (resourceConflicts P id s.data).mapM resourceResolution with
  | error e => exact .refl
  | ok as =>
    obtain ⟨hnodup, hsafe, hwrit⟩ := resolution_spec hP resourceColumns_nodup
      (fun conflict a ha => by
        obtain ⟨rfl, -, rfl, -⟩ := resourceResolution_ok ha
        exact ⟨rfl, rfl⟩) h
    exact .single (.resolve id as hnodup hsafe hwrit)

/-- Reading a policy may resolve it first. -/
lemma record_reaches : (record P deviceId).Reaches (PolicyStep P selects restores) :=
  .bind (resolveConvergentConflicts_reaches hP deviceId) fun _ => .bind (clear_reaches _) fun _ =>
    .bind (.read _ _) fun _ => .bind (clear_reaches _) fun _ => .pure _

variable (ownerSubject : String)

lemma get_reaches (applicationId : Id) :
    (get P deviceId ownerSubject applicationId).Reaches (PolicyStep P selects restores) := by
  refine .bind (record_reaches hP deviceId) fun policy => ?_
  split
  · exact .bind (.failIf _ _) fun _ => .bind (.failIf _ _) fun _ => .pure _
  · exact .pure _

lemma resourceSelected_reaches (d : Id) (o : String) (a : Id) (k : String) (r : Id) :
    (resourceSelected P d o a k r).Reaches (PolicyStep P selects restores) :=
  .bind (settleResource_reaches hP _) fun _ => .bind (.read _ _) fun _ => .pure _

lemma rowSelected_reaches (d : Id) (selection : ResourceSelection) :
    (rowSelected P d selection).Reaches (PolicyStep P selects restores) := by
  unfold rowSelected
  split
  · exact resourceSelected_reaches hP ..
  · exact .pure _

lemma collectSelected_reaches (d : Id) (rows : List ResourceSelection) :
    (collectSelected P d rows).Reaches (PolicyStep P selects restores) := by
  induction rows with
  | nil => exact .pure _
  | cons row rows ih =>
    refine .bind (rowSelected_reaches hP d row) fun isSelected => .bind ih fun others => ?_
    split
    · exact .pure _
    · exact .pure _

lemma admitPeer_reaches (records : List Device) (o : String) (a : Id) (k : String) (r : Id)
    (publicKey : String) :
    (admitPeer P records o a k r publicKey).Reaches (PolicyStep P selects restores) := by
  unfold admitPeer
  split
  · split
    · exact .pure _
    · refine .bind (get_reaches hP _ _ _) fun policy => ?_
      split
      · split
        · exact .pure _
        · exact resourceSelected_reaches hP ..
      · exact .pure _
  · exact .pure _

/-- So an admission may write, but only safe values. -/
lemma peersSelectedForSync_reaches (devices : ManagementResult (List Device))
    (localKey remoteKey o : String) (a : Id) (k : String) (r : Id) :
    (peersSelectedForSync P devices localKey remoteKey o a k r).Reaches
      (PolicyStep P selects restores) := by
  unfold peersSelectedForSync
  split
  · exact .pure _
  · refine .bind (.lift _) fun records => .bind (admitPeer_reaches hP ..) fun admitted => ?_
    split
    · exact admitPeer_reaches hP ..
    · exact .pure _

variable {policy : SelectionPolicy}

section
variable (hselects : policy.selectedId.isSome → selects policy.deviceId)
include hselects

/-- A selection switches its own row on. -/
lemma setResourceSelected_reaches :
    (setResourceSelected P policy).Reaches (PolicyStep P selects restores) := by
  unfold setResourceSelected
  split
  · rename_i a k r _ _ hid
    have hselect : selects policy.deviceId := hselects (by rw [hid]; rfl)
    refine .bind (resourceSelected_reaches hP ..) fun already => ?_
    split
    · exact .pure _
    · refine .bind (.bind (.read _ _) fun conflicts => ?_) fun present => ?_
      · split
        · exact .read _ _
        · exact .pure _
      · split
        · exact execute_reaches fun s _ => .select policy.deviceId _ _ _ _ hselect
        · refine execute_reaches fun s hdup =>
            .insertResource policy.deviceId _ _ _ _ hselect ?_
          simpa [Statement.duplicate] using hdup
  · exact .pure _

/-- The whole of a selection, as steps. -/
lemma setPrevalidated_reaches :
    (setPrevalidated P policy).Reaches (PolicyStep P selects restores) := by
  refine .bind (.failIf _ _) fun _ => .bind (record_reaches hP _) fun old =>
    .bind ?_ fun _ => .bind (.skipIf _ ?_) fun _ => .bind (clear_reaches _) fun _ => ?_
  · cases old with
    | none => exact .pure _
    | some old =>
      exact .bind (.failIf _ _) fun _ => .bind (.failIf _ _) fun _ => .failIf _ _
  · cases old with
    | none =>
      refine execute_reaches fun s hdup => .insertPolicy policy ?_
      simpa [Statement.duplicate] using hdup
    | some old =>
      simp only [policyStatement]
      split
      · exact ⟨fun s => .refl⟩
      · exact execute_reaches fun s _ => .choose policy.deviceId _ _ _
  · split
    · exact execute_reaches fun s _ => .deselect _
    · exact setResourceSelected_reaches hP hselects

end

/-- Lifting a restriction is the one step that restores. -/
lemma setAdminAllowedPrevalidated_reaches
    {adminAllowed : Bool} (hrestores : adminAllowed = true → restores deviceId) :
    (setAdminAllowedPrevalidated P deviceId ownerSubject adminAllowed).Reaches
      (PolicyStep P selects restores) := by
  unfold setAdminAllowedPrevalidated
  split
  · exact .pure _
  · refine .bind (record_reaches hP _) fun policy => ?_
    split
    · exact .bind (setPrevalidated_reaches hP fun h => by cases h) fun _ => .pure _
    · split
      · exact .pure _
      · split
        · exact .pure _
        · exact .bind (execute_reaches fun s _ => .restrict deviceId _ hrestores) fun _ =>
            .bind (clear_reaches _) fun _ => .pure _

lemma deselectResourceOwned_reaches (d : Id) (o : String) (a : Id) (k : String) (r : Id) :
    (deselectResourceOwned P d o a k r).Reaches (PolicyStep P selects restores) := by
  refine .bind (record_reaches hP _) fun policy => ?_
  split
  · exact .pure _
  · split
    · exact .pure _
    · refine .bind (resourceSelected_reaches hP ..) fun selected => ?_
      split
      · exact .bind (execute_reaches fun s _ => .deselect _) fun _ => .pure _
      · exact .pure _

omit hP in
/-- The last call of a deselection makes two steps. -/
lemma execute_deselectAll_reaches : (execute P [.updateResource (.hasDevice deviceId) false,
      .updatePolicy deviceId (selectionAssignments none none none)]).Reaches
        (PolicyStep P selects restores) := by
  refine ⟨fun s => ?_⟩
  have hfirst : PolicyStep P selects restores s
      (s.after P (.updateResource (.hasDevice deviceId) false)) := .deselect _
  exact (Relation.ReflTransGen.single hfirst).tail (.choose deviceId none none none)

omit hP in
/-- The columns that are set to null are among those that are in conflict. -/
lemma nullAssignments_sublist (conflicts : List ColumnConflict) :
    ((conflicts.filterMap nullAssignment).map (·.column)).Sublist (conflicts.map (·.column)) := by
  induction conflicts with
  | nil => exact .slnil
  | cons conflict conflicts ih =>
    cases h : nullAssignment conflict with
    | none =>
      rw [filterMap_cons_none h, map_cons]
      exact ih.cons _
    | some a =>
      rw [filterMap_cons_some h, map_cons, map_cons, (nullAssignment_eq_some h).1]
      exact ih.cons_cons _

omit hP in
lemma nullAssignments_nodup (data : Data) :
    (((policyConflicts P deviceId data).filterMap nullAssignment).map (·.column)).Nodup := by
  have hnodup : ((policyConflicts P deviceId data).map (·.column)).Nodup := by
    rw [policyConflicts, rowConflictValues_columns]
    exact policyColumns_nodup.filter _
  exact hnodup.sublist (nullAssignments_sublist _)

/-- A reset is one step that writes null. -/
lemma resetRow_step (s : Replica) (deviceId : Id) :
    PolicyStep P selects restores s (s.resetRow P deviceId) := by
  refine .resolve deviceId _ (nullAssignments_nodup deviceId s.data) (fun a ha => ?_) fun a ha => ?_
  · obtain ⟨_, -, hconf⟩ := mem_filterMap.mp ha
    exact (nullAssignment_eq_some hconf).2
  · obtain ⟨_, hmem, hconf⟩ := mem_filterMap.mp ha
    obtain ⟨c, -, hrep, rfl⟩ := mem_rowConflictValues.mp hmem
    rw [(nullAssignment_eq_some hconf).1]
    exact exists_mem_of_isConflicted hP.rules hrep

/-- The whole of a deselection, as steps. -/
lemma deselectOwned_reaches :
    (deselectOwned P deviceId ownerSubject).Reaches (PolicyStep P selects restores) := by
  refine ⟨fun s => ?_⟩
  -- the conflicts that are overwritten are those of the state in which the operation starts
  refine reaches_bind_at .refl fun conflicts s₁ hconfs => ?_
  obtain ⟨rfl, rfl⟩ : policyConflicts P deviceId s.data = conflicts ∧ s = s₁ := by
    simpa using hconfs
  refine reaches_bind_at .refl fun _ s₂ hchk => ?_
  obtain ⟨-, rfl⟩ := failIf_run_ok.mp hchk
  refine reaches_bind_at .refl fun raw s3 hraw => ?_
  obtain rfl := (Prod.ext_iff.mp hraw).2
  split
  · exact .refl
  · split
    · exact .refl
    · refine reaches_bind_at ?_ fun _ s4 _ => Task.Reaches.run ?_ s4
      · rw [skipIf_run]
        split
        · exact .refl
        · exact reaches_bind_at (.single (resetRow_step hP s₂ deviceId)) fun _ s₁ _ =>
            (clear_reaches deviceId).run s₁
      · refine .bind (record_reaches hP _) fun policy => .bind (.okOr _ _) fun policy => ?_
        split
        · exact .pure _
        · exact .bind (execute_deselectAll_reaches deviceId) fun _ =>
            .bind (clear_reaches _) fun _ => .pure _

/-- Everything an operation does is a sequence of such steps. -/
theorem Operation.perform_reaches (op : Operation) (s : Replica) :
    Relation.ReflTransGen (PolicyStep P op.Selects op.Restores) s (op.perform P s) := by
  cases op with
  | setPolicy policy => exact (setPrevalidated_reaches hP fun h => ⟨h, rfl⟩).run s
  | setAdminAllowed d o allowed =>
    exact (setAdminAllowedPrevalidated_reaches hP d o fun h => ⟨h, rfl⟩).run s
  | deselectResource d o a k r => exact (deselectResourceOwned_reaches hP d o a k r).run s
  | deselect d o => exact (deselectOwned_reaches hP d o).run s
  | readPolicy d o a => exact (get_reaches hP d o a).run s
  | selectedResources d =>
    exact (Task.Reaches.bind (.read _ _) fun rows => collectSelected_reaches hP d rows).run s
  | peersSelected devices l r o a k i =>
    exact (peersSelectedForSync_reaches hP devices l r o a k i).run s

end

end LocalPlatform.Management
