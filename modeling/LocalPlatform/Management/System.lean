import LocalPlatform.Management.Operations

/-!
# Replicas that work apart and merge

The system of all replicas, and what one step of an operation does to a single register.
-/

namespace LocalPlatform.Management

open Resumption MultiValue Function Register

/-! ## The system -/

/-- The tables of every replica, each of which writes under its own number, and the writes made by
calls that lift a restriction. -/
structure System where
  replicas : ℕ → Data
  restored : Id → Set (Write Bool)

/-- Nothing has been written. -/
def System.initial : System := ⟨fun _ => .empty, fun _ => ∅⟩

/-- The tables of replica `i` after an operation there. -/
def System.result (P : Platform) (s : System) (i : ℕ) (op : Operation) : Data :=
  (op.perform P ⟨i, s.replicas i⟩).data

/-- Replica `i` performs an operation. -/
def System.operate (P : Platform) (s : System) (i : ℕ) (op : Operation) : System where
  replicas := update s.replicas i (s.result P i op)
  restored d := s.restored d ∪ {w | op.Restores d ∧
    w ∈ (s.result P i op).cells .adminAllowed d ∧ w ∉ (s.replicas i).cells .adminAllowed d}

/-- Replica `i` receives everything that replica `j` knows. -/
def System.merge (s : System) (i j : ℕ) : System :=
  { s with replicas := update s.replicas i ((s.replicas i).merge (s.replicas j)) }

/-- A replica runs an operation, or receives what another one has. -/
inductive System.Step (P : Platform) (s : System) : System → Prop
  | operate (i : ℕ) (op : Operation) : Step P s (s.operate P i op)
  | merge (i j : ℕ) : Step P s (s.merge i j)

/-- A system that can come about. -/
def System.Reachable (P : Platform) (s : System) : Prop :=
  Relation.ReflTransGen (System.Step P) System.initial s

/-- Replica `i` performs some operations while it hears nothing from the others. -/
def System.operateAll (P : Platform) (s : System) (i : ℕ) (ops : List Operation) : System :=
  ops.foldl (fun s op => s.operate P i op) s

/-- Replicas exchange what they know, in any order. -/
def System.Merges : System → System → Prop :=
  Relation.ReflTransGen fun s s' => ∃ i j, s' = s.merge i j

section
variable {P : Platform} {s : System} {i j k : ℕ} {op : Operation}

@[simp] lemma System.operate_self : (s.operate P i op).replicas i = s.result P i op :=
  update_self ..

lemma System.operate_of_ne (h : k ≠ i) : (s.operate P i op).replicas k = s.replicas k :=
  update_of_ne h ..

@[simp] lemma System.merge_self : (s.merge i j).replicas i = (s.replicas i).merge (s.replicas j) :=
  update_self ..

lemma System.merge_of_ne (h : k ≠ i) : (s.merge i j).replicas k = s.replicas k :=
  update_of_ne h ..

/-- Merges alone are steps of the system. -/
lemma System.Merges.steps {s' : System} (h : s.Merges s') :
    Relation.ReflTransGen (System.Step P) s s' := by
  induction h with
  | refl => exact .refl
  | tail _ hstep ih =>
    obtain ⟨i, j, rfl⟩ := hstep
    exact ih.tail (.merge i j)

end

/-! ## Statements, register by register -/

section
variable {P : Platform} {s s' : Replica} {key k : Id} {c : Column}

variable {as : List Assignment} {a : Assignment} {selects restores : Id → Prop}

/-- Settling conflicts leaves a register alone or puts it on the safe side. -/
lemma writeRow_safe (actor : ℕ) (key : Id) (data : Data)
    (hnodup : (as.map (·.column)).Nodup) (hsafe : ∀ a ∈ as, a.Safe) (c : Column) (k : Id) :
    (writeRow actor key as data).cells c k = data.cells c k ∨
      k = key ∧ ∃ v, c.safe = some v ∧ ⟨c, v⟩ ∈ as ∧
        (writeRow actor key as data).cells c k = (data.cells c k).write actor v := by
  by_cases hk : k = key
  · subst hk
    by_cases hc : ∃ a ∈ as, a.column = c
    · obtain ⟨⟨_, v⟩, ha, rfl⟩ := hc
      exact .inr ⟨rfl, v, hsafe _ ha, ha, writeRow_of_mem actor hnodup ha⟩
    · push Not at hc
      exact .inl (modifyRow_of_notMem hc)
  · exact .inl (modifyRow_of_ne_key hk)

/-- An update writes the flag of the rows it matches. -/
lemma after_updateResource_selected (predicate : ResourcePredicate) (v : Bool) (k : Id) :
    (s.after P (.updateResource predicate v)).data.cells .selected k =
      if matchesRow P predicate s.data k then
        P.rules.assign s.actor v (s.data.cells .selected k)
      else s.data.cells .selected k := by
  simp [Replica.after, Statement.apply]

lemma after_updateResource_of_ne (hc : c ≠ .selected) (predicate : ResourcePredicate) (v : Bool)
    (k : Id) : (s.after P (.updateResource predicate v)).data.cells c k = s.data.cells c k := by
  simp [Replica.after, Statement.apply, hc]

lemma after_updatePolicy (d : Id) (as : List Assignment) :
    (s.after P (.updatePolicy d as)).data =
      if (policyRow P s.data d).isSome then assignRow P s.actor d as s.data else s.data :=
  rfl

/-- An update of the policy leaves other columns alone. -/
lemma after_updatePolicy_of_notMem (hc : ∀ a ∈ as, a.column ≠ c) (d k : Id) :
    (s.after P (.updatePolicy d as)).data.cells c k = s.data.cells c k := by
  rw [after_updatePolicy]
  split
  · exact modifyRow_of_notMem hc
  · rfl

/-- An assigned column of an existing row takes the assigned value. -/
lemma after_updatePolicy_of_mem {d : Id}
    (hrow : (policyRow P s.data d).isSome) (hnodup : (as.map (·.column)).Nodup) (ha : a ∈ as) :
    (s.after P (.updatePolicy d as)).data.cells a.column d =
      P.rules.assign s.actor a.value (s.data.cells a.column d) := by
  rw [after_updatePolicy, if_pos hrow]
  exact modifyRow_of_mem hnodup ha

lemma selectionAssignments_nodup (a : Option Id) (k : Option String) (r : Option Id) :
    ((selectionAssignments a k r).map (·.column)).Nodup := by
  simp [selectionAssignments]

/-- Every column of an inserted policy is written. -/
lemma after_insertPolicy_of_mem {policy : SelectionPolicy} (ha : a ∈ policy.assignments) :
    (s.after P (.insertPolicy policy)).data.cells a.column policy.deviceId =
      (s.data.cells a.column policy.deviceId).write s.actor a.value :=
  writeRow_of_mem s.actor (by simp [SelectionPolicy.assignments]) ha

/-- Every column of an inserted resource selection is written. -/
lemma after_insertResource_of_mem {selection : ResourceSelection} (ha : a ∈ selection.assignments) :
    (s.after P (.insertResource selection)).data.cells a.column selection.id =
      (s.data.cells a.column selection.id).write s.actor a.value :=
  writeRow_of_mem s.actor (by simp [ResourceSelection.assignments]) ha

lemma after_insertResource_of_column (selection : ResourceSelection) {c : Column}
    (hc : c ∈ resourceColumns) :
    ∃ v, (s.after P (.insertResource selection)).data.cells c selection.id =
      (s.data.cells c selection.id).write s.actor v := by
  obtain ⟨a, ha, rfl⟩ : ∃ a ∈ selection.assignments, a.column = c := by
    rw [← List.mem_map]
    exact hc
  exact ⟨a.value, after_insertResource_of_mem ha⟩

/-- Every step only adds writes of the replica's own actor. -/
lemma PolicyStep.evolves (h : PolicyStep P selects restores s s') :
    s'.actor = s.actor ∧ ∀ c k, (s.data.cells c k).Evolves s.actor (s'.data.cells c k) := by
  have hwrite : ∀ key as c k, (s.data.cells c k).Evolves s.actor
      ((writeRow s.actor key as s.data).cells c k) := fun key as c k =>
    modifyRow_evolves fun a r => .write r s.actor a.value
  have hupd : ∀ predicate v c k, (s.data.cells c k).Evolves s.actor
      ((s.after P (.updateResource predicate v)).data.cells c k) := by
    intro predicate v c k
    by_cases hc : c = .selected
    · subst hc
      rw [after_updateResource_selected]
      split
      · exact Rules.Lawful.evolves_assign P.rules s.actor v _
      · exact .refl
    · rw [after_updateResource_of_ne hc]
      exact .refl
  have hassign : ∀ d as c k, (s.data.cells c k).Evolves s.actor
      ((s.after P (.updatePolicy d as)).data.cells c k) := by
    intro d as c k
    rw [after_updatePolicy]
    split
    · exact modifyRow_evolves fun a r => Rules.Lawful.evolves_assign P.rules s.actor a.value r
    · exact .refl
  cases h with
  | resolve key as _ _ _ => exact ⟨rfl, hwrite key as⟩
  | deselect predicate => exact ⟨rfl, hupd predicate false⟩
  | choose d a k r => exact ⟨rfl, hassign d _⟩
  | insertPolicy policy _ => exact ⟨rfl, hwrite policy.deviceId policy.assignments⟩
  | restrict d allowed _ => exact ⟨rfl, hassign d _⟩
  | select d o a k r _ => exact ⟨rfl, hupd _ true⟩
  | insertResource d o a k r _ _ => exact ⟨rfl, hwrite _ _⟩

/-- No key goes out of use. -/
lemma PolicyStep.keys (h : PolicyStep P selects restores s s') : s.data.keys ⊆ s'.data.keys := by
  have hassign : ∀ d as, s.data.keys ⊆ (s.after P (.updatePolicy d as)).data.keys := by
    intro d as
    rw [after_updatePolicy]
    split
    · exact subset_keys_modifyRow
    · exact Finset.Subset.refl _
  cases h with
  | resolve key as _ _ _ => exact subset_keys_modifyRow
  | deselect predicate => exact Finset.Subset.refl _
  | choose d a k r => exact hassign d _
  | insertPolicy policy _ => exact subset_keys_modifyRow
  | restrict d allowed _ => exact hassign d _
  | select d o a k r _ => exact Finset.Subset.refl _
  | insertResource d o a k r _ _ => exact subset_keys_modifyRow

/-- Over a run the actor only adds writes of its own. -/
lemma evolves_of_steps (h : Relation.ReflTransGen (PolicyStep P selects restores) s s') :
    s'.actor = s.actor ∧ ∀ c k, (s.data.cells c k).Evolves s.actor (s'.data.cells c k) := by
  induction h with
  | refl => exact ⟨rfl, fun _ _ => .refl⟩
  | tail _ hstep ih =>
    obtain ⟨hactor, hcells⟩ := hstep.evolves
    rw [ih.1] at hactor hcells
    exact ⟨hactor, fun c k => (ih.2 c k).trans (hcells c k)⟩

/-- What a step does to the restriction of a device. -/
lemma PolicyStep.adminAllowed (h : PolicyStep P selects restores s s') (d : Id) :
    s'.data.cells .adminAllowed d = s.data.cells .adminAllowed d ∨
      ((∃ w, w ∈ s.data.cells .adminAllowed d) ∧
        s'.data.cells .adminAllowed d = (s.data.cells .adminAllowed d).write s.actor false) ∨
      ((policyRow P s.data d).isSome ∧ ∃ allowed, (allowed = true → restores d) ∧
        s'.data.cells .adminAllowed d =
          P.rules.assign s.actor allowed (s.data.cells .adminAllowed d)) ∨
      ∃ policy, policy.deviceId = d ∧ policyRow P s.data d = none ∧
        s' = s.after P (.insertPolicy policy) := by
  cases h with
  | resolve key as hnodup hsafe hwrit =>
    rcases writeRow_safe s.actor key s.data hnodup hsafe .adminAllowed d with
      hsame | ⟨rfl, v, hv, hmem, hcells⟩
    · exact .inl hsame
    · obtain rfl := Option.some.inj hv
      exact .inr (.inl ⟨hwrit _ hmem, hcells⟩)
  | deselect predicate => exact .inl (after_updateResource_of_ne (by decide) ..)
  | choose d' a k r =>
    exact .inl (after_updatePolicy_of_notMem (by simp [selectionAssignments]) ..)
  | insertPolicy policy hnew =>
    by_cases hd : d = policy.deviceId
    · exact .inr (.inr (.inr ⟨policy, hd.symm, hd ▸ hnew, rfl⟩))
    · exact .inl (modifyRow_of_ne_key hd)
  | restrict d' allowed hlift =>
    by_cases hd : d = d'
    · subst hd
      by_cases hrow : (policyRow P s.data d).isSome
      · exact .inr (.inr (.inl ⟨hrow, allowed, hlift, after_updatePolicy_of_mem hrow (by simp)
            List.mem_cons_self⟩))
      · left
        rw [after_updatePolicy, if_neg hrow]
    · left
      rw [after_updatePolicy]
      split
      · exact modifyRow_of_ne_key hd
      · rfl
  | select d' o a k r _ => exact .inl (after_updateResource_of_ne (by decide) ..)
  | insertResource d' o a k r _ _ =>
    exact .inl (modifyRow_of_notMem (by simp [ResourceSelection.assignments]))

end

/-! ## Writes and their authors -/

section
variable {P : Platform} (hP : P.Lawful) {s s' : System} {i : ℕ}
include hP

lemma System.result_evolves (s : System) (i : ℕ) (op : Operation) (c : Column) (key : Id) :
    ((s.replicas i).cells c key).Evolves i ((s.result P i op).cells c key) :=
  (evolves_of_steps (op.perform_reaches hP ⟨i, s.replicas i⟩)).2 c key

/-- A replica that works on its own adds writes of its own, and the others see nothing of it. -/
lemma System.operateAll_spec (s : System) (i : ℕ) (ops : List Operation) :
    Relation.ReflTransGen (System.Step P) s (s.operateAll P i ops) ∧
      (∀ c key, ((s.replicas i).cells c key).Evolves i
        (((s.operateAll P i ops).replicas i).cells c key)) ∧
      ∀ k ≠ i, (s.operateAll P i ops).replicas k = s.replicas k := by
  induction ops generalizing s with
  | nil => exact ⟨.refl, fun _ _ => .refl, fun _ _ => rfl⟩
  | cons op ops ih =>
    obtain ⟨hsteps, hown, hothers⟩ := ih (s.operate P i op)
    refine ⟨.head (.operate i op) hsteps, fun c key => ?_, fun k hk => ?_⟩
    · have hfirst := s.result_evolves hP i op c key
      rw [← System.operate_self] at hfirst
      exact hfirst.trans (hown c key)
    · exact (hothers k hk).trans (System.operate_of_ne hk)

/-- A replica has everything that was ever written under its name. -/
def System.Authored (s : System) : Prop :=
  ∀ k c key, ∀ w ∈ (s.replicas k).cells c key, w ∈ (s.replicas w.id.actor).cells c key

omit hP in
lemma System.Authored.merge (hs : s.Authored) (i j : ℕ) : (s.merge i j).Authored := by
  intro k c key w hw
  have hold : w ∈ (s.replicas w.id.actor).cells c key := by
    by_cases hk : k = i
    · subst hk
      rw [System.merge_self, Database.cells_merge] at hw
      rcases mem_or_mem_of_merge hw with hw | hw
      · exact hs _ c key w hw
      · exact hs _ c key w hw
    · rw [System.merge_of_ne hk] at hw
      exact hs k c key w hw
  by_cases hactor : w.id.actor = i
  · rw [hactor] at hold ⊢
    rw [System.merge_self, Database.cells_merge]
    exact mem_merge.mpr (.inl hold)
  · rw [System.merge_of_ne hactor]
    exact hold

/-- Each replica writes under its own number, step by step. -/
lemma System.Authored.step (h : System.Step P s s') (hs : s.Authored) : s'.Authored := by
  cases h with
  | merge i j => exact hs.merge i j
  | operate i op =>
    have hkeep : ∀ k c key, ∀ w ∈ (s.replicas k).cells c key,
        w ∈ ((s.operate P i op).replicas k).cells c key := by
      intro k c key w hw
      by_cases hk : k = i
      · subst hk
        rw [System.operate_self]
        exact (s.result_evolves hP k op c key).mem hw
      · rw [System.operate_of_ne hk]
        exact hw
    intro k c key w hw
    by_cases hk : k = i
    · subst hk
      rw [System.operate_self] at hw
      rcases (s.result_evolves hP k op c key).mem_or_new hw with hold | ⟨hactor, -⟩
      · exact hkeep _ c key w (hs k c key w hold)
      · rw [hactor, System.operate_self]
        exact hw
    · rw [System.operate_of_ne hk] at hw
      exact hkeep _ c key w (hs k c key w hw)

/-- Hence in every reachable system. -/
lemma System.Reachable.authored (h : s.Reachable P) : s.Authored := by
  induction h with
  | refl => exact fun k c key w hw => absurd hw (notMem_empty w)
  | tail _ hstep ih => exact ih.step hP hstep

variable {ops ops' : List Operation} {c : Column} {w : Write c.Value}

/-- What one replica has written apart, no other replica knows. -/
lemma System.notMem_of_apart {j : ℕ} (hs : s.Reachable P) (hij : i ≠ j) {key : Id} {s₁ : System}
    (hs1 : s₁ = (s.operateAll P i ops).operateAll P j ops')
    (hw : w ∈ (s₁.replicas i).cells c key) (hnew : w ∉ (s.replicas i).cells c key) :
    w.id.actor = i ∧ ∀ k ≠ i, w ∉ (s₁.replicas k).cells c key := by
  obtain ⟨-, hown, hothers⟩ := s.operateAll_spec hP i ops
  obtain ⟨-, hown', hothers'⟩ := (s.operateAll P i ops).operateAll_spec hP j ops'
  rw [← hs1] at hown' hothers'
  rw [hothers' i hij] at hw
  obtain ⟨hactor, -⟩ := ((hown c key).mem_or_new hw).resolve_left hnew
  refine ⟨hactor, fun k hk hmem => hnew ?_⟩
  have hold : w ∈ (s.replicas k).cells c key := by
    by_cases hkj : k = j
    · subst hkj
      rcases (hown' c key).mem_or_new hmem with hmem | ⟨hother, -⟩
      · rwa [hothers k hk] at hmem
      · exact absurd (hactor.symm.trans hother) hij
    · rwa [hothers' k hkj, hothers k hk] at hmem
  have hauthored := hs.authored hP k c key w hold
  rwa [hactor] at hauthored

/-- A write that was made apart is live wherever it is merged to. -/
lemma System.Merges.mem_live {j : ℕ} (hs : s.Reachable P) (hij : i ≠ j) {key : Id} {s₁ s₂ : System}
    (hs1 : s₁ = (s.operateAll P i ops).operateAll P j ops')
    (hlive : w ∈ ((s₁.replicas i).cells c key).live) (hnew : w ∉ (s.replicas i).cells c key)
    (h : s₁.Merges s₂) {k : ℕ} (hw : w ∈ (s₂.replicas k).cells c key) :
    w ∈ ((s₂.replicas k).cells c key).live := by
  obtain ⟨hmem, hfree⟩ := Register.mem_live.mp hlive
  obtain ⟨hactor, hapart⟩ := System.notMem_of_apart hP hs hij hs1 hmem hnew
  have hs1' : s₁.Reachable P := by
    rw [hs1]
    exact (hs.trans (s.operateAll_spec hP i ops).1).trans
      ((s.operateAll P i ops).operateAll_spec hP j ops').1
  -- nobody replaces the write, because nobody else has it at the start and merges do not write
  have hunseen : ∀ k, ∀ x ∈ (s₂.replicas k).cells c key, w.id ∉ x.seen := by
    clear hw
    induction h with
    | refl =>
      intro k x hx hseen
      by_cases hk : k = i
      · subst hk
        exact hfree x hx hseen
      · obtain ⟨y, hy, hid⟩ := ((s₁.replicas k).cells c key).closed x hx _ hseen
        have hyi : y ∈ (s₁.replicas i).cells c key := by
          have hauthored := hs1'.authored hP k c key y hy
          rwa [hid, hactor] at hauthored
        rw [((s₁.replicas i).cells c key).eq_of_id hyi hmem hid] at hy
        exact hapart k hk hy
    | tail _ hstep ih =>
      obtain ⟨i', j', rfl⟩ := hstep
      intro k x hx
      by_cases hk : k = i'
      · subst hk
        rw [System.merge_self, Database.cells_merge] at hx
        rcases Register.mem_or_mem_of_merge hx with hx | hx
        · exact ih k x hx
        · exact ih j' x hx
      · rw [System.merge_of_ne hk] at hx
        exact ih k x hx
  exact Register.mem_live.mpr ⟨hw, hunseen k⟩

end

end LocalPlatform.Management
