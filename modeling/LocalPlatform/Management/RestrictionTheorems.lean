import LocalPlatform.Management.RecordTheorems
import LocalPlatform.Management.Reference

/-!
# The administrator's restriction

A device is restricted as long as a `false` is visible in its `admin_allowed`. Every reader then
sees `false`, no pair with the device is admitted, and only a call that lifts the restriction, or
the arrival of what such a call has written, ends it. A call that restricts a device writes only if
its replica does not read `false` already. So two administrators who disagree at the same time end
with a restriction if the restricting call writes, and may end without one if it does not.
-/

namespace LocalPlatform.Management

open Resumption MultiValue Register

/-- The device has a policy row in which a restriction is visible. -/
def Restricted (P : Platform) (data : Data) (d : Id) : Prop :=
  (policyRow P data d).isSome ∧ false ∈ (data.cells .adminAllowed d).values

instance (P : Platform) (data : Data) (d : Id) : Decidable (Restricted P data d) :=
  inferInstanceAs (Decidable (_ ∧ _))

/-- The replica reads `false`, and nothing is in conflict with it. -/
def ReadsRestricted (P : Platform) (data : Data) (d : Id) : Prop :=
  P.rules.isConflicted (data.cells .adminAllowed d) = false ∧
    P.rules.read (data.cells .adminAllowed d) = some false

instance (P : Platform) (data : Data) (d : Id) : Decidable (ReadsRestricted P data d) :=
  inferInstanceAs (Decidable (_ ∧ _))

/-- A row that has a restriction column has all its columns. -/
def CompleteRows (P : Platform) (data : Data) : Prop :=
  ∀ d, (∃ w, w ∈ data.cells .adminAllowed d) → (policyRow P data d).isSome

section
variable {P : Platform} (hP : P.Lawful) {selects restores : Id → Prop} {s s' : Replica} {d : Id}
include hP

/-! ## One step of an operation -/

/-- A policy step keeps rows complete. -/
lemma CompleteRows.step (h : PolicyStep P selects restores s s') (hc : CompleteRows P s.data) :
    CompleteRows P s'.data := by
  intro d hw
  have hmono : ∀ c w, w ∈ s.data.cells c d → w ∈ s'.data.cells c d := fun c w hw =>
    (h.evolves.2 c d).mem hw
  rcases h.adminAllowed d with hsame | ⟨hex, -⟩ | ⟨hrow, -⟩ | ⟨policy, rfl, -, rfl⟩
  · rw [hsame] at hw
    exact policyRow_isSome_mono hP (hc d hw) hmono
  · exact policyRow_isSome_mono hP (hc d hex) hmono
  · exact policyRow_isSome_mono hP hrow hmono
  · rw [policyRow_isSome_iff hP]
    intro c hmem
    obtain ⟨a, ha, rfl⟩ : ∃ a ∈ policy.assignments, a.column = c := by
      rw [← List.mem_map]
      exact hmem
    rw [after_insertPolicy_of_mem ha]
    exact ⟨_, mem_write.mpr (.inr rfl)⟩

lemma CompleteRows.steps (h : Relation.ReflTransGen (PolicyStep P selects restores) s s')
    (hc : CompleteRows P s.data) : CompleteRows P s'.data := by
  induction h with
  | refl => exact hc
  | tail _ hstep ih => exact ih.step hP hstep

/-- Only a step that lifts it ends a restriction. -/
lemma Restricted.step (h : PolicyStep P selects restores s s') (hd : ¬restores d)
    (hr : Restricted P s.data d) : Restricted P s'.data d := by
  have hmono : ∀ c w, w ∈ s.data.cells c d → w ∈ s'.data.cells c d := fun c w hw =>
    (h.evolves.2 c d).mem hw
  refine ⟨policyRow_isSome_mono hP hr.1 hmono, ?_⟩
  rcases h.adminAllowed d with hsame | ⟨-, hcells⟩ | ⟨-, allowed, hlift, hcells⟩ |
    ⟨-, -, hnone, -⟩
  · rw [hsame]
    exact hr.2
  · rw [hcells]
    exact mem_values_write.mpr rfl
  · obtain rfl : allowed = false := by
      by_contra hallow
      exact hd (hlift (by simpa using hallow))
    rw [hcells]
    exact hP.rules.mem_values_of_read (hP.rules.read_assign _ _)
  · have hrow := hr.1
    rw [hnone] at hrow
    cases hrow

section
variable (h : Relation.ReflTransGen (PolicyStep P selects restores) s s')
include h

/-- A restriction stays unless a step restores. -/
lemma Restricted.steps
    (hd : ¬restores d) (hr : Restricted P s.data d) : Restricted P s'.data d := by
  induction h with
  | refl => exact hr
  | tail _ hstep ih => exact ih.step hP hstep hd

/-- Apart from steps that lift a restriction, `true` is only ever written into a new row. -/
lemma mem_adminAllowed_steps (hc : CompleteRows P s.data) (hd : ¬restores d) :
    CompleteRows P s'.data ∧ ∀ w ∈ s'.data.cells .adminAllowed d,
      w ∈ s.data.cells .adminAllowed d ∨ w.value = false ∨ w.seen = [] := by
  induction h with
  | refl => exact ⟨hc, fun w hw => .inl hw⟩
  | @tail s₁ s₂ _ hstep ih =>
    obtain ⟨hc1, hold⟩ := ih
    refine ⟨hc1.step hP hstep, fun w hw => ?_⟩
    rcases hstep.adminAllowed d with hsame | ⟨-, hcells⟩ | ⟨-, _, hlift, hcells⟩ |
      ⟨policy, rfl, hnone, rfl⟩
    · rw [hsame] at hw
      exact hold w hw
    · rw [hcells] at hw
      rcases mem_write.mp hw with hw | rfl
      · exact hold w hw
      · exact .inr (.inl rfl)
    · rw [hcells] at hw
      unfold Rules.assign at hw
      split at hw
      · rcases mem_write.mp hw with hw | rfl
        · exact hold w hw
        · refine .inr (.inl ?_)
          by_contra hallow
          exact hd (hlift (by simpa [newWrite] using hallow))
      · exact hold w hw
    · have hcells : (s₁.after P (.insertPolicy policy)).data.cells .adminAllowed policy.deviceId =
          (s₁.data.cells .adminAllowed policy.deviceId).write s₁.actor policy.adminAllowed :=
        after_insertPolicy_of_mem (a := ⟨.adminAllowed, policy.adminAllowed⟩)
          (by simp [SelectionPolicy.assignments])
      rw [hcells] at hw
      rcases mem_write.mp hw with hw | rfl
      · exact hold w hw
      -- the row did not exist, so there was nothing to replace
      · refine .inr (.inr ?_)
        rw [newWrite, List.map_eq_nil_iff, List.eq_nil_iff_forall_not_mem]
        intro x hx
        have hrow := hc1 policy.deviceId ⟨x, (mem_live.mp hx).1⟩
        rw [hnone] at hrow
        cases hrow

end

/-! ## Reading -/

/-- A successful read of a restricted device returns the restriction. -/
lemma record_restricted {policy : SelectionPolicy} (hr : Restricted P s.data d)
    (h : (record P d).run s = (.ok (some policy), s')) :
    policy.adminAllowed = false ∧ ∀ v ∈ (s'.data.cells .adminAllowed d).values, v = false := by
  obtain ⟨-, -, -, hclean, hrow⟩ := record_run_ok h
  have hreach : QuietRun P s _ := (record_reaches hP d).of_run h
  have hvis := (hr.steps hP hreach id).2
  have hclear := rowConflictValues_eq_nil.mp hclean .adminAllowed (by decide)
  obtain ⟨-, -, -, -, -, hread⟩ := policyRow_eq_some.mp hrow.symm
  exact ⟨hP.rules.eq_of_not_isConflicted hclear (hP.rules.mem_values_of_read hread) hvis,
    fun v hv => hP.rules.eq_of_not_isConflicted hclear hv hvis⟩

/-- A pair with a restricted device is not admitted, whatever the resource. -/
lemma peersSelectedForSync_restricted {records : List Device} {device : Device}
    {localKey remoteKey o : String} {a : Id} {k : String} {r : Id} (hmem : device ∈ records)
    (hkey : device.publicKey = localKey ∨ device.publicKey = remoteKey)
    (hr : Restricted P s.data device.id) :
    (peersSelectedForSync P (.ok records) localKey remoteKey o a k r).eval s ≠ .ok true := by
  refine peersSelectedForSync_ne_true hP (I := fun s => Restricted P s.data device.id)
    (fun s s' hreach hr => hr.steps hP hreach id) (fun s s' hr hadmits => ?_) hkey hr
  obtain ⟨_, _, hget, hallow, -⟩ := admitPeer_run_ok hmem hadmits
  obtain ⟨hrec, -, -⟩ := get_run_ok hget
  rw [(record_restricted hP hr hrec).1] at hallow
  cases hallow

/-- If nothing but the restriction is in conflict, reading a restricted device succeeds. -/
lemma record_restricted_succeeds (hr : Restricted P s.data d) (hother : ∀ c ∈ policyColumns,
    c ≠ .adminAllowed → P.rules.isConflicted (s.data.cells c d) = false) :
    ∃ policy s₁, (record P d).run s = (.ok (some policy), s₁) := by
  have hsett : ∃ as, (policyConflicts P d s.data).mapM convergentResolution = .ok as := by
    refine exists_mapM_ok fun conflict hmem => ?_
    obtain ⟨c, hc, hconf, rfl⟩ := mem_rowConflictValues.mp hmem
    by_cases hadmin : c = .adminAllowed
    · subst hadmin
      exact ⟨⟨.adminAllowed, false⟩, if_pos hr.2⟩
    · rw [hother c hc hadmin] at hconf
      cases hconf
  obtain ⟨as, has⟩ := hsett
  have hrun := record_run hP d s
  simp only [has] at hrun
  have hrow : (policyRow P (writeRow s.actor d as s.data) d).isSome :=
    policyRow_isSome_mono hP hr.1 fun c w hw =>
      (modifyRow_evolves fun a r => .write r s.actor a.value).mem hw
  obtain ⟨policy, hpol⟩ := Option.isSome_iff_exists.mp hrow
  rw [hpol] at hrun
  exact ⟨policy, _, hrun⟩

/-! ## Restricting -/

omit hP in
/-- Without conflicts a restriction is read as one. -/
lemma readsRestricted_of_clear (hclean : policyConflicts P d s.data = [])
    (hread : P.rules.read (s.data.cells .adminAllowed d) = some false) :
    ReadsRestricted P s.data d :=
  ⟨rowConflictValues_eq_nil.mp hclean .adminAllowed (by decide), hread⟩

/-- A device without a policy gets one that restricts it. -/
lemma setPrevalidated_restricts {o : String} {u : Unit} (hclean : policyConflicts P d s.data = [])
    (hnone : policyRow P s.data d = none)
    (h : (setPrevalidated P ⟨d, o, none, none, none, false⟩).run s = (.ok u, s')) :
    ReadsRestricted P s'.data d := by
  obtain ⟨_, s₁, hvalid, h1⟩ := run_bind_ok.mp h
  obtain ⟨-, rfl⟩ := failIf_run_ok.mp hvalid
  obtain ⟨old, _, hold, h2⟩ := run_bind_ok.mp h1
  rw [record_run_of_clear hP hclean, hnone] at hold
  cases hold
  obtain ⟨_, _, hcheck, h3⟩ := run_bind_ok.mp h2
  cases hcheck
  obtain ⟨_, _, hinsert, h4⟩ := run_bind_ok.mp h3
  obtain ⟨-, rfl⟩ := execute_run_ok hinsert
  obtain ⟨_, _, hclear, h5⟩ := run_bind_ok.mp h4
  obtain ⟨hcleared, rfl⟩ := clear_run_ok.mp hclear
  obtain ⟨-, rfl⟩ := execute_run_ok h5
  -- the last statement is about the rows of resources
  have hreads : ReadsRestricted P (s₁.after P (.insertPolicy ⟨d, o, none, none, none, false⟩)).data
      d := by
    refine readsRestricted_of_clear hcleared ?_
    have hmem : ⟨.adminAllowed, false⟩ ∈
        (SelectionPolicy.mk d o none none none false).assignments := by
      simp [SelectionPolicy.assignments]
    have hcells := after_insertPolicy_of_mem (P := P) (s := s₁) hmem
    rw [hcells, hP.rules.read_write]
  simpa only [ReadsRestricted, after_updateResource_of_ne (show Column.adminAllowed ≠ .selected by
    decide)] using hreads

/-- A call that restricts a device and succeeds leaves a replica that reads the restriction. -/
lemma setAdminAllowed_restricts {o : String}
    (h : (setAdminAllowedPrevalidated P d o false).run s = (.ok true, s')) :
    ReadsRestricted P s'.data d := by
  unfold setAdminAllowedPrevalidated at h
  split at h
  · cases congrArg Prod.fst h
  obtain ⟨found, s₁, hrec, h1⟩ := run_bind_ok.mp h
  obtain ⟨-, -, -, hclean, hrow⟩ := record_run_ok hrec
  cases found with
  | none =>
    obtain ⟨_, s₂, hset, h2⟩ := run_bind_ok.mp h1
    obtain rfl : s₂ = s' := by simpa using h2
    exact setPrevalidated_restricts hP hclean hrow.symm hset
  | some policy =>
    dsimp only at h1
    split_ifs at h1 with howner hsame
    · cases congrArg Prod.fst h1
    · -- the value is in place
      obtain rfl : s₁ = s' := by simpa using h1
      obtain ⟨-, -, -, -, -, hread⟩ := policyRow_eq_some.mp hrow.symm
      rw [beq_iff_eq.mp hsame] at hread
      exact readsRestricted_of_clear hclean hread
    · obtain ⟨_, s₂, hupdate, h2⟩ := run_bind_ok.mp h1
      obtain ⟨-, rfl⟩ := execute_run_ok hupdate
      obtain ⟨_, _, hclear, h3⟩ := run_bind_ok.mp h2
      obtain ⟨hcleared, rfl⟩ := clear_run_ok.mp hclear
      obtain rfl : _ = s' := by simpa using h3
      refine readsRestricted_of_clear hcleared ?_
      have hmem : (⟨.adminAllowed, false⟩ : Assignment) ∈ [⟨.adminAllowed, false⟩] :=
        List.mem_cons_self
      have hcells := after_updatePolicy_of_mem (P := P) (s := s₁) (by rw [← hrow]; rfl) (by simp)
        hmem
      rw [hcells, hP.rules.read_assign]

end

/-! ## The system -/

/-- In every replica the rows are complete, and a `true` that replaced something was written by a
call that lifts the restriction. -/
structure System.Sound (P : Platform) (s : System) : Prop where
  complete : ∀ i, CompleteRows P (s.replicas i)
  lifted : ∀ i d, ∀ w ∈ (s.replicas i).cells .adminAllowed d,
    w.value = true → w.seen ≠ [] → w ∈ s.restored d

section
variable {P : Platform} (hP : P.Lawful) {s s' : System} {d : Id}
include hP

/-- Merging keeps rows complete. -/
lemma CompleteRows.merge {data data' : Data} (h : CompleteRows P data)
    (h' : CompleteRows P data') : CompleteRows P (data.merge data') := by
  rintro d ⟨w, hw⟩
  rw [policyRow_isSome_iff hP]
  intro c hc
  rcases mem_or_mem_of_merge hw with hw | hw
  · obtain ⟨x, hx⟩ := (policyRow_isSome_iff hP).mp (h d ⟨w, hw⟩) c hc
    exact exists_mem_merge (.inl hx)
  · obtain ⟨x, hx⟩ := (policyRow_isSome_iff hP).mp (h' d ⟨w, hw⟩) c hc
    exact exists_mem_merge (.inr hx)

/-- A step of the system keeps it sound. -/
lemma System.Sound.step (h : System.Step P s s') (hs : s.Sound P) : s'.Sound P := by
  cases h with
  | operate i op =>
    have hreach := op.perform_reaches hP ⟨i, s.replicas i⟩
    constructor
    · intro k
      by_cases hk : k = i
      · subst hk
        rw [System.operate_self]
        exact (hs.complete k).steps hP hreach
      · rw [System.operate_of_ne hk]
        exact hs.complete k
    · intro k d w hw htrue hseen
      by_cases hk : k = i
      · subst hk
        rw [System.operate_self] at hw
        by_cases hold : w ∈ (s.replicas k).cells .adminAllowed d
        · exact .inl (hs.lifted k d w hold htrue hseen)
        · right
          refine ⟨?_, hw, hold⟩
          by_contra hrestores
          -- calls of another kind write `false`, or into a row that did not exist
          rcases (mem_adminAllowed_steps hP hreach (hs.complete k) hrestores).2 w hw with
            hmem | hfalse | hnone
          · exact hold hmem
          · rw [htrue] at hfalse
            cases hfalse
          · exact hseen hnone
      · rw [System.operate_of_ne hk] at hw
        exact .inl (hs.lifted k d w hw htrue hseen)
  | merge i j =>
    constructor
    · intro k
      by_cases hk : k = i
      · subst hk
        rw [System.merge_self]
        exact (hs.complete k).merge hP (hs.complete j)
      · rw [System.merge_of_ne hk]
        exact hs.complete k
    · intro k d w hw htrue hseen
      by_cases hk : k = i
      · subst hk
        rw [System.merge_self, Database.cells_merge] at hw
        rcases mem_or_mem_of_merge hw with hw | hw
        · exact hs.lifted k d w hw htrue hseen
        · exact hs.lifted j d w hw htrue hseen
      · rw [System.merge_of_ne hk] at hw
        exact hs.lifted k d w hw htrue hseen

lemma System.Sound.steps (h : Relation.ReflTransGen (System.Step P) s s') (hs : s.Sound P) :
    s'.Sound P := by
  induction h with
  | refl => exact hs
  | tail _ hstep ih => exact ih.step hP hstep

/-- Hence every reachable system is sound. -/
lemma System.Reachable.sound (h : s.Reachable P) : s.Sound P := by
  refine .steps hP h ⟨?_, ?_⟩
  · rintro i d ⟨w, hw⟩
    exact absurd hw (notMem_empty w)
  · intro i d w hw
    exact absurd hw (notMem_empty w)

/-- A step that ends a restriction at a replica brings a write by a call that lifts it. -/
lemma Restricted.system_step (h : System.Step P s s') (hs : s.Sound P) {i : ℕ}
    (hr : Restricted P (s.replicas i) d) (hr' : ¬Restricted P (s'.replicas i) d) :
    ∃ w ∈ s'.restored d, w.value = true ∧ w ∈ (s'.replicas i).cells .adminAllowed d ∧
      w ∉ (s.replicas i).cells .adminAllowed d := by
  cases h with
  | operate j op =>
    by_cases hij : i = j
    · subst hij
      rw [System.operate_self] at hr' ⊢
      have hevol := s.result_evolves hP i op
      have hrestores : op.Restores d := by
        by_contra hother
        exact hr' (hr.steps hP (op.perform_reaches hP ⟨i, s.replicas i⟩) hother)
      have hrow : (policyRow P (s.result P i op) d).isSome :=
        policyRow_isSome_mono hP hr.1 fun c w hw => (hevol c d).mem hw
      have hvis : false ∉ ((s.result P i op).cells .adminAllowed d).values := fun hmem =>
        hr' ⟨hrow, hmem⟩
      rcases (hevol .adminAllowed d).eq_or_exists_live with hsame | ⟨w, hw, hnew⟩
      · rw [hsame] at hvis
        exact absurd hr.2 hvis
      · have hmem : w ∈ (s.result P i op).cells .adminAllowed d := (mem_live.mp hw).1
        have htrue : w.value = true := by
          by_contra hfalse
          rw [Bool.not_eq_true] at hfalse
          exact hvis (mem_values.mpr ⟨w, hw, hfalse⟩)
        exact ⟨w, .inr ⟨hrestores, hmem, hnew⟩, htrue, hmem, hnew⟩
    · rw [System.operate_of_ne hij] at hr'
      exact absurd hr hr'
  | merge j k =>
    by_cases hij : i = j
    · subst hij
      rw [System.merge_self] at hr' ⊢
      have hrow : (policyRow P ((s.replicas i).merge (s.replicas k)) d).isSome :=
        policyRow_isSome_mono hP hr.1 fun c w hw => mem_merge.mpr (.inl hw)
      by_contra hnone
      push Not at hnone
      refine hr' ⟨hrow, mem_values.mpr ?_⟩
      -- all that the merge adds over an older write is restrictions
      refine exists_live_merge (fun w hw hnew hseen => ?_) (mem_values.mp hr.2)
      by_contra htrue
      rw [Bool.not_eq_false] at htrue
      have hmem : w ∈ (s.replicas k).cells .adminAllowed d :=
        (mem_or_mem_of_merge hw).resolve_left hnew
      exact hnew (hnone w (hs.lifted k d w hmem htrue hseen) htrue hw)
    · rw [System.merge_of_ne hij] at hr'
      exact absurd hr hr'

/-- A call that restricts a device writes, unless its replica reads the restriction already. -/
lemma System.exists_restriction {i : ℕ} {o : String}
    (hcall : (setAdminAllowedPrevalidated P d o false).eval ⟨i, s.replicas i⟩ = .ok true)
    (hnew : ¬ReadsRestricted P (s.replicas i) d) :
    ∃ w ∈ ((s.result P i (.setAdminAllowed d o false)).cells .adminAllowed d).live,
      w.value = false ∧ w ∉ (s.replicas i).cells .adminAllowed d := by
  obtain ⟨hclear, hread⟩ := setAdminAllowed_restricts hP (run_of_eval hcall)
  have hvis := hP.rules.mem_values_of_read hread
  rcases (s.result_evolves hP i (.setAdminAllowed d o false) .adminAllowed d).eq_or_exists_live with
    hsame | ⟨w, hw, hfresh⟩
  · refine absurd ⟨?_, ?_⟩ hnew
    · rwa [← hsame]
    · rwa [← hsame]
  · refine ⟨w, hw, ?_, hfresh⟩
    exact hP.rules.eq_of_not_isConflicted hclear (mem_values.mpr ⟨w, hw, rfl⟩) hvis

end

/-- A policy row that reads `false` is restricted. Over every run, a replica stops seeing the
restriction only together with a write by a call that lifts it; a call that restricts the device
at a replica that does not read the restriction already, while another replica works, is in force
wherever the two are merged; and a replica that sees the restriction reads `false`, still reads if
nothing else is in conflict, and admits no pair with the device. -/
theorem restriction_holds (P : Platform) (hP : P.Lawful) (s : System) (hs : s.Reachable P) (d : Id) :
    (∀ i policy, policyRow P (s.replicas i) d = some policy → policy.adminAllowed = false →
      Restricted P (s.replicas i) d) ∧
    (∀ s', System.Step P s s' → ∀ i, Restricted P (s.replicas i) d →
      ¬Restricted P (s'.replicas i) d →
        ∃ w ∈ s'.restored d, w.value = true ∧ w ∈ (s'.replicas i).cells .adminAllowed d ∧
          w ∉ (s.replicas i).cells .adminAllowed d) ∧
    (∀ i j, i ≠ j → ∀ o ops s₁ s₂,
      (setAdminAllowedPrevalidated P d o false).eval ⟨i, s.replicas i⟩ = .ok true →
      ¬ReadsRestricted P (s.replicas i) d →
      s₁ = (s.operate P i (.setAdminAllowed d o false)).operateAll P j ops → s₁.Merges s₂ →
        ∀ k, (∀ w ∈ (s₁.replicas i).cells .adminAllowed d,
            w ∈ (s₂.replicas k).cells .adminAllowed d) →
          Restricted P (s₂.replicas k) d) ∧
    ∀ i, Restricted P (s.replicas i) d →
      (∀ policy r, (record P d).run ⟨i, s.replicas i⟩ = (.ok (some policy), r) →
        policy.adminAllowed = false ∧ ∀ v ∈ (r.data.cells .adminAllowed d).values, v = false) ∧
      ((∀ c ∈ policyColumns, c ≠ .adminAllowed →
          P.rules.isConflicted ((s.replicas i).cells c d) = false) →
        ∃ policy r, (record P d).run ⟨i, s.replicas i⟩ = (.ok (some policy), r)) ∧
      ∀ (records : List Device) (device : Device) (localKey remoteKey o : String) (a : Id)
        (k : String) (r : Id), device ∈ records → device.id = d →
        device.publicKey = localKey ∨ device.publicKey = remoteKey →
          (peersSelectedForSync P (.ok records) localKey remoteKey o a k r).eval
            ⟨i, s.replicas i⟩ ≠ .ok true := by
  refine ⟨fun i policy hrow hfalse => ?_, fun s' hstep i hr hr' => ?_, ?_, fun i hr => ⟨?_, ?_, ?_⟩⟩
  · obtain ⟨-, -, -, -, -, hread⟩ := policyRow_eq_some.mp hrow
    rw [hfalse] at hread
    exact ⟨by rw [hrow]; rfl, hP.rules.mem_values_of_read hread⟩
  · exact hr.system_step hP hstep (hs.sound hP) hr'
  · intro i j hij o ops s₁ s₂ hcall hnew hs1 hmerges k hheard
    have hs1' : s₁.Sound P := by
      rw [hs1]
      exact (System.Reachable.sound hP (hs.tail (.operate i _))).steps hP
        ((s.operate P i (.setAdminAllowed d o false)).operateAll_spec hP j ops).1
    -- the call has made a write that nobody else knows of
    obtain ⟨w, hlive, hfalse, hfresh⟩ := System.exists_restriction hP hcall hnew
    have hlive1 : w ∈ ((s₁.replicas i).cells .adminAllowed d).live := by
      rw [hs1, (System.operateAll_spec hP _ j ops).2.2 i hij, System.operate_self]
      exact hlive
    have hw := hheard w (mem_live.mp hlive1).1
    have hs1'' : s₁ = (s.operateAll P i [.setAdminAllowed d o false]).operateAll P j ops := hs1
    have hlive' := System.Merges.mem_live hP hs hij hs1'' hlive1 hfresh hmerges hw
    exact ⟨(hs1'.steps hP hmerges.steps).complete k d ⟨w, hw⟩, mem_values.mpr ⟨w, hlive', hfalse⟩⟩
  · intro policy r hrec
    exact record_restricted hP hr hrec
  · intro hother
    exact record_restricted_succeeds hP hr hother
  · intro records device localKey remoteKey o a k r hmem hid hkey
    subst hid
    exact peersSelectedForSync_restricted hP hmem hkey hr

open Reference

/-- Two administrators disagree at the same time about device 1, which was not restricted. -/
def disputed : System :=
  (common.operate platform 0 (.setAdminAllowed 1 "owner" false)).operate platform 1
    (.setAdminAllowed 1 "owner" true)

/-- Both replicas restrict the device once they know of each other, and do not admit it. -/
theorem restriction_holds_disputed :
    Restricted platform (((disputed.merge 0 1).merge 1 0).replicas 0) 1 ∧
    Restricted platform (((disputed.merge 0 1).merge 1 0).replicas 1) 1 ∧
    (peersSelectedForSync platform
      (.ok [⟨1, "owner", "left", .approved⟩, ⟨2, "owner", "right", .approved⟩]) "left" "right"
      "owner" 3 "database" 4).eval ⟨0, disputed.replicas 0⟩ ≠ .ok true := by
  have hreach : disputed.Reachable platform :=
    (common_reachable.tail (.operate 0 _)).tail (.operate 1 _)
  have hrestricted : Restricted platform (disputed.replicas 0) 1 := by decide +kernel
  obtain ⟨-, -, hcalls, -⟩ := restriction_holds platform platform_lawful _ common_reachable 1
  obtain ⟨-, -, -, hlaws⟩ := restriction_holds platform platform_lawful _ hreach 1
  have hmerges : disputed.Merges ((disputed.merge 0 1).merge 1 0) :=
    (Relation.ReflTransGen.single ⟨0, 1, rfl⟩).tail ⟨1, 0, rfl⟩
  have hrun := hcalls 0 1 (by decide) "owner" [.setAdminAllowed 1 "owner" true] disputed _
    (by decide +kernel) (by decide +kernel) rfl hmerges
  have hheard : ∀ k ∈ [0, 1], ∀ w ∈ ((disputed.replicas 0).cells .adminAllowed 1).writes,
      w ∈ ((((disputed.merge 0 1).merge 1 0).replicas k).cells .adminAllowed 1).writes := by
    decide +kernel
  exact ⟨hrun 0 (hheard 0 (by decide)), hrun 1 (hheard 1 (by decide)), (hlaws 0 hrestricted).2.2 _
    ⟨1, "owner", "left", .approved⟩ _ _ _ _ _ _ List.mem_cons_self rfl (.inl rfl)⟩

/-- Both replicas know that device 1 is restricted. -/
def agreed : System :=
  (System.initial.operate platform 0 (.setAdminAllowed 1 "owner" false)).merge 1 0

/-- One replica restricts the device once more while the other one lifts the restriction. -/
def overruled : System :=
  ((agreed.operate platform 0 (.setAdminAllowed 1 "owner" false)).operate platform 1
    (.setAdminAllowed 1 "owner" true)).merge 0 1

/-- Both calls succeed, and the replica of the restricting one reads `true` after the merge. -/
theorem restricting_call_is_lost :
    agreed.Reachable platform ∧
    (setAdminAllowedPrevalidated platform 1 "owner" false).eval ⟨0, agreed.replicas 0⟩ =
      .ok true ∧
    (setAdminAllowedPrevalidated platform 1 "owner" true).eval ⟨1, agreed.replicas 1⟩ =
      .ok true ∧
    (record platform 1).eval ⟨0, overruled.replicas 0⟩ =
      .ok (some ⟨1, "owner", none, none, none, true⟩) :=
  ⟨(Relation.ReflTransGen.single (.operate 0 _)).tail (.merge 1 0), by decide +kernel,
    by decide +kernel, by decide +kernel⟩

end LocalPlatform.Management
