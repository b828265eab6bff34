import LocalPlatform.Management.ConcurrencyTheorems

/-!
# Two selections at the same time

Selections of different resources for one device on two replicas share the three columns of the
policy row that name the selection. Both resources are selected after a merge. The policy row is
readable if it named one of the two before; if both calls have changed a column to different
values, every call that reads the row fails.
-/

namespace LocalPlatform.Management

open Resumption MultiValue Register SelectionPolicy List Prod Task Except

/-! ## The columns that name a selection -/

/-- The values of the three columns for a selection. -/
def Column.chosen (a : Id) (k : String) (r : Id) : (c : Column) → Option c.Value
  | .applicationId => some (some a)
  | .selectedKind => some (some k)
  | .selectedId => some (some r)
  | .ownerSubject => none
  | .adminAllowed => none
  | .deviceId => none
  | .resourceOwnerSubject => none
  | .resourceApplicationId => none
  | .resourceKind => none
  | .resourceId => none
  | .selected => none

section
variable {P : Platform} {s s' : Replica} {data : Data} {d : Id} {o : String} {a : Id} {k : String}
  {r : Id} {b : Bool} {c : Column} {v : c.Value}

/-- A chosen value is one the safe value of its column differs from. -/
lemma Column.chosen_spec (h : Column.chosen a k r c = some v) :
    c ∈ policyColumns ∧ (∃ v', c.safe = some v' ∧ v' ≠ v) ∧
      ⟨c, v⟩ ∈ selectionAssignments (some a) (some k) (some r) ∧
      ∀ d o b, ⟨c, v⟩ ∈ (SelectionPolicy.mk d o (some a) (some k) (some r) b).assignments := by
  -- the three columns do not differ in this
  cases c <;> cases h
  all_goals exact ⟨by decide, ⟨none, rfl, by simp⟩, by simp [selectionAssignments],
    by simp [assignments]⟩

variable {old : SelectionPolicy} {u : Unit} {e : ManagementError} {policy : SelectionPolicy}
  {records : List Device}

/-- What a row that names the selection reads in the three columns. -/
lemma read_of_names (hold : policyRow P data d = some old)
    (hnames : old.Names a k r) (h : Column.chosen a k r c = some v) :
    P.rules.read (data.cells c d) = some v := by
  obtain ⟨-, -, ha, hk, hr, -⟩ := policyRow_eq_some.mp hold
  obtain ⟨hna, hnk, hnr⟩ := hnames
  cases c with
  | applicationId =>
    cases h
    exact ha.trans (congrArg some hna)
  | selectedKind =>
    cases h
    exact hk.trans (congrArg some hnk)
  | selectedId =>
    cases h
    exact hr.trans (congrArg some hnr)
  | _ => cases h

/-- The call changes the column: the row is new, or the column is in conflict or reads
differently. -/
def Changes (P : Platform) (data : Data) (d : Id) (c : Column) (v : c.Value) : Prop :=
  policyRow P data d = none ∨ P.rules.isConflicted (data.cells c d) = true ∨
    P.rules.read (data.cells c d) ≠ some v

/-- Settling the conflicts of a row leaves a changed column different from the value, or the row
absent. -/
lemma Changes.after_record (hP : P.Lawful) {policy : Option SelectionPolicy}
    (hc : Changes P s.data d c v) (hv : Column.chosen a k r c = some v)
    (h : (record P d).run s = (.ok policy, s')) :
    policyRow P s'.data d = none ∨ P.rules.read (s'.data.cells c d) ≠ some v := by
  obtain ⟨hmem, ⟨_, hsafe, hne⟩, -, -⟩ := Column.chosen_spec hv
  obtain ⟨_, has, rfl, hclean, -⟩ := record_run_ok h
  obtain ⟨hnodup, hall, hwrit⟩ :=
    resolution_spec hP policyColumns_nodup (fun _ _ => convergentResolution_ok) has
  rcases hc with hnone | hconf | _
  · left
    by_contra hsome
    obtain ⟨_, hrow⟩ := Option.ne_none_iff_exists'.mp hsome
    have hcols := (policyRow_isSome_iff hP).mp (by rw [hrow]; rfl)
    -- only columns that were there have been written
    have hbef : (policyRow P s.data d).isSome := by
      rw [policyRow_isSome_iff hP]
      intro c' hc'
      rcases writeRow_safe s.actor d s.data hnodup hall c' d with hsame | ⟨-, _, -, hmem'', -⟩
      · have := hcols c' hc'
        rwa [hsame] at this
      · exact hwrit _ hmem''
    rw [hnone] at hbef
    cases hbef
  all_goals
    right
    rcases writeRow_safe s.actor d s.data hnodup hall c d with hsame | ⟨-, _, hv'', -, hcells⟩
    swap
    · rw [hcells, hP.rules.read_write, ← hv'', hsafe]
      exact fun heq => hne (Option.some.inj heq)
  · have hclear := rowConflictValues_eq_nil.mp hclean c hmem
    rw [hsame, hconf] at hclear
    cases hclear
  · rwa [hsame]

/-- A call that changes the column writes it. -/
lemma setPrevalidated_writes (hP : P.Lawful) (hn : NamedRows P s.data)
    (h : (setPrevalidated P ⟨d, o, some a, some k, some r, b⟩).run s = (.ok u, s'))
    (hv : Column.chosen a k r c = some v) (hc : Changes P s.data d c v) :
    ∃ reg, (s.data.cells c d).Evolves s.actor reg ∧ s'.data.cells c d = reg.write s.actor v := by
  obtain ⟨-, -, s₁, _, hrec, -, hupd, -, hlast⟩ := setPrevalidated_spec hP hn h
  obtain ⟨hmem, -, hassigned, hinserted⟩ := Column.chosen_spec hv
  have hchg := hc.after_record hP hv hrec
  obtain ⟨hactor, hevol⟩ : s₁.actor = s.actor ∧
      ∀ c k, (s.data.cells c k).Evolves s.actor (s₁.data.cells c k) := by
    have hreach : QuietRun P s _ := (record_reaches hP d).of_run hrec
    exact evolves_of_steps hreach
  -- a row that stands after the record was read does not hold the value
  have hdiffers : ∀ old, policyRow P s₁.data d = some old →
      P.rules.read (s₁.data.cells c d) ≠ some v := by
    intro old hold
    refine hchg.resolve_left fun hnone => ?_
    rw [hold] at hnone
    cases hnone
  refine ⟨s₁.data.cells c d, hevol c d, ?_⟩
  rw [hlast c (notMem_resourceColumns c hmem) d, ← hactor]
  cases hupd with
  | insert hnew => exact after_insertPolicy_of_mem (hinserted d o b)
  | keep old hold hnames => exact absurd (read_of_names hold hnames hv) (hdiffers old hold)
  | update old hold hnames =>
    have hcells := after_updatePolicy_of_mem (by rw [hold]; rfl) (selectionAssignments_nodup ..)
      hassigned
    rw [hcells, Rules.assign]
    split
    · rfl
    · rename_i hkeeps
      obtain ⟨hne, hsame⟩ := hP.rules.keeps _ _ (by simpa using hkeeps)
      obtain ⟨w, hw⟩ := exists_mem_of_ne_nil _ hne
      refine absurd (hP.rules.read_eq (mem_live.mp hw).1 fun v' hv' => ?_) (hdiffers old hold)
      obtain ⟨x, hx, rfl⟩ := mem_values.mp hv'
      exact hsame x hx

/-! ## Rows in conflict -/

/-- The row has a conflict that reading cannot settle. -/
def Stuck (P : Platform) (data : Data) (d : Id) : Prop :=
  (policyConflicts P d data).mapM convergentResolution = .error conflictedPolicy

/-- The only error of the resolution. -/
lemma convergentResolution_error {conflict : ColumnConflict}
    (h : convergentResolution conflict = .error e) : e = conflictedPolicy := by
  unfold convergentResolution at h
  split at h
  case h_5 => exact (error.inj h).symm
  all_goals
    split at h
    · cases h
    · exact (error.inj h).symm

section
variable (hP : P.Lawful)
include hP

/-- Two different selections in one column cannot be settled. -/
lemma Stuck.of_values {a' : Id} {k' : String} {r' : Id} {v' : c.Value}
    (hv : Column.chosen a k r c = some v) (hv' : Column.chosen a' k' r' c = some v') (hne : v ≠ v')
    (hmem : v ∈ (data.cells c d).values) (hmem' : v' ∈ (data.cells c d).values)
    (honly : ∀ x ∈ (data.cells c d).values, x = v ∨ x = v') : Stuck P data d := by
  obtain ⟨hcolumn, -, -, -⟩ := Column.chosen_spec hv
  have hconf : P.rules.isConflicted (data.cells c d) = true := by
    by_contra hnot
    exact hne (hP.rules.eq_of_not_isConflicted (by simpa using hnot) hmem hmem')
  refine mapM_eq_error (fun _ _ => convergentResolution_error)
    (mem_rowConflictValues.mpr ⟨c, hcolumn, hconf, rfl⟩) ?_
  cases c <;> cases hv <;> cases hv'
  all_goals
    refine if_neg fun hnone => ?_
    rcases honly none hnone with heq | heq <;> cases heq

/-- A stuck policy cannot be read. -/
lemma record_stuck (h : Stuck P s.data d) :
    (record P d).run s = (.error conflictedPolicy, s) := by
  rw [record_run hP, h]

/-- Every call that reads a stuck row fails with the same error. -/
lemma get_stuck (h : Stuck P s.data d) :
    (get P d o a).eval s = .error conflictedPolicy := by
  rw [eval, get, run_bind, record_stuck hP h]

omit hP in
/-- A row that differs in no column is stuck as well. -/
lemma Stuck.congr {data' : Data} (h : Stuck P data d)
    (hsame : ∀ c ∈ policyColumns, data'.cells c d = data.cells c d) : Stuck P data' d := by
  have hconf : policyConflicts P d data' = policyConflicts P d data := by
    unfold policyConflicts rowConflictValues
    exact filterMap_congr fun c hc => by rw [hsame c hc]
  rwa [Stuck, hconf]

/-- The admission of another device leaves the row stuck. -/
lemma Stuck.of_admitted (hn : NamedRows P s.data) {publicKey : String}
    (hadm : (admitPeer P records o a k r publicKey).run s = (.ok true, s'))
    (h : Stuck P s.data d) : Stuck P s'.data d := by
  obtain ⟨other, hother⟩ : ∃ other, records.filter (·.publicKey == publicKey) = [other] := by
    unfold admitPeer at hadm
    split at hadm
    · exact ⟨_, by assumption⟩
    · cases congrArg fst hadm
  obtain ⟨hmem, hkey⟩ := mem_filter.mp (hother ▸ mem_singleton_self other)
  obtain rfl : other.publicKey = publicKey := by simpa using hkey
  obtain ⟨policy, s₁, hget, -, hsel⟩ := admitPeer_run_ok hmem hadm
  have hrec := (get_run_ok hget).1
  have hne : d ≠ other.id := by
    rintro rfl
    rw [record_stuck hP h] at hrec
    cases congrArg fst hrec
  have hreach : QuietRun P s ((record P other.id).run s).2 := (record_reaches hP ..).run s
  rw [hrec] at hreach
  have hn1 := hn.steps hP hreach
  obtain ⟨as, -, rfl, -⟩ := record_run_ok hrec
  obtain rfl := congrArg snd hsel
  refine h.congr fun c hc => ?_
  have hselected : c ≠ .selected := by
    rintro rfl
    exact notMem_resourceColumns _ hc (by decide)
  rw [resourceSelected_frame hP hn1 (.inl hselected)]
  exact modifyRow_of_ne_key hne

section
variable {device : Device} (hdev : records.filter (·.publicKey == device.publicKey) = [device])
  (happr : device.state = .approved) (howner : device.ownerSubject = o)
include hdev happr howner

/-- So its device is not admitted. -/
lemma admitPeer_stuck (h : Stuck P s.data device.id) :
    (admitPeer P records o a k r device.publicKey).run s = (.error conflictedPolicy, s) := by
  have hget : (get P device.id o a).run s = (.error conflictedPolicy, s) := by
    rw [get, run_bind, record_stuck hP h]
  simp only [admitPeer, hdev, happr, howner, bne_self_eq_false, Bool.or_self,
    Bool.false_eq_true, if_false, run_bind, hget]

/-- A pair with the device as its local peer. -/
lemma peersSelectedForSync_stuck {remoteKey : String}
    (hvalid : (device.publicKey == remoteKey || Text.isBlank o ||
      !(k == "database" || k == "filesystem")) = false) (h : Stuck P s.data device.id) :
    (peersSelectedForSync P (.ok records) device.publicKey remoteKey o a k r).eval s =
      .error conflictedPolicy := by
  rw [eval, peersSelectedForSync, hvalid, if_neg Bool.false_ne_true, run_bind, run_lift]
  simp only [run_bind, admitPeer_stuck hP hdev happr howner h]

/-- A pair with the device as its remote peer, if the local one is admitted. -/
lemma peersSelectedForSync_stuck_remote (hn : NamedRows P s.data) {localKey : String}
    (hvalid : (localKey == device.publicKey || Text.isBlank o ||
      !(k == "database" || k == "filesystem")) = false) (h : Stuck P s.data device.id)
    (hlocal : (admitPeer P records o a k r localKey).eval s = .ok true) :
    (peersSelectedForSync P (.ok records) localKey device.publicKey o a k r).eval s =
      .error conflictedPolicy := by
  obtain ⟨s₁, hadm⟩ : ∃ s₁, (admitPeer P records o a k r localKey).run s = (.ok true, s₁) :=
    ⟨_, run_of_eval hlocal⟩
  have hstuck := h.of_admitted hP hn hadm
  rw [eval, peersSelectedForSync, hvalid, if_neg Bool.false_ne_true, run_bind, run_lift]
  simp only [run_bind, hadm, if_true, admitPeer_stuck hP hdev happr howner hstuck]

end

end

/-! ## Rows without conflicts -/

/-- A check with another message does not fail for a conflict. -/
lemma failIf_ne_conflictedPolicy {test : Bool} {message : String}
    (hne : message ≠ "conflicted selection policy") :
    (failIf test (invalid message) : PolicyTask Unit).run s ≠ (.error conflictedPolicy, s') := by
  intro h
  cases test with
  | true =>
    have herror := error.inj (congrArg fst h)
    exact hne (ManagementError.invalidInput.inj herror)
  | false => cases congrArg fst h

lemma checkOldPolicy_ne_conflictedPolicy (policy : SelectionPolicy) (old : Option SelectionPolicy) :
    (checkOldPolicy policy old).run s ≠ (.error conflictedPolicy, s') := by
  intro h
  cases old with
  | none => cases congrArg fst h
  | some old =>
    rcases run_bind_error.mp h with howner | ⟨_, _, -, h1⟩
    · exact failIf_ne_conflictedPolicy (by simp) howner
    · rcases run_bind_error.mp h1 with hcompl | ⟨_, _, -, hadmin⟩
      · exact failIf_ne_conflictedPolicy (by simp) hcompl
      · exact failIf_ne_conflictedPolicy (by simp) hadmin

/-- The checks change nothing. -/
lemma checkOldPolicy_run_ok {old : Option SelectionPolicy}
    (h : (checkOldPolicy policy old).run s = (.ok u, s')) : s' = s := by
  cases old with
  | none => exact (Prod.ext_iff.mp h).2.symm
  | some old =>
    obtain ⟨_, _, howner, h1⟩ := run_bind_ok.mp h
    obtain ⟨_, _, hcompl, hadmin⟩ := run_bind_ok.mp h1
    rw [(failIf_run_ok.mp hadmin).2, (failIf_run_ok.mp hcompl).2, (failIf_run_ok.mp howner).2]

section
variable (hP : P.Lawful)
include hP

/-- Bringing a policy row without conflicts up to date succeeds and leaves it without conflicts. -/
lemma policyStatement_clean (policy : SelectionPolicy)
    (h : policyConflicts P policy.deviceId s.data = []) :
    ∃ s₁, (skipIf (policyStatement policy (policyRow P s.data policy.deviceId)).isEmpty
        (execute P (policyStatement policy (policyRow P s.data policy.deviceId)))).run s =
          (.ok (), s₁) ∧ policyConflicts P policy.deviceId s₁.data = [] ∧
      QuietRun P s s₁ := by
  have hbef := rowConflictValues_eq_nil.mp h
  cases hold : policyRow P s.data policy.deviceId with
  | none =>
    refine ⟨_, execute_run (.insertPolicy policy) (by simp [Statement.duplicate, hold]),
      rowConflictValues_eq_nil.mpr fun c hc => ?_, .single (.insertPolicy policy hold)⟩
    obtain ⟨b, hb, rfl⟩ : ∃ b ∈ policy.assignments, b.column = c := by
      rw [← mem_map]
      exact hc
    rw [after_insertPolicy_of_mem hb]
    exact hP.rules.isConflicted_write _ _
  | some old =>
    simp only [policyStatement]
    split
    · exact ⟨s, rfl, h, .refl⟩
    · refine ⟨_, execute_run _ rfl, rowConflictValues_eq_nil.mpr fun c hc => ?_,
        .single (.choose policy.deviceId _ _ _)⟩
      by_cases hassigned : ∃ b ∈ selectionAssignments policy.applicationId policy.selectedKind
          policy.selectedId, b.column = c
      · obtain ⟨b, hb, rfl⟩ := hassigned
        rw [after_updatePolicy_of_mem (by rw [hold]; rfl) (selectionAssignments_nodup ..) hb]
        exact hP.rules.isConflicted_assign (hbef _ hc) _ _
      · push Not at hassigned
        rw [after_updatePolicy_of_notMem hassigned]
        exact hbef c hc

section
variable (hn : NamedRows P s.data)
include hn

lemma resourceSelected_error
    (h : (resourceSelected P d o a k r).run s = (.error e, s')) : e = conflictedResource := by
  rw [resourceSelected_run hP d o a k r s hn] at h
  split at h
  · cases congrArg fst h
  · cases congrArg fst h
  · rename_i has
    obtain rfl := error.inj (congrArg fst h)
    obtain ⟨_, -, herror⟩ := exists_of_mapM_error has
    unfold resourceResolution at herror
    split at herror
    · split at herror
      · cases herror
      · exact (error.inj herror).symm
    · exact (error.inj herror).symm

/-- The only error of a selection. -/
lemma setResourceSelected_error
    (h : (setResourceSelected P policy).run s = (.error e, s')) : e = conflictedResource := by
  unfold setResourceSelected at h
  split at h
  · rcases run_bind_error.mp h with hask | ⟨answer, _, hask, h1⟩
    · exact resourceSelected_error hP hn hask
    · obtain ⟨hclean, -⟩ := resourceSelected_run_ok hP hn hask
      cases answer with
      | true => cases congrArg fst h1
      | false =>
        -- neither asking whether the row exists nor writing it can fail
        simp only [Bool.false_eq_true, if_false, run_bind, rowExists_run hclean] at h1
        split at h1
        · cases congrArg fst h1
        · rename_i hrow
          rw [execute_run _ (by simpa [Statement.duplicate] using hrow)] at h1
          cases congrArg fst h1
  · cases congrArg fst h

/-- A row without conflicts can be set. -/
lemma setPrevalidated_clean (policy : SelectionPolicy)
    (hclean : policyConflicts P policy.deviceId s.data = []) :
    (setPrevalidated P policy).eval s ≠ .error conflictedPolicy := by
  intro heval
  have h : (setPrevalidated P policy).run s =
    (.error conflictedPolicy, ((setPrevalidated P policy).run s).2) := Prod.ext heval rfl
  rcases run_bind_error.mp h with hvalid | ⟨_, _, hvalid, h0⟩
  · exact failIf_ne_conflictedPolicy (by simp) hvalid
  obtain ⟨-, rfl⟩ := failIf_run_ok.mp hvalid
  rw [run_bind, record_run_of_clear hP hclean] at h0
  rcases run_bind_error.mp h0 with hcheck | ⟨_, _, hcheck, h1⟩
  · exact checkOldPolicy_ne_conflictedPolicy _ _ hcheck
  obtain rfl := checkOldPolicy_run_ok hcheck
  obtain ⟨s₂, hexe, hclean2, hreach⟩ := policyStatement_clean hP policy hclean
  have hclear : (clear P policy.deviceId).run s₂ = (.ok (), s₂) := clear_run_ok.mpr ⟨hclean2, rfl⟩
  simp only [run_bind, hexe, hclear] at h1
  split at h1
  · cases congrArg fst h1
  · have herror := setResourceSelected_error hP (hn.steps hP hreach) h1
    exact absurd herror (by simp [conflictedPolicy, conflictedResource, invalid])

end

/-- Reading a row without conflicts. -/
lemma get_run_of_clear (hclean : policyConflicts P d s.data = []) :
    (get P d o a).run s = (match policyRow P s.data d with
        | some policy =>
          if policy.ownerSubject != o then .error (invalid "selection policy owner mismatch")
          else if policy.incomplete then .error (invalid "incomplete selection policy")
          else .ok (some policy)
        | none => .ok none, s) := by
  rw [get, run_bind, record_run_of_clear hP hclean]
  cases policyRow P s.data d with
  | none => rfl
  | some policy =>
    cases howner : policy.ownerSubject != o with
    | true => simp [failIf, run_bind, howner]
    | false =>
      cases hinc : policy.incomplete with
      | true => simp [failIf, run_bind, howner, hinc]
      | false => simp [failIf, run_bind, howner, hinc]

end

/-- The rows of all devices are without conflicts. -/
def CleanRecords (P : Platform) (records : List Device) (data : Data) : Prop :=
  ∀ device ∈ records, policyConflicts P device.id data = []

/-- Asking for a resource touches no policy row. -/
lemma CleanRecords.resourceSelected (hP : P.Lawful) (hn : NamedRows P s.data)
    (h : CleanRecords P records s.data) :
    CleanRecords P records ((resourceSelected P d o a k r).run s).2.data := by
  intro device hmem
  refine rowConflictValues_eq_nil.mpr fun c hc => ?_
  have hne : c ≠ .selected := by
    rintro rfl
    exact notMem_resourceColumns _ hc (by decide)
  rw [resourceSelected_frame hP hn (.inl hne)]
  exact rowConflictValues_eq_nil.mp (h device hmem) c hc

/-- Admission reads rows without conflicts and leaves them so. -/
lemma admitPeer_clean (hP : P.Lawful) (hn : NamedRows P s.data)
    {publicKey : String} (hclean : CleanRecords P records s.data) :
    (admitPeer P records o a k r publicKey).eval s ≠ .error conflictedPolicy ∧
      CleanRecords P records ((admitPeer P records o a k r publicKey).run s).2.data := by
  unfold eval admitPeer
  split
  · rename_i device hdev
    have hmem : device ∈ records := by
      have hfil : device ∈ records.filter (·.publicKey == publicKey) := by
        rw [hdev]
        exact mem_singleton_self device
      exact (mem_filter.mp hfil).1
    split
    · exact ⟨nofun, hclean⟩
    · rw [run_bind, get_run_of_clear hP (hclean device hmem)]
      cases policyRow P s.data device.id with
      | none => exact ⟨nofun, hclean⟩
      | some policy =>
        by_cases howner : (policy.ownerSubject != o) = true
        · simp only [if_pos howner]
          exact ⟨by simp [conflictedPolicy, invalid], hclean⟩
        · by_cases hinc : policy.incomplete = true
          · simp only [if_neg howner, if_pos hinc]
            exact ⟨by simp [conflictedPolicy, invalid], hclean⟩
          · simp only [if_neg howner, if_neg hinc]
            split
            · exact ⟨nofun, hclean⟩
            · refine ⟨fun h => ?_, hclean.resourceSelected hP hn⟩
              have herror := resourceSelected_error hP hn (Prod.ext h rfl)
              exact absurd herror (by simp [conflictedPolicy, conflictedResource, invalid])
  · exact ⟨nofun, hclean⟩

/-- Pairs of devices with rows without conflicts get an answer, or fail for another reason. -/
lemma peersSelectedForSync_clean (hP : P.Lawful) (hn : NamedRows P s.data)
    {localKey remoteKey : String} (hclean : CleanRecords P records s.data) :
    (peersSelectedForSync P (.ok records) localKey remoteKey o a k r).eval s ≠
      .error conflictedPolicy := by
  obtain ⟨hlocal, hclean1⟩ : (admitPeer P records o a k r localKey).eval s ≠
      .error conflictedPolicy ∧
        CleanRecords P records ((admitPeer P records o a k r localKey).run s).2.data :=
    admitPeer_clean hP hn hclean
  have hreach : QuietRun P s
      ((admitPeer P records o a k r localKey).run s).2 := (admitPeer_reaches hP ..).run s
  have hn1 := hn.steps hP hreach
  unfold eval peersSelectedForSync
  split
  · exact nofun
  · rw [run_bind, run_lift]
    simp only [run_bind]
    unfold eval at hlocal
    rcases hadmits : (admitPeer P records o a k r localKey).run s with ⟨answer | answer, _⟩
    · rw [hadmits] at hlocal
      exact hlocal
    · rw [hadmits] at hclean1 hn1
      cases answer with
      | false => exact nofun
      | true => exact (admitPeer_clean hP hn1 hclean1).1

/-- The policy row names the selection, without conflicts and without a restriction. -/
def CleanPolicy (P : Platform) (data : Data) (d : Id) (o : String) (a : Id) (k : String) (r : Id) :
    Prop :=
  policyConflicts P d data = [] ∧
    policyRow P data d = some ⟨d, o, some a, some k, some r, true⟩

/-- Cleanness depends on the policy's columns alone. -/
lemma CleanPolicy.congr {data' : Data} (h : CleanPolicy P data d o a k r)
    (hsame : ∀ c ∈ policyColumns, data'.cells c d = data.cells c d) :
    CleanPolicy P data' d o a k r := by
  refine ⟨rowConflictValues_eq_nil.mpr fun c hc => ?_, ?_⟩
  · rw [hsame c hc]
    exact rowConflictValues_eq_nil.mp h.1 c hc
  · rw [← h.2]
    simp only [policyColumns, forall_mem_cons] at hsame
    obtain ⟨ho, ha, hk, hr, hb, -⟩ := hsame
    rw [policyRow, policyRow, ho, ha, hk, hr, hb]

/-- The policy row after an update of a row that stood before. -/
lemma PolicyUpdate.row (hP : P.Lawful) (h : PolicyUpdate P s d o a k r b s')
    (hold : policyRow P s.data d = some old) (howner : old.ownerSubject = o)
    (hadmin : old.adminAllowed = true) :
    policyRow P s'.data d = some ⟨d, o, some a, some k, some r, true⟩ := by
  obtain ⟨-, hreadOwner, hreada, hreadk, hreadr, hreadAdmin⟩ := policyRow_eq_some.mp hold
  rw [howner] at hreadOwner
  rw [hadmin] at hreadAdmin
  cases h with
  | insert hnew =>
    rw [hnew] at hold
    cases hold
  | keep old' hold' hnames =>
    obtain rfl := Option.some.inj (hold.symm.trans hold')
    obtain ⟨hna, hnk, hnr⟩ := hnames
    rw [hna] at hreada
    rw [hnk] at hreadk
    rw [hnr] at hreadr
    exact policyRow_eq_some.mpr ⟨rfl, hreadOwner, hreada, hreadk, hreadr, hreadAdmin⟩
  | update old' _ _ =>
    have hcells : ∀ b ∈ selectionAssignments (some a) (some k) (some r), P.rules.read ((s.after P
        (.updatePolicy d (selectionAssignments (some a) (some k) (some r)))).data.cells b.column
          d) = some b.value := by
      intro b hb
      rw [after_updatePolicy_of_mem (by rw [hold]; rfl) (selectionAssignments_nodup ..) hb]
      exact hP.rules.read_assign _ _
    refine policyRow_eq_some.mpr ⟨rfl, ?_, ?_, ?_, ?_, ?_⟩
    · rw [after_updatePolicy_of_notMem (by simp [selectionAssignments])]
      exact hreadOwner
    · exact hcells ⟨.applicationId, some a⟩ (by simp [selectionAssignments])
    · exact hcells ⟨.selectedKind, some k⟩ (by simp [selectionAssignments])
    · exact hcells ⟨.selectedId, some r⟩ (by simp [selectionAssignments])
    · rw [after_updatePolicy_of_notMem (by simp [selectionAssignments])]
      exact hreadAdmin

/-- Selecting over a row without conflicts leaves the row clean, and unchanged if it named the
selection before. -/
lemma setPrevalidated_cleanPolicy (hP : P.Lawful) (hn : NamedRows P s.data)
    (h : (setPrevalidated P ⟨d, o, some a, some k, some r, b⟩).run s = (.ok u, s'))
    (hclean : policyConflicts P d s.data = []) (hold : policyRow P s.data d = some old) :
    CleanPolicy P s'.data d o a k r ∧ (old.Names a k r →
      ∀ c ∈ policyColumns, s'.data.cells c d = s.data.cells c d) := by
  obtain ⟨-, -, _, s₂, hrec, hchk, hupd, hclean2, hlast⟩ := setPrevalidated_spec hP hn h
  rw [record_run_of_clear hP hclean] at hrec
  obtain rfl := congrArg snd hrec
  obtain ⟨howner, -, hadmin⟩ := hchk old hold
  have hsame : ∀ c ∈ policyColumns, s'.data.cells c d = s₂.data.cells c d := fun c hc =>
    hlast c (notMem_resourceColumns c hc) d
  refine ⟨.congr ⟨hclean2, hupd.row hP hold howner hadmin⟩ hsame, fun hnames c hc => ?_⟩
  rw [hsame c hc]
  cases hupd with
  | insert hnew =>
    rw [hold] at hnew
    cases hnew
  | keep _ _ _ => rfl
  | update old' hold' hnot =>
    obtain rfl := Option.some.inj (hold.symm.trans hold')
    exact absurd hnames hnot

end

/-! ## Two selections from the same tables -/

/-- A selection of the owner's: application, kind and identifier of a resource. -/
structure Choice where
  applicationId : Id
  kind : String
  resourceId : Id
deriving DecidableEq, Repr

/-- The policy with which a choice is set. -/
def Choice.policy (p : Choice) (d : Id) (o : String) (b : Bool) : SelectionPolicy :=
  ⟨d, o, some p.applicationId, some p.kind, some p.resourceId, b⟩

/-- The policy row has no conflicts and names the choice. -/
def Choice.Named (P : Platform) (data : Data) (d : Id) (p : Choice) : Prop :=
  policyConflicts P d data = [] ∧ ∃ old, policyRow P data d = some old ∧
    old.Names p.applicationId p.kind p.resourceId

/-- Both choices change a column of the policy row, and not to the same value. -/
def Choice.Clash (P : Platform) (data : Data) (d : Id) (p q : Choice) : Prop :=
  ∃ c v v', Column.chosen p.applicationId p.kind p.resourceId c = some v ∧
    Column.chosen q.applicationId q.kind q.resourceId c = some v' ∧ v ≠ v' ∧
    Changes P data d c v ∧ Changes P data d c v'

section
variable {P : Platform} {data : Data} {i j : ℕ} {d : Id} {o : String} {p q : Choice} {b b' : Bool}
  {A B : Replica}

/-- Clashing is symmetric. -/
lemma Choice.Clash.symm (h : Choice.Clash P data d p q) : Choice.Clash P data d q p := by
  obtain ⟨c, v, v', hv, hv', hne, hc, hc'⟩ := h
  exact ⟨c, v', v, hv', hv, hne.symm, hc', hc⟩

variable (hP : P.Lawful)
include hP

/-- A selection is a path of policy steps. -/
lemma setPrevalidated_steps {s s' : Replica} {policy : SelectionPolicy} {u : Unit}
    (h : (setPrevalidated P policy).run s = (.ok u, s')) :
    Relation.ReflTransGen (PolicyStep P (fun _ => True) fun _ => False) s s' :=
  (setPrevalidated_reaches hP fun _ => trivial).of_run h

variable (hn : NamedRows P data)
include hn

/-- Both resources are selected after the merge. -/
lemma selectedRow_of_both (hpq : p ≠ q)
    (hA : (setPrevalidated P (p.policy d o b)).run ⟨i, data⟩ = (.ok (), A))
    (hB : (setPrevalidated P (q.policy d o b')).run ⟨j, data⟩ = (.ok (), B)) :
    SelectedRow P (A.data.merge B.data) d o p.applicationId p.kind p.resourceId ∧
      SelectedRow P (B.data.merge A.data) d o p.applicationId p.kind p.resourceId := by
  obtain ⟨hsel, -, -⟩ := setPrevalidated_spec hP hn hA
  obtain ⟨-, hframe, -⟩ := setPrevalidated_spec hP hn hB
  obtain ⟨-, hevol⟩ := evolves_of_steps (setPrevalidated_steps hP hA)
  have hid : P.resourceSelectionId d o p.applicationId p.kind p.resourceId ≠
      P.resourceSelectionId d o q.applicationId q.kind q.resourceId := by
    intro heq
    obtain ⟨-, -, _, _, _⟩ := hP.selectionId_injective heq
    apply hpq
    cases p
    cases q
    simp_all
  refine hsel.merge fun c hc w hw => ?_
  rw [hframe c hc _ hid] at hw
  exact (hevol c _).mem hw

/-- A row that named one of the two is readable after the merge. -/
lemma cleanPolicy_of_named (hnamed : Choice.Named P data d p)
    (hA : (setPrevalidated P (p.policy d o b)).run ⟨i, data⟩ = (.ok (), A))
    (hB : (setPrevalidated P (q.policy d o b')).run ⟨j, data⟩ = (.ok (), B)) :
    CleanPolicy P (A.data.merge B.data) d o q.applicationId q.kind q.resourceId ∧
      CleanPolicy P (B.data.merge A.data) d o q.applicationId q.kind q.resourceId := by
  obtain ⟨hclean, _, hold, hnames⟩ := hnamed
  obtain ⟨-, hkept⟩ := setPrevalidated_cleanPolicy hP hn hA hclean hold
  obtain ⟨hrow, -⟩ := setPrevalidated_cleanPolicy hP hn hB hclean hold
  obtain ⟨-, hevol⟩ := evolves_of_steps (setPrevalidated_steps hP hB)
  have hless : ∀ c ∈ policyColumns, ∀ w ∈ A.data.cells c d, w ∈ B.data.cells c d := by
    intro c hc w hw
    rw [hkept hnames c hc] at hw
    exact (hevol c d).mem hw
  exact ⟨hrow.congr fun c hc => merge_eq_right (hless c hc),
    hrow.congr fun c hc => merge_eq_left (hless c hc)⟩

/-- A row that both have changed is stuck after the merge. -/
lemma stuck_of_clash (hij : i ≠ j) (hclash : Choice.Clash P data d p q)
    (hA : (setPrevalidated P (p.policy d o b)).run ⟨i, data⟩ = (.ok (), A))
    (hB : (setPrevalidated P (q.policy d o b')).run ⟨j, data⟩ = (.ok (), B)) :
    Stuck P (A.data.merge B.data) d := by
  obtain ⟨c, v, v', hv, hv', hne, hc, hc'⟩ := hclash
  obtain ⟨reg, hreg, hcells⟩ := setPrevalidated_writes hP hn hA hv hc
  obtain ⟨reg', hreg', hcells'⟩ := setPrevalidated_writes hP hn hB hv' hc'
  have hours : (data.cells c d).Evolves i (A.data.cells c d) := by
    rw [hcells]
    exact hreg.trans (Register.Evolves.write reg i v)
  have htheirs : (data.cells c d).Evolves j (B.data.cells c d) := by
    rw [hcells']
    exact hreg'.trans (Register.Evolves.write reg' j v')
  have hlive : reg.newWrite i v ∈ ((A.data.cells c d).merge (B.data.cells c d)).live := by
    refine (hours.live_merge htheirs hij ?_ ?_).1
    · rw [hcells]
      exact mem_live_write.mpr rfl
    · exact fun hold => newWrite_notMem reg i v (Register.Evolves.mem hreg hold)
  have hlive' : reg'.newWrite j v' ∈ ((A.data.cells c d).merge (B.data.cells c d)).live := by
    refine (htheirs.live_merge hours hij.symm ?_ ?_).2
    · rw [hcells']
      exact mem_live_write.mpr rfl
    · exact fun hold => newWrite_notMem reg' j v' (Register.Evolves.mem hreg' hold)
  refine .of_values hP hv hv' hne (mem_values.mpr ⟨_, hlive, rfl⟩)
    (mem_values.mpr ⟨_, hlive', rfl⟩) fun x hx => ?_
  obtain ⟨w, hw, rfl⟩ := mem_values.mp hx
  rcases hours.live_of_merge htheirs hij hw with hw | hw
  · rw [hcells] at hw
    rw [mem_live_write.mp hw]
    exact .inl rfl
  · rw [hcells'] at hw
    rw [mem_live_write.mp hw]
    exact .inr rfl

end

/-- Two replicas with the same tables select different resources for one device. After a merge in
either direction both resources are selected. If the policy row named one of them before, without
conflicts, then `get`, `set_prevalidated` and `peers_selected_for_sync` do not fail for a conflict
of the device; if both calls have changed a column to different values, all three fail, the last one
with the device as the first peer, or as the second peer of one that is admitted. -/
theorem concurrent_selections (P : Platform) (hP : P.Lawful) (s : System) (hs : s.Reachable P)
    (i j : ℕ) (hij : i ≠ j) (hcommon : s.replicas i = s.replicas j) (d : Id) (o : String)
    (p q : Choice) (hpq : p ≠ q) (b b' : Bool) (A B M : Replica)
    (hA : (setPrevalidated P (p.policy d o b)).run ⟨i, s.replicas i⟩ = (.ok (), A))
    (hB : (setPrevalidated P (q.policy d o b')).run ⟨j, s.replicas j⟩ = (.ok (), B))
    (hM : M = ⟨i, A.data.merge B.data⟩ ∨ M = ⟨j, B.data.merge A.data⟩) :
    (resourceSelected P d o p.applicationId p.kind p.resourceId).eval M = .ok true ∧
    (resourceSelected P d o q.applicationId q.kind q.resourceId).eval M = .ok true ∧
    (Choice.Named P (s.replicas i) d p ∨ Choice.Named P (s.replicas i) d q →
      (∀ a, ∃ policy, (get P d o a).eval M = .ok (some policy)) ∧
      (∀ policy, policy.deviceId = d →
        (setPrevalidated P policy).eval M ≠ .error conflictedPolicy) ∧
      ∀ (records : List Device) (localKey remoteKey o' : String) (a : Id) (k : String) (r : Id),
        (∀ device ∈ records, device.id = d ∨ policyConflicts P device.id M.data = []) →
          (peersSelectedForSync P (.ok records) localKey remoteKey o' a k r).eval M ≠
            .error conflictedPolicy) ∧
    (Choice.Clash P (s.replicas i) d p q →
      (∀ a, (get P d o a).eval M = .error conflictedPolicy) ∧
      (∀ policy, policy.deviceId = d → (Text.isBlank policy.ownerSubject || policy.incomplete ||
        policy.selectedKind.any (· == "")) = false →
          (setPrevalidated P policy).eval M = .error conflictedPolicy) ∧
      ∀ (records : List Device) (device : Device) (otherKey : String) (a : Id) (k : String)
        (r : Id), records.filter (·.publicKey == device.publicKey) = [device] → device.id = d →
        device.state = .approved → device.ownerSubject = o →
        (device.publicKey == otherKey || Text.isBlank o ||
          !(k == "database" || k == "filesystem")) = false →
          (peersSelectedForSync P (.ok records) device.publicKey otherKey o a k r).eval M =
            .error conflictedPolicy ∧
          ((admitPeer P records o a k r otherKey).eval M = .ok true →
            (peersSelectedForSync P (.ok records) otherKey device.publicKey o a k r).eval M =
              .error conflictedPolicy)) := by
  have hn := hs.namedRows hP i
  rw [← hcommon] at hB
  have hnA : NamedRows P A.data := hn.steps hP (setPrevalidated_steps hP hA)
  have hnB : NamedRows P B.data := hn.steps hP (setPrevalidated_steps hP hB)
  -- what holds after the merge in either direction holds at M
  have hmerged : ∀ {X : Data → Prop}, X (A.data.merge B.data) ∧ X (B.data.merge A.data) →
      X M.data := by
    rintro X ⟨hAB, hBA⟩
    rcases hM with rfl | rfl
    · exact hAB
    · exact hBA
  have hnM : NamedRows P M.data := hmerged ⟨hnA.merge hP hnB, hnB.merge hP hnA⟩
  refine ⟨?_, ?_, fun hnamed => ?_, fun hclash => ?_⟩
  · have hsel := hmerged (X := (SelectedRow P · d o p.applicationId p.kind p.resourceId))
      (selectedRow_of_both hP hn hpq hA hB)
    exact congrArg fst (resourceSelected_of_selectedRow hP hnM hsel)
  · have hsel := hmerged (X := (SelectedRow P · d o q.applicationId q.kind q.resourceId))
      (selectedRow_of_both hP hn hpq.symm hB hA).symm
    exact congrArg fst (resourceSelected_of_selectedRow hP hnM hsel)
  · obtain ⟨p', hclean, hrow⟩ : ∃ p' : Choice,
        CleanPolicy P M.data d o p'.applicationId p'.kind p'.resourceId := by
      rcases hnamed with hnamed | hnamed
      · exact ⟨q, hmerged (X := (CleanPolicy P · d o q.applicationId q.kind q.resourceId))
          (cleanPolicy_of_named hP hn hnamed hA hB)⟩
      · exact ⟨p, hmerged (X := (CleanPolicy P · d o p.applicationId p.kind p.resourceId))
          (cleanPolicy_of_named hP hn hnamed hB hA).symm⟩
    refine ⟨fun a => ⟨p'.policy d o true, ?_⟩, fun policy hid => ?_,
      fun records _ _ _ _ _ _ hothers => ?_⟩
    · rw [eval, get_run_of_clear hP hclean, hrow]
      simp [incomplete, Choice.policy]
    · subst hid
      exact setPrevalidated_clean hP hnM policy hclean
    · refine peersSelectedForSync_clean hP hnM fun device hmem => ?_
      rcases hothers device hmem with rfl | hother
      · exact hclean
      · exact hother
  · have hstuck := hmerged (X := (Stuck P · d)) ⟨stuck_of_clash hP hn hij hclash hA hB,
      stuck_of_clash hP hn hij.symm hclash.symm hB hA⟩
    refine ⟨fun a => get_stuck hP hstuck, fun policy hid hvalid => ?_, ?_⟩
    · subst hid
      rw [eval, setPrevalidated, run_bind, (failIf_run_ok (u := ())).mpr ⟨hvalid, rfl⟩]
      simp only
      rw [run_bind, record_stuck hP hstuck]
    · intro records device otherKey a k r hdev hid happr howner hvalid
      subst hid
      refine ⟨peersSelectedForSync_stuck hP hdev happr howner hvalid hstuck, fun hother => ?_⟩
      exact peersSelectedForSync_stuck_remote hP hdev happr howner hnM
        (by rwa [Bool.beq_comm]) hstuck hother

open Reference

/-- Both replicas know of database 4; one selects it again, the other one database 5. -/
theorem concurrent_selections_reference :
    (resourceSelected platform 1 "owner" 3 "database" 5).eval
      ⟨0, ((setPrevalidated platform (choice 4)).run
        ⟨0, common.replicas 0⟩).2.data.merge
        ((setPrevalidated platform (choice 5)).run
          ⟨1, common.replicas 1⟩).2.data⟩ = .ok true := by
  have hleft : (setPrevalidated platform (choice 4)).eval
      ⟨0, common.replicas 0⟩ = .ok () := by decide +kernel
  have hright : (setPrevalidated platform (choice 5)).eval
      ⟨1, common.replicas 1⟩ = .ok () := by decide +kernel
  exact (concurrent_selections platform platform_lawful _
    common_reachable 0 1 (by decide) common_replicas 1 "owner"
    ⟨3, "database", 4⟩ ⟨3, "database", 5⟩ (by decide) true true _ _ _ (Prod.ext hleft rfl)
    (Prod.ext hright rfl) (.inl rfl)).2.1

/-- Two first selections leave a policy that neither replica can read. -/
theorem concurrent_selections_conflict :
    (setPrevalidated platform (choice 4)).eval ⟨0, .empty⟩ = .ok () ∧
    (setPrevalidated platform (choice 5)).eval ⟨1, .empty⟩ = .ok () ∧
    (get platform 1 "owner" 3).eval
      ⟨0, ((setPrevalidated platform (choice 4)).run ⟨0, .empty⟩).2.data.merge
        ((setPrevalidated platform (choice 5)).run ⟨1, .empty⟩).2.data⟩ =
      .error conflictedPolicy ∧
    (get platform 1 "owner" 3).eval
      ⟨1, ((setPrevalidated platform (choice 5)).run ⟨1, .empty⟩).2.data.merge
        ((setPrevalidated platform (choice 4)).run ⟨0, .empty⟩).2.data⟩ =
      .error conflictedPolicy :=
  ⟨by decide +kernel, by decide +kernel, by decide +kernel, by decide +kernel⟩

end LocalPlatform.Management
