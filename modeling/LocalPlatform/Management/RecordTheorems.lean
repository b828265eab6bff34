import LocalPlatform.Management.System

/-!
# What reading a policy does

`record` settles the conflicts that have a safe side, fails on all others, and returns the row it
finds afterwards.
-/

namespace LocalPlatform.Management

open Resumption MultiValue List Option

section
variable {P : Platform} (hP : P.Lawful) {s s' : Replica} {d : Id} {data data' : Data}

/-! ## Rows -/

variable {policy : SelectionPolicy} {o : String} {a : Id} {k : String} {r : Id}
  {records : List Device} {device : Device}

/-- The columns of a row that a query returns. -/
lemma policyRow_eq_some : policyRow P data d = some policy ↔
    policy.deviceId = d ∧ P.rules.read (data.cells .ownerSubject d) = some policy.ownerSubject ∧
      P.rules.read (data.cells .applicationId d) = some policy.applicationId ∧
      P.rules.read (data.cells .selectedKind d) = some policy.selectedKind ∧
      P.rules.read (data.cells .selectedId d) = some policy.selectedId ∧
      P.rules.read (data.cells .adminAllowed d) = some policy.adminAllowed := by
  constructor
  · intro h
    simp only [policyRow, bind_eq_bind, bind_eq_some_iff] at h
    obtain ⟨o, ho, a, ha, k, hk, r, hr, b, hb, hpol⟩ := h
    obtain rfl := some.inj hpol
    exact ⟨rfl, ho, ha, hk, hr, hb⟩
  · rintro ⟨rfl, ho, ha, hk, hr, hb⟩
    simp [policyRow, ho, ha, hk, hr, hb]

include hP in
/-- A policy row exists when all its columns have been written. -/
lemma policyRow_isSome_iff :
    (policyRow P data d).isSome ↔ ∀ c ∈ policyColumns, ∃ w, w ∈ data.cells c d := by
  have hread : ∀ c : Column, (P.rules.read (data.cells c d)).isSome ↔ ∃ w, w ∈ data.cells c d :=
    fun c => hP.rules.read_isSome_iff
  simp only [policyColumns, forall_mem_cons, not_mem_nil, IsEmpty.forall_iff,
    implies_true, and_true, ← hread]
  rw [isSome_iff_exists]
  constructor
  · rintro ⟨_, hpol⟩
    obtain ⟨-, ho, ha, hk, hr, hb⟩ := policyRow_eq_some.mp hpol
    rw [ho, ha, hk, hr, hb]
    exact ⟨rfl, rfl, rfl, rfl, rfl⟩
  · simp only [isSome_iff_exists]
    rintro ⟨⟨o, ho⟩, ⟨a, ha⟩, ⟨k, hk⟩, ⟨r, hr⟩, ⟨b, hb⟩⟩
    exact ⟨⟨d, o, a, k, r, b⟩, policyRow_eq_some.mpr ⟨rfl, ho, ha, hk, hr, hb⟩⟩

include hP in
/-- Rows do not disappear. -/
lemma policyRow_isSome_mono (h : (policyRow P data d).isSome)
    (hmono : ∀ c w, w ∈ data.cells c d → w ∈ data'.cells c d) : (policyRow P data' d).isSome := by
  rw [policyRow_isSome_iff hP] at h ⊢
  intro c hc
  obtain ⟨w, hw⟩ := h c hc
  exact ⟨w, hmono c w hw⟩

/-! ## Reading -/

/-- What a successful read has done. -/
lemma record_run_ok {policy : Option SelectionPolicy} (h : (record P d).run s = (.ok policy, s')) :
    ∃ as, (policyConflicts P d s.data).mapM convergentResolution = .ok as ∧
      s' = { s with data := writeRow s.actor d as s.data } ∧
      policyConflicts P d s'.data = [] ∧ policy = policyRow P s'.data d := by
  obtain ⟨_, _, hresv, h1⟩ := run_bind_ok.mp h
  obtain ⟨_, s₂, hclear, h2⟩ := run_bind_ok.mp h1
  obtain ⟨row, s3, hrow, h3⟩ := run_bind_ok.mp h2
  obtain ⟨_, s4, hclear', h4⟩ := run_bind_ok.mp h3
  obtain ⟨hclean, rfl⟩ := clear_run_ok.mp hclear
  obtain ⟨rfl, rfl⟩ : policyRow P s₂.data d = row ∧ s₂ = s3 := by
    simpa [rawRecord] using hrow
  obtain ⟨-, rfl⟩ := clear_run_ok.mp hclear'
  obtain ⟨rfl, rfl⟩ : policyRow P s4.data d = policy ∧ s4 = s' := by simpa using h4
  rw [resolveConvergentConflicts_run] at hresv
  cases has : (policyConflicts P d s.data).mapM convergentResolution with
  | error e => simp [has] at hresv
  | ok as =>
    obtain rfl : { s with data := writeRow s.actor d as s.data } = s4 := by
      simpa [has] using hresv
    exact ⟨as, rfl, rfl, hclean, rfl⟩

include hP in
/-- Once the conflicts of a row are settled, none is left. -/
lemma policyConflicts_resolved {as : List Assignment}
    (h : (policyConflicts P d s.data).mapM convergentResolution = .ok as) :
    policyConflicts P d (writeRow s.actor d as s.data) = [] := by
  obtain ⟨hnodup, hsafe, -⟩ :=
    resolution_spec hP policyColumns_nodup (fun _ _ => convergentResolution_ok) h
  have hcols : as.map (·.column) = (policyConflicts P d s.data).map (·.column) :=
    map_eq_of_mapM (fun conflict a ha => (convergentResolution_ok ha).1) h
  refine rowConflictValues_eq_nil.mpr fun c hc => ?_
  rcases writeRow_safe s.actor d s.data hnodup hsafe c d with hsame | ⟨-, v, -, -, hcells⟩
  · rw [hsame]
    by_contra hconf
    rw [Bool.not_eq_false] at hconf
    -- a reported column is among those that were written, and then it is no longer in conflict
    have hmem : c ∈ as.map (·.column) := by
      rw [hcols, policyConflicts, rowConflictValues_columns]
      exact mem_filter.mpr ⟨hc, hconf⟩
    obtain ⟨a, ha, rfl⟩ := mem_map.mp hmem
    have hwrit : (writeRow s.actor d as s.data).cells a.column d =
        (s.data.cells a.column d).write s.actor a.value := writeRow_of_mem s.actor hnodup ha
    rw [← hsame, hwrit, hP.rules.isConflicted_write] at hconf
    cases hconf
  · rw [hcells]
    exact hP.rules.isConflicted_write _ _

include hP in
/-- Reading succeeds exactly when all conflicts of the row can be settled. -/
lemma record_run (d : Id) (s : Replica) :
    (record P d).run s =
      match (policyConflicts P d s.data).mapM convergentResolution with
      | .ok as => (.ok (policyRow P (writeRow s.actor d as s.data) d),
          { s with data := writeRow s.actor d as s.data })
      | .error e => (.error e, s) := by
  unfold record
  rw [run_bind, resolveConvergentConflicts_run]
  cases has : (policyConflicts P d s.data).mapM convergentResolution with
  | error e => rfl
  | ok as =>
    have hclean := policyConflicts_resolved hP has
    have hclear : (clear P d).run { s with data := writeRow s.actor d as s.data } =
        (.ok (), { s with data := writeRow s.actor d as s.data }) :=
      clear_run_ok.mpr ⟨hclean, rfl⟩
    simp only [run_bind, hclear, rawRecord, query_run, Task.run_pure]

include hP in
/-- Reading a row without conflicts changes nothing. -/
lemma record_run_of_clear (h : policyConflicts P d s.data = []) :
    (record P d).run s = (.ok (policyRow P s.data d), s) := by
  rw [record_run hP, h]
  rfl

/-- `get` returns what `record` does, after checking it. -/
lemma get_run_ok (h : (get P d o a).run s = (.ok (some policy), s')) :
    (record P d).run s = (.ok (some policy), s') ∧ policy.ownerSubject = o ∧
      policy.incomplete = false := by
  obtain ⟨found, _, hrec, h1⟩ := run_bind_ok.mp h
  cases found with
  | none =>
    have := congrArg Prod.fst h1
    simp at this
  | some found =>
    obtain ⟨_, _, howner, h2⟩ := run_bind_ok.mp h1
    obtain ⟨_, s3, hcompl, h3⟩ := run_bind_ok.mp h2
    obtain ⟨hownerEq, rfl⟩ := failIf_run_ok.mp howner
    obtain ⟨hcompleteEq, rfl⟩ := failIf_run_ok.mp hcompl
    obtain ⟨rfl, rfl⟩ : found = policy ∧ s3 = s' := by simpa using h3
    exact ⟨hrec, by simpa using hownerEq, hcompleteEq⟩

/-! ## Admission -/

/-- Both peers have been admitted, one after the other. -/
lemma peersSelectedForSync_run_ok {devices : ManagementResult (List Device)}
    {localKey remoteKey o : String}
    (h : (peersSelectedForSync P devices localKey remoteKey o a k r).run s = (.ok true, s')) :
    ∃ records s₁, devices = .ok records ∧
      (admitPeer P records o a k r localKey).run s = (.ok true, s₁) ∧
      (admitPeer P records o a k r remoteKey).run s₁ = (.ok true, s') := by
  unfold peersSelectedForSync at h
  split at h
  · simp at h
  · obtain ⟨records, s₁, hdevs, h1⟩ := run_bind_ok.mp h
    obtain ⟨rfl, rfl⟩ : devices = .ok records ∧ s = s₁ := by simpa using hdevs
    obtain ⟨admitted, s₂, hlocal, h2⟩ := run_bind_ok.mp h1
    cases admitted with
    | false => simp at h2
    | true => exact ⟨records, s₂, rfl, hlocal, h2⟩

/-- What the admission of a device rests on. -/
lemma admitPeer_run_ok (hmem : device ∈ records)
    (h : (admitPeer P records o a k r device.publicKey).run s = (.ok true, s')) :
    ∃ policy s₁, (get P device.id o a).run s = (.ok (some policy), s₁) ∧
      policy.adminAllowed = true ∧
      (resourceSelected P device.id o a k r).run s₁ = (.ok true, s') := by
  unfold admitPeer at h
  split at h
  · rename_i found hfound
    obtain rfl : device = found := by
      have hfil : device ∈ records.filter (·.publicKey == device.publicKey) :=
        mem_filter.mpr ⟨hmem, by simp⟩
      rw [hfound] at hfil
      exact mem_singleton.mp hfil
    split at h
    · simp at h
    · obtain ⟨policy, s₁, hget, h1⟩ := run_bind_ok.mp h
      cases policy with
      | none => simp at h1
      | some policy =>
        simp only at h1
        split at h1
        · simp at h1
        · rename_i hallow
          exact ⟨policy, s₁, hget, by simpa using hallow, h1⟩
  · simp at h

include hP in
/-- A pair is not admitted if one of its devices is not, for a reason that survives reading. -/
lemma peersSelectedForSync_ne_true {localKey remoteKey o : String} {I : Replica → Prop}
    (hkept : ∀ s s', QuietRun P s s' → I s → I s')
    (hrefused : ∀ s s', I s → (admitPeer P records o a k r device.publicKey).run s ≠ (.ok true, s'))
    (hkey : device.publicKey = localKey ∨ device.publicKey = remoteKey) (hs : I s) :
    (peersSelectedForSync P (.ok records) localKey remoteKey o a k r).eval s ≠ .ok true := by
  intro h
  obtain ⟨_, s₁, hrecs, hlocal, hrem⟩ := peersSelectedForSync_run_ok (Prod.ext h rfl)
  obtain rfl := Except.ok.inj hrecs
  rcases hkey with rfl | rfl
  · exact hrefused s s₁ hs hlocal
  · have hreach : QuietRun P s _ := (admitPeer_reaches hP ..).of_run hlocal
    exact hrefused s₁ _ (hkept s s₁ hreach hs) hrem

end

end LocalPlatform.Management
