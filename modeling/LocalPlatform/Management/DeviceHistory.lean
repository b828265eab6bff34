import LocalPlatform.Management.DeviceTheorems

/-!
# Where approved devices come from

Histories of enrollment, pairing, approval, renaming and revocation, each run to completion, from
an empty table. `DeviceOperation.Effect` says once what an operation can do to the table; that
owners stay, that revoked devices stay revoked and that every approval has a reason follow from it.
-/

namespace LocalPlatform.Management

open Resumption Text DeviceRepo DeviceRow List
open Idp (DateTime Bytes ErrorResponse)

/-! ## Operations -/

/-- The calls that change the table `devices`, with what they draw and read from the clock. -/
inductive DeviceOperation where
  | enroll (new : Id) (now : DateTime) (ownerSubject : String) (request : DeviceEnrollmentRequest)
  | create (new : Id) (now : DateTime) (ownerSubject name publicKey address : String)
      (enrollmentCodeHash : Bytes) (enrollmentExpiresAt : ℤ)
  | requestPairing (new : Id) (now : DateTime) (request : DevicePairingRequest)
  | approvePairing (now : DateTime) (deviceId : Id) (signature : String)
  | approve (now updatedAt : DateTime) (deviceId : Id) (enrollmentCodeHash : Bytes)
  | rename (now : DateTime) (ownerSubject : String) (deviceId : Id) (name : String)
  | revoke (now : DateTime) (ownerSubject : String) (deviceId : Id) (protectedPublicKey : String)
  | revokeSelf (clock : ℕ → DateTime) (publicKey : String)

/-- The table after an operation that runs alone. -/
def DeviceOperation.perform (P : DevicePlatform) (table : DeviceTable) :
    DeviceOperation → DeviceTable
  | .enroll new now ownerSubject request =>
    ((DeviceEnrollmentService.enroll P new now ownerSubject request).run table).2
  | .create new now ownerSubject name publicKey address hash expiresAt =>
    ((DeviceRepo.create P new now ownerSubject name publicKey address hash expiresAt).run table).2
  | .requestPairing new now request =>
    ((DeviceEnrollmentService.requestPairing P new now request).run table).2
  | .approvePairing now deviceId signature =>
    ((DeviceEnrollmentService.approvePairing P now deviceId signature).run table).2
  | .approve now updatedAt deviceId hash =>
    ((DeviceRepo.approve now updatedAt deviceId hash).run table).2
  | .rename now ownerSubject deviceId name =>
    ((DeviceEnrollmentService.rename now ownerSubject deviceId name).run table).2
  | .revoke now ownerSubject deviceId protectedPublicKey =>
    ((DeviceEnrollmentService.revoke now ownerSubject deviceId protectedPublicKey).run table).2
  | .revokeSelf clock publicKey =>
    ((DeviceEnrollmentService.revokeSelf clock publicKey).run table).2

/-- Operations with the tables they ran on, the latest first. -/
abbrev DeviceHistory := List (DeviceTable × DeviceOperation)

/-- A history that starts from an empty table, and the table it leads to. -/
inductive DeviceHistory.Leads (P : DevicePlatform) : DeviceHistory → DeviceTable → Prop where
  | empty (conflicted : Id → Bool) : Leads P [] ⟨[], conflicted⟩
  | perform {history : DeviceHistory} {table : DeviceTable} (op : DeviceOperation) :
      Leads P history table → Leads P ((table, op) :: history) (op.perform P table)

/-! ## Reasons -/

/-- The signature of a pairing is one of the given key about the device. -/
def Signs (P : DevicePlatform) (key : String) (row : DeviceRow) (signature : String) : Prop :=
  DeviceEnrollmentService.verifySignature P key
    (devicePairingApprovalPayload P row.id row.name row.publicKey row.address) signature = .ok ()

/-- The operation approves the device of `row`, which waits for that. -/
def DeviceOperation.Approves (P : DevicePlatform) (row : DeviceRow) : DeviceOperation → Prop
  | .approve now _ deviceId hash =>
    deviceId = row.id ∧ row.state = .pending ∧ row.enrollmentCodeHash = some hash ∧
      ∃ expiresAt, row.enrollmentExpiresAt = some expiresAt ∧ now.timestamp < expiresAt
  | .approvePairing _ deviceId signature =>
    deviceId = row.id ∧ row.state = .pending ∧
      ∃ key, row.pairingAcceptingPublicKey = some key ∧ Signs P key row signature
  | _ => False

/-- What happens to a row: its id and owner stay, no accepting key appears, no revocation is
undone, and if it becomes approved the operation approves it. -/
structure DeviceOperation.Evolves (P : DevicePlatform) (op : DeviceOperation)
    (row row' : DeviceRow) : Prop where
  id : row'.id = row.id
  ownerSubject : row'.ownerSubject = row.ownerSubject
  pairing : ∀ key, row'.pairingAcceptingPublicKey = some key →
    row.pairingAcceptingPublicKey = some key
  revoked : row.state = .revoked → row'.state = .revoked
  approved : row'.state = .approved → row.state = .approved ∨ op.Approves P row

/-- What a new row is: approved only if it is the first one, and with an accepting key only if
the operation pairs it with the approved device of that key, whose owner it gets. -/
structure DeviceOperation.Enters (op : DeviceOperation) (table : DeviceTable) (row : DeviceRow) :
    Prop where
  fresh : ∀ other ∈ table.rows, other.id ≠ row.id
  first : row.state = .approved → table.rows = []
  pairing : ∀ key, row.pairingAcceptingPublicKey = some key →
    ∃ now request, op = .requestPairing row.id now request ∧ request.acceptingPublicKey = key
  owner : ∀ new now request, op = .requestPairing new now request →
    ∃ accepting ∈ table.rows, accepting.publicKey = request.acceptingPublicKey ∧
      accepting.state = .approved ∧ accepting.ownerSubject = row.ownerSubject

/-- All that an operation can do to the table. -/
def DeviceOperation.Effect (P : DevicePlatform) (op : DeviceOperation)
    (table table' : DeviceTable) : Prop :=
  ∃ f new, table'.rows = table.rows.map f ++ new ∧
    (∀ row ∈ table.rows, op.Evolves P row (f row)) ∧
    (new = [] ∨ ∃ row, new = [row] ∧ op.Enters table row)

/-- Ids are unique. -/
def DeviceTable.Keyed (table : DeviceTable) : Prop := (table.rows.map (·.id)).Nodup

section
variable {P : DevicePlatform} {op : DeviceOperation} {table table' : DeviceTable}
  {row row' : DeviceRow} {id : Id} {assignments : List DeviceAssignment}

lemma DeviceOperation.Evolves.refl (row : DeviceRow) : op.Evolves P row row :=
  ⟨rfl, rfl, fun _ h => h, fun h => h, .inl⟩

/-- A row that evolved is revoked. -/
lemma DeviceOperation.Evolves.revoke (h : op.Evolves P row row') (now : DateTime) :
    op.Evolves P row ((revocation now).foldl assign row') :=
  ⟨h.id, h.ownerSubject, h.pairing, fun _ => rfl, nofun⟩

lemma DeviceOperation.Effect.refl (table : DeviceTable) : op.Effect P table table :=
  ⟨fun row => row, [], by simp, fun row _ => .refl row, .inl rfl⟩

/-- A new row. -/
lemma DeviceOperation.Effect.insert (h : op.Enters table row) :
    op.Effect P table { table with rows := table.rows ++ [row] } :=
  ⟨fun row => row, [row], by simp, fun row _ => .refl row, .inr ⟨row, rfl, h⟩⟩

/-- An UPDATE of one device. -/
lemma DeviceOperation.Effect.update (hkeyed : table.Keyed) (hrow : row ∈ table.rows)
    (hid : row.id = id) (h : op.Evolves P row (assignments.foldl assign row)) :
    op.Effect P table (table.update id assignments) := by
  refine ⟨fun row => if row.id = id then assignments.foldl .assign row else row, [],
    by simp [DeviceTable.update], fun other hother => ?_, .inl rfl⟩
  beta_reduce
  split
  · rename_i hsame
    have heq : other = row := inj_on_of_nodup_map hkeyed hother hrow (hsame.trans hid.symm)
    rw [heq]
    exact h
  · exact .refl other

/-- The rows of a table that only evolved. -/
def DeviceOperation.Rewrites (P : DevicePlatform) (op : DeviceOperation)
    (table table' : DeviceTable) : Prop :=
  ∃ f, table'.rows = table.rows.map f ∧ ∀ row ∈ table.rows, op.Evolves P row (f row)

/-- A rewritten row is an effect of the call. -/
lemma DeviceOperation.Rewrites.effect (h : op.Rewrites P table table') :
    op.Effect P table table' := by
  obtain ⟨f, hf, hevol⟩ := h
  exact ⟨f, [], by simp [hf], hevol, .inl rfl⟩

/-- A revocation of rows that evolved. -/
lemma DeviceOperation.Rewrites.revoke (h : op.Rewrites P table table') (id : Id) (now : DateTime) :
    op.Rewrites P table (table'.update id (revocation now)) := by
  obtain ⟨f, hf, hevol⟩ := h
  refine ⟨fun row => if (f row).id = id then
    (revocation now).foldl .assign (f row) else f row, ?_, fun row hrow => ?_⟩
  · simp [DeviceTable.update, hf, Function.comp_def]
  · beta_reduce
    split
    · exact (hevol row hrow).revoke now
    · exact hevol row hrow

/-! ## What calls of the repository read -/

instance : records.Reads := ⟨.read _ _⟩

instance (id : Id) : (DeviceRepo.record id).Reads := by
  unfold DeviceRepo.record
  infer_instance

instance : hasAny.Reads := by
  unfold hasAny
  infer_instance

instance (id : Id) : (ensureClear id).Reads := ⟨.read _ _⟩

instance (id : Id) : (pendingPairing id).Reads := by
  refine .bind fun found => ?_
  split
  · infer_instance
  · refine .bind fun _ => ?_
    split
    · infer_instance
    · split <;> infer_instance

lemma records_ok {rows : List DeviceRow} (h : records.eval table = .ok rows) :
    rows = table.rows := by
  rw [records, Task.eval_read] at h
  split at h
  · cases h
  · exact (Except.ok.inj h).symm

/-- A device that is found is a row of the table. -/
lemma record_some (h : (DeviceRepo.record id).eval table = .ok (some row)) :
    row ∈ table.rows ∧ row.id = id := by
  obtain ⟨rows, hrows, h⟩ := eval_bind_iff.mp h
  obtain rfl := records_ok hrows
  have hfind : (table.rows.find? fun row => row.id == id) = some row := Except.ok.inj h
  exact ⟨mem_of_find?_eq_some hfind, by simpa using find?_some hfind⟩

/-- A device has the data of its row. -/
lemma DeviceRow.toDevice_fields {device : DeviceRecord} (h : row.toDevice = .ok device) :
    device.id = row.id ∧ device.name = row.name ∧ device.publicKey = row.publicKey ∧
      device.address = row.address ∧ device.ownerSubject = row.ownerSubject ∧
      device.state = row.state := by
  obtain ⟨_, -, h⟩ := except_bind_ok.mp h
  obtain ⟨_, -, h⟩ := except_bind_ok.mp h
  obtain ⟨_, -, h⟩ := except_bind_ok.mp h
  obtain rfl := Except.ok.inj h
  exact ⟨rfl, rfl, rfl, rfl, rfl, rfl⟩

/-- A pairing is pending for a row. -/
def PendingPairing (table : DeviceTable) (id : Id) (device : DeviceRecord) (key : String) : Prop :=
  ∃ row ∈ table.rows, row.id = id ∧ row.state = .pending ∧
    row.pairingAcceptingPublicKey = some key ∧ row.toDevice = .ok device

/-- A pending pairing is a row with the key that has to sign. -/
lemma pendingPairing_some {device : DeviceRecord} {key : String}
    (h : (pendingPairing id).eval table = .ok (some (device, key))) :
    PendingPairing table id device key := by
  obtain ⟨found, hfound, h1⟩ := eval_bind_iff.mp h
  cases found with
  | none => cases h1
  | some row =>
    obtain ⟨hrow, hid⟩ := record_some hfound
    obtain ⟨_, -, h2⟩ := eval_bind_iff.mp h1
    split at h2
    · cases h2
    · rename_i hpend
      split at h2
      · cases h2
      · rename_i _ hkey
        obtain ⟨_, hdev, h3⟩ := eval_bind_iff.mp h2
        cases h3
        exact ⟨row, hrow, hid, not_not.mp hpend, hkey, hdev⟩

/-! ## The table after a call of the repository that runs alone -/

/-- The id and the key of the row are new. -/
def DeviceTable.Lacks (table : DeviceTable) (row : DeviceRow) : Prop :=
  ∀ other ∈ table.rows, other.id ≠ row.id ∧ other.publicKey ≠ row.publicKey

section
variable {E : DeviceTable → Prop} (hE : E table)
include hE

lemma ends_insert
    (hins : table.Lacks row → E { table with rows := table.rows ++ [row] }) :
    (insert P row).Ends E table := by
  rw [Task.Ends, DeviceRepo.insert, run_atomic]
  split
  · exact hE
  · rename_i hnew
    refine hins fun other hother => ⟨fun hid => hnew ?_, fun hkey => hnew ?_⟩
    · exact any_eq_true.mpr ⟨other, hother, by simp [hid]⟩
    · exact any_eq_true.mpr ⟨other, hother, by simp [hkey]⟩

/-- A new device is approved only if it is the first one. -/
lemma ends_create {new : Id} {now : DateTime} {ownerSubject name publicKey address : String}
    {hash : Bytes} {expiresAt : ℤ}
    (hins : ∀ row, table.Lacks row → row.pairingAcceptingPublicKey = none →
      (row.state = .approved → table.rows = []) → E { table with rows := table.rows ++ [row] }) :
    (create P new now ownerSubject name publicKey address hash expiresAt).Ends E table := by
  refine .after hE fun _ _ => .after hE fun rows hrows => ?_
  obtain rfl := records_ok hrows
  refine .before (ends_insert hE fun hnew => hins _ hnew rfl fun happr => ?_)
  cases hrows : table.rows with
  | nil => rfl
  | cons row rows => simp [hrows] at happr

/-- A paired device gets the owner of the approved device that accepts it. -/
lemma ends_createPairing {new : Id} {now : DateTime}
    {name publicKey address acceptingPublicKey : String}
    (hins : ∀ row, table.Lacks row → row.id = new → row.state = .pending →
      row.pairingAcceptingPublicKey = some acceptingPublicKey →
      (∃ accepting ∈ table.rows, accepting.publicKey = acceptingPublicKey ∧
        accepting.state = .approved ∧ accepting.ownerSubject = row.ownerSubject) →
      E { table with rows := table.rows ++ [row] }) :
    (createPairing P new now name publicKey address acceptingPublicKey).Ends E table := by
  refine .after hE fun rows hrows => .after hE fun accepting hacpt => ?_
  obtain rfl := records_ok hrows
  have hfind := eval_okOr_ok.mp hacpt
  have hmeets := find?_some hfind
  simp only [Bool.and_eq_true, beq_iff_eq] at hmeets
  exact .before (ends_insert hE fun hnew => hins _ hnew rfl rfl rfl
    ⟨accepting, mem_of_find?_eq_some hfind, hmeets.1.1, hmeets.2, rfl⟩)

/-- A call that reads a row, checks it and then updates it. -/
lemma ends_checked {α : Type} {check : DeviceRow → Prop} {_ : DecidablePred check}
    {result : DeviceRow → ManagementResult α}
    (hupd : ∀ row ∈ table.rows, row.id = id → ¬check row → E (table.update id assignments)) :
    (do
      match ← DeviceRepo.record id with
      | none => pure none
      | some row => do
        ensureClear id
        if check row then pure none
        else do
          update id assignments
          some <$> Task.lift (result row) : DeviceTask (Option α)).Ends E table := by
  refine .after hE fun found hfound => ?_
  cases found with
  | none => exact .reads hE
  | some row =>
    obtain ⟨hrow, hid⟩ := record_some hfound
    refine .after hE fun _ _ => ?_
    by_cases hcheck : check row
    · rw [if_pos hcheck]
      exact .reads hE
    · rw [if_neg hcheck]
      exact .before (hupd row hrow hid hcheck)

/-- A revocation writes the one row, or nothing. -/
lemma ends_revoke {now : DateTime} {ownerSubject protectedPublicKey : String}
    (hupd : ∀ row ∈ table.rows, row.id = id → E (table.update id (revocation now))) :
    (revoke now ownerSubject id protectedPublicKey).Ends E table := by
  refine .after hE fun found hfound => ?_
  cases found with
  | none => exact .reads hE
  | some row =>
    obtain ⟨hrow, hid⟩ := record_some hfound
    refine .after hE fun _ _ => ?_
    split
    · exact .reads hE
    · refine .after hE fun _ _ => .after hE fun _ _ => ?_
      split
      · exact .reads hE
      · exact .before (hupd row hrow hid)

/-- The rows that `revoke_self` updates are those it has read. -/
lemma ends_revokeSelf {clock : ℕ → DateTime} {publicKey : String}
    (hupd : ∀ row ∈ table.rows, row.publicKey = publicKey → ∀ s now, E s →
      E (s.update row.id (revocation now))) : (revokeSelf clock publicKey).Ends E table := by
  refine .after hE fun rows hrows => .before (.forM (fun entry hentry s hs => ?_) hE)
  obtain rfl := records_ok hrows
  obtain ⟨hmem, hkey⟩ := mem_filter.mp (fst_mem_of_mem_zipIdx hentry)
  refine .after hs fun _ _ => ?_
  split
  · exact .reads hs
  · exact hupd entry.1 hmem (by simpa using hkey) s _ hs

end

/-! ## What an operation leaves -/

/-- The effect of an insert, for every call that may insert. -/
lemma effect_create {new : Id} {now : DateTime} {ownerSubject name publicKey address : String}
    {hash : Bytes} {expiresAt : ℤ}
    (hop : ∀ new now request, op ≠ .requestPairing new now request) :
    (create P new now ownerSubject name publicKey address hash expiresAt).Ends
      (op.Effect P table) table := by
  refine ends_create (.refl table) fun row hnew hpair hfirst => ?_
  refine .insert ⟨fun other hother => (hnew other hother).1, hfirst, fun key hkey => ?_,
    fun new now request h => absurd h (hop new now request)⟩
  rw [hpair] at hkey
  cases hkey

/-- An approval with a signature of the accepting key. -/
lemma effect_approvePairing (hkeyed : table.Keyed) (now : DateTime) (id : Id)
    (signature : String) :
    (DeviceEnrollmentService.approvePairing P now id signature).Ends
      ((DeviceOperation.approvePairing now id signature).Effect P table) table := by
  refine .after (.refl table) fun pairing hpair => .after (.refl table) fun found hfound => ?_
  obtain ⟨device, key⟩ := found
  rw [Task.eval_mapError_ok, eval_okOr_ok.mp hfound] at hpair
  obtain ⟨row, hrow, hid, hpend, hkey, hdev⟩ := pendingPairing_some hpair
  obtain ⟨hid', hname, hpk, haddr, -⟩ := toDevice_fields hdev
  refine .after (.refl table) fun _ hsig => .before (.mapError ?_ _)
  rw [Task.eval_lift, hid', hname, hpk, haddr] at hsig
  refine ends_checked (.refl table) fun _ _ _ _ => .update hkeyed hrow hid ⟨rfl, rfl, nofun,
    fun hrev => ?_, fun _ => .inr ⟨hid.symm, hpend, key, hkey, hsig⟩⟩
  rw [hpend] at hrev
  cases hrev

/-- Every operation has an effect. -/
lemma DeviceOperation.effect (op : DeviceOperation) (hkeyed : table.Keyed) :
    op.Effect P table (op.perform P table) := by
  have hsame : op.Effect P table table := .refl table
  cases op with
  | enroll new now ownerSubject request =>
    change (DeviceEnrollmentService.enroll ..).Ends (Effect P _ table) table
    exact .after hsame fun _ _ => .after hsame fun _ _ => .after hsame fun _ _ =>
      .after hsame fun _ _ => .before (.mapError (effect_create fun _ _ _ => by nofun) _)
  | create new now ownerSubject name publicKey address hash expiresAt =>
    exact effect_create fun _ _ _ => by nofun
  | requestPairing new now request =>
    change (DeviceEnrollmentService.requestPairing ..).Ends (Effect P _ table) table
    refine .after hsame fun _ _ => .after hsame fun _ _ => .before (.mapError ?_ _)
    refine ends_createPairing hsame fun row hnew hid hpend hpair howner => ?_
    refine .insert ⟨fun other hother => (hnew other hother).1, by simp [hpend], fun key hkey =>
      ⟨now, request, by rw [hid], Option.some.inj (hpair.symm.trans hkey)⟩, ?_⟩
    rintro _ _ _ hreq
    cases hreq
    exact howner
  | approvePairing now deviceId signature =>
    exact effect_approvePairing hkeyed now deviceId signature
  | approve now updatedAt deviceId hash =>
    refine ends_checked hsame fun row hrow hid hcheck => .update hkeyed hrow hid ?_
    simp only [not_or, not_not] at hcheck
    obtain ⟨hpend, hhash, hexp⟩ := hcheck
    refine ⟨rfl, rfl, fun _ h => h, ?_, fun _ => .inr ⟨hid.symm, hpend, hhash, ?_⟩⟩
    · rw [hpend]
      nofun
    · cases hexpiry : row.enrollmentExpiresAt with
      | none => simp [hexpiry] at hexp
      | some expiresAt =>
        rw [hexpiry] at hexp
        exact ⟨expiresAt, rfl, by simpa using hexp⟩
  | rename now ownerSubject deviceId name =>
    change (DeviceEnrollmentService.rename ..).Ends (Effect P _ table) table
    refine .after hsame fun _ _ => .before (.mapError (ends_checked hsame fun row hrow hid _ => ?_) _)
    exact .update hkeyed hrow hid ⟨rfl, rfl, fun _ h => h, fun h => h, .inl⟩
  | revoke now ownerSubject deviceId protectedPublicKey =>
    change (DeviceEnrollmentService.revoke ..).Ends (Effect P _ table) table
    exact .before (.mapError (ends_revoke hsame fun row hrow hid =>
      .update hkeyed hrow hid ((DeviceOperation.Evolves.refl row).revoke now)) _)
  | revokeSelf clock publicKey =>
    -- the loop rewrites one row after the other, each of them at most to a revoked one
    have hrewrites : (DeviceEnrollmentService.revokeSelf clock publicKey).Ends
        ((DeviceOperation.revokeSelf clock publicKey).Rewrites P table) table :=
      .before (.mapError (ends_revokeSelf ⟨fun row => row, by simp, fun row _ => .refl row⟩
        fun _ _ _ s now hs => hs.revoke _ now) _)
    exact hrewrites.effect

variable (h : op.Effect P table table')
include h

/-- The rows after an operation are those before it, as they evolved, and new ones. -/
lemma DeviceOperation.Effect.origin (hrow : row' ∈ table'.rows) :
    (∃ row ∈ table.rows, op.Evolves P row row') ∨ op.Enters table row' := by
  obtain ⟨f, _, hrows, hevol, hnew⟩ := h
  rw [hrows] at hrow
  rcases mem_append.mp hrow with hold | hold
  · obtain ⟨row, hmem, rfl⟩ := mem_map.mp hold
    exact .inl ⟨row, hmem, hevol row hmem⟩
  · rcases hnew with rfl | ⟨row, rfl, henters⟩
    · cases hold
    · obtain rfl := mem_singleton.mp hold
      exact .inr henters

/-- No row is lost. -/
lemma DeviceOperation.Effect.kept (hrow : row ∈ table.rows) :
    ∃ row' ∈ table'.rows, op.Evolves P row row' := by
  obtain ⟨f, _, hrows, hevol, -⟩ := h
  refine ⟨f row, ?_, hevol row hrow⟩
  rw [hrows]
  exact mem_append_left _ (mem_map_of_mem hrow)

/-- Identifiers stay unique. -/
lemma DeviceOperation.Effect.keyed (hkeyed : table.Keyed) :
    table'.Keyed := by
  obtain ⟨f, _, hrows, hevol, hnew⟩ := h
  have hids : (table.rows.map f).map (·.id) = table.rows.map (·.id) := by
    rw [map_map]
    exact map_congr_left fun row hrow => (hevol row hrow).id
  unfold DeviceTable.Keyed
  rw [hrows, map_append, hids]
  rcases hnew with rfl | ⟨row, rfl, henters⟩
  · rw [map_nil, append_nil]
    exact hkeyed
  · refine nodup_append.mpr ⟨hkeyed, by simp, ?_⟩
    intro id hid id' hid' hsame
    obtain ⟨other, hother, rfl⟩ := mem_map.mp hid
    rw [map_singleton, mem_singleton] at hid'
    exact henters.fresh other hother (hsame.trans hid')

end

/-! ## Whole histories -/

/-- A device was paired with the given accepting key, whose approved device had this owner. -/
def DeviceHistory.Paired (history : DeviceHistory) (id : Id) (key owner : String) : Prop :=
  ∃ table now request, (table, .requestPairing id now request) ∈ history ∧
    request.acceptingPublicKey = key ∧ ∃ accepting ∈ table.rows, accepting.publicKey = key ∧
      accepting.state = .approved ∧ accepting.ownerSubject = owner

/-- A device is the first one that was created. -/
def DeviceHistory.First (P : DevicePlatform) (history : DeviceHistory) (id : Id) : Prop :=
  ∃ table op, (table, op) ∈ history ∧ table.rows = [] ∧
    ∃ row ∈ (op.perform P table).rows, row.id = id

/-- A device was pending and was approved with the unexpired code stored for it. -/
def DeviceHistory.ApprovedByCode (history : DeviceHistory) (id : Id) : Prop :=
  ∃ table now updatedAt hash, (table, .approve now updatedAt id hash) ∈ history ∧
    ∃ row ∈ table.rows, row.id = id ∧ row.state = .pending ∧ row.enrollmentCodeHash = some hash ∧
      ∃ expiresAt, row.enrollmentExpiresAt = some expiresAt ∧ now.timestamp < expiresAt

/-- A device was pending and was approved by a signature of the accepting key of its pairing. -/
def DeviceHistory.ApprovedBySignature (P : DevicePlatform) (history : DeviceHistory) (id : Id) :
    Prop :=
  ∃ table now signature, (table, .approvePairing now id signature) ∈ history ∧
    ∃ row ∈ table.rows, row.id = id ∧ row.state = .pending ∧
      ∃ key, row.pairingAcceptingPublicKey = some key ∧ Signs P key row signature ∧
        history.Paired id key row.ownerSubject

/-- A device that is approved in a table has a reason in the history. -/
def DeviceHistory.Justified (P : DevicePlatform) (history : DeviceHistory) (id : Id) : Prop :=
  history.First P id ∨ history.ApprovedByCode id ∨ history.ApprovedBySignature P id

/-- What a history explains about the table it leads to. -/
structure DeviceHistory.Explains (P : DevicePlatform) (history : DeviceHistory)
    (table : DeviceTable) : Prop where
  keyed : table.Keyed
  paired : ∀ row ∈ table.rows, ∀ key, row.pairingAcceptingPublicKey = some key →
    history.Paired row.id key row.ownerSubject
  approved : ∀ row ∈ table.rows, row.state = .approved → history.Justified P row.id

section
variable {P : DevicePlatform} {history later : DeviceHistory} {table : DeviceTable} {id : Id}
  {op : DeviceOperation} {row : DeviceRow}

lemma DeviceHistory.Paired.cons {key owner : String} (h : history.Paired id key owner)
    (event : DeviceTable × DeviceOperation) :
    DeviceHistory.Paired (event :: history) id key owner := by
  obtain ⟨table, now, request, hmem, h⟩ := h
  exact ⟨table, now, request, mem_cons_of_mem event hmem, h⟩

lemma DeviceHistory.Justified.cons (h : history.Justified P id)
    (event : DeviceTable × DeviceOperation) :
    DeviceHistory.Justified P (event :: history) id := by
  rcases h with ⟨table, op, hmem, h⟩ | ⟨table, now, updatedAt, hash, hmem, h⟩ |
    ⟨table, now, signature, hmem, row, hrow, hid, hpend, key, hkey, hsigns, hpaired⟩
  · exact .inl ⟨table, op, mem_cons_of_mem event hmem, h⟩
  · exact .inr (.inl ⟨table, now, updatedAt, hash, mem_cons_of_mem event hmem, h⟩)
  · exact .inr (.inr ⟨table, now, signature, mem_cons_of_mem event hmem, row, hrow, hid,
      hpend, key, hkey, hsigns, hpaired.cons event⟩)

/-- An operation that approves a device is its reason. -/
lemma DeviceHistory.Explains.justified (h : history.Explains P table) (hrow : row ∈ table.rows)
    (happrs : op.Approves P row) :
    DeviceHistory.Justified P ((table, op) :: history) row.id := by
  cases op with
  | approve now updatedAt deviceId hash =>
    obtain ⟨rfl, hpend, hhash, hexp⟩ := happrs
    exact .inr (.inl ⟨table, now, updatedAt, hash, mem_cons_self, row, hrow, rfl, hpend,
      hhash, hexp⟩)
  | approvePairing now deviceId signature =>
    obtain ⟨rfl, hpend, key, hkey, hsigns⟩ := happrs
    exact .inr (.inr ⟨table, now, signature, mem_cons_self, row, hrow, rfl, hpend, key,
      hkey, hsigns, (h.paired row hrow key hkey).cons _⟩)
  | enroll | create | requestPairing | rename | revoke | revokeSelf => exact happrs.elim

/-- One operation. -/
lemma DeviceHistory.Explains.step (h : history.Explains P table) (op : DeviceOperation) :
    DeviceHistory.Explains P ((table, op) :: history) (op.perform P table) := by
  have heffect := op.effect (P := P) h.keyed
  refine ⟨heffect.keyed h.keyed, fun row hrow key hkey => ?_, fun row hrow happr => ?_⟩
  · rcases heffect.origin hrow with ⟨old, hold, hevol⟩ | henters
    · rw [hevol.id, hevol.ownerSubject]
      exact (h.paired old hold key (hevol.pairing key hkey)).cons _
    · obtain ⟨now, request, rfl, rfl⟩ := henters.pairing key hkey
      exact ⟨table, now, request, mem_cons_self, rfl, henters.owner _ _ _ rfl⟩
  · rcases heffect.origin hrow with ⟨old, hold, hevol⟩ | henters
    · rw [hevol.id]
      rcases hevol.approved happr with hbef | happrs
      · exact (h.approved old hold hbef).cons _
      · exact h.justified hold happrs
    · exact .inl ⟨table, op, mem_cons_self, henters.first happr, row, hrow, rfl⟩

/-- Whole histories. -/
lemma DeviceHistory.Leads.explains (h : history.Leads P table) : history.Explains P table := by
  induction h with
  | empty conflicted =>
    exact ⟨nodup_nil, fun _ h => absurd h not_mem_nil,
      fun _ h => absurd h not_mem_nil⟩
  | perform op _ ih => exact ih.step op

/-- A device goes on with its owner, and a revoked one stays revoked. -/
lemma DeviceHistory.Leads.continues {table' : DeviceTable}
    (h : history.Leads P table) (h' : DeviceHistory.Leads P (later ++ history) table')
    (hrow : row ∈ table.rows) :
    ∃ row' ∈ table'.rows, row'.id = row.id ∧ row'.ownerSubject = row.ownerSubject ∧
      (row.state = .revoked → row'.state = .revoked) := by
  induction later generalizing table' with
  | nil =>
    cases h with
    | empty conflicted => cases hrow
    | perform op _ =>
      cases h' with
      | perform _ _ => exact ⟨row, hrow, rfl, rfl, fun h => h⟩
  | cons event later ih =>
    cases h' with
    | @perform _ before op hbef =>
      obtain ⟨_, hrow', hid, howner, hrev⟩ := ih hbef
      obtain ⟨row'', hrow'', hevol⟩ := (op.effect hbef.explains.keyed).kept hrow'
      exact ⟨row'', hrow'', hevol.id.trans hid, hevol.ownerSubject.trans howner,
        fun h => hevol.revoked (hrev h)⟩

lemma DeviceHistory.Leads.earlier {before : DeviceTable}
    (h : DeviceHistory.Leads P (later ++ (before, op) :: history) table) :
    DeviceHistory.Leads P ((before, op) :: history) (op.perform P before) := by
  induction later generalizing table with
  | nil =>
    cases h with
    | perform _ hbef => exact .perform op hbef
  | cons event later ih =>
    cases h with
    | perform _ hbef => exact ih hbef

end

/-- In every history of enrollments, pairings, approvals, renamings and revocations from an empty
table: devices keep their ids and owners, and no device leaves the revoked state; every approved
device is the first one created, or was pending and approved with the unexpired code stored for
it, or was pending and approved by a valid signature of the accepting key of its pairing; and a
paired device has the owner that the approved device of the accepting key had. -/
theorem device_provenance {P : DevicePlatform} {history : DeviceHistory} {table : DeviceTable}
    (h : history.Leads P table) :
    table.Keyed ∧
    (∀ later earlier before, history = later ++ earlier → earlier.Leads P before →
      ∀ row ∈ before.rows, ∃ row' ∈ table.rows, row'.id = row.id ∧
        row'.ownerSubject = row.ownerSubject ∧ (row.state = .revoked → row'.state = .revoked)) ∧
    (∀ row ∈ table.rows, row.state = .approved → history.Justified P row.id) ∧
    (∀ row ∈ table.rows, ∀ before now request,
      (before, .requestPairing row.id now request) ∈ history →
      (∀ other ∈ before.rows, other.id ≠ row.id) →
      (∃ created ∈ ((DeviceOperation.requestPairing row.id now request).perform P before).rows,
        created.id = row.id) →
      ∃ accepting ∈ before.rows, accepting.publicKey = request.acceptingPublicKey ∧
        accepting.state = .approved ∧ accepting.ownerSubject = row.ownerSubject) := by
  have hexplains := h.explains
  refine ⟨hexplains.keyed, ?_, hexplains.approved, ?_⟩
  · rintro _ _ before rfl hbef row hrow
    exact hbef.continues h hrow
  · intro row hrow before now request hmem hfresh hcre
    obtain ⟨_, _, rfl⟩ := append_of_mem hmem
    obtain ⟨_, hcre, hid⟩ := hcre
    have hafter := h.earlier
    -- the row that the pairing creates goes on as the row in the table
    obtain ⟨row', hrow', hid', howner, -⟩ := hafter.continues h hcre
    obtain rfl := inj_on_of_nodup_map hexplains.keyed hrow' hrow (hid'.trans hid)
    cases hafter with
    | perform _ hbef =>
      have heffect := (DeviceOperation.requestPairing row'.id now request).effect (P := P)
        hbef.explains.keyed
      rcases heffect.origin hcre with ⟨old, hold, hevol⟩ | henters
      · exact absurd (hevol.id.symm.trans hid) (hfresh old hold)
      · rw [howner]
        exact henters.owner _ _ _ rfl

/-! ## A concrete history -/

namespace Reference

/-- Nothing is enrolled. -/
def noDevices : DeviceTable := ⟨[], fun _ => false⟩

/-- The first device enrols. -/
def enrollFirst : DeviceOperation := .enroll 1 0 "owner" ⟨"laptop", "key-a", "address"⟩

/-- A second device asks the first to accept it. -/
def pairSecond : DeviceOperation := .requestPairing 2 0 ⟨"phone", "key-b", "address", "key-a"⟩

/-- The first device signs. -/
def approveSecond : DeviceOperation := .approvePairing 0 2 "key-a"

/-- The table after the enrolment. -/
def enrolledTable : DeviceTable := enrollFirst.perform devicePlatform noDevices

/-- The table with the pairing pending. -/
def pairedTable : DeviceTable := pairSecond.perform devicePlatform enrolledTable

/-- The table with both devices approved. -/
def approvedTable : DeviceTable := approveSecond.perform devicePlatform pairedTable

/-- A device is enrolled, and a second one is paired with it and approved. -/
def deviceHistory : DeviceHistory :=
  [(pairedTable, approveSecond), (enrolledTable, pairSecond), (noDevices, enrollFirst)]

lemma deviceHistory_leads : deviceHistory.Leads devicePlatform approvedTable :=
  .perform approveSecond (.perform pairSecond (.perform enrollFirst (.empty fun _ => false)))

end Reference

open Reference

/-- The second device is approved, and has a reason to be. -/
theorem device_provenance_reference :
    ∃ row ∈ approvedTable.rows, row.id = 2 ∧ row.state = .approved ∧
      deviceHistory.Justified devicePlatform row.id := by
  have hexists : ∃ row ∈ approvedTable.rows, row.id = 2 ∧ row.state = .approved := by
    decide +kernel
  obtain ⟨row, hrow, hid, happr⟩ := hexists
  exact ⟨row, hrow, hid, happr,
    (device_provenance deviceHistory_leads).2.2.1 row hrow happr⟩

end LocalPlatform.Management
