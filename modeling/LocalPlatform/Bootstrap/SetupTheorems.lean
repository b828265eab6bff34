import LocalPlatform.Bootstrap.Reference
import LocalPlatform.Management.DeviceKeys

/-!
# A second registration

A device whose join was interrupted is pending. When its owner registers it again, the route
revokes the old row and inserts a new one, which the unique index on public keys refuses: the
request fails and the row stays revoked.
-/

namespace LocalPlatform.Bootstrap

open Resumption List
open Management
open Idp (DateTime ErrorResponse StandardClaims)

/-! ## Calls of the repository on a device that exists -/

section
variable {P : DevicePlatform} {table : DeviceTable} {row : DeviceRow}

/-- A device with a known key cannot be created. -/
lemma create_of_known {publicKey : String} (hknown : ∃ row ∈ table.rows, row.publicKey = publicKey)
    (new : Id) (now : DateTime) (ownerSubject name address : String) (hash : Idp.Bytes)
    (expiresAt : ℤ) :
    ∃ e, (DeviceRepo.create P new now ownerSubject name publicKey address hash expiresAt).run table =
      (.error e, table) := by
  unfold DeviceRepo.create
  rcases run_bind_or (failIf _ _) _ table with he | ⟨_, -, hrun⟩
  · exact he
  · rw [hrun]
    rcases run_bind_or DeviceRepo.records _ table with he | ⟨_, -, hrun'⟩
    · exact he
    · rw [hrun']
      obtain ⟨other, hother, hkey⟩ := hknown
      have hduplicate : ∀ row : DeviceRow, row.publicKey = publicKey →
          (DeviceRepo.insert P row).run table = (.error (.invalidInput P.duplicateKey), table) := by
        intro row hrow
        refine if_pos (any_eq_true.mpr ⟨other, hother, ?_⟩)
        simp [hkey, hrow]
      refine ⟨.invalidInput P.duplicateKey, ?_⟩
      rw [run_bind, hduplicate _ rfl]

/-- The row of an id. -/
lemma record_of_mem (hkeyed : table.Keyed)
    (hrecs : DeviceRepo.records.eval table = .ok table.rows) (hrow : row ∈ table.rows) :
    (DeviceRepo.record row.id).eval table = .ok (some row) := by
  have hfind : (table.rows.find? fun other => other.id == row.id) = some row := by
    cases hfound : table.rows.find? fun other => other.id == row.id with
    | none => exact absurd (find?_eq_none.mp hfound row hrow) (by simp)
    | some other =>
      have hid : other.id = row.id := by simpa using find?_some hfound
      rw [inj_on_of_nodup_map hkeyed (mem_of_find?_eq_some hfound) hrow hid]
  exact eval_bind_iff.mpr ⟨table.rows, hrecs, congrArg Except.ok hfind⟩

/-- A pending device is revoked unless its key is protected. -/
lemma revoke_pending (hdist : table.Distinct)
    (hrecs : DeviceRepo.records.eval table = .ok table.rows)
    (hclear : ∀ row ∈ table.rows, table.conflicted row.id = false) (hrow : row ∈ table.rows)
    (hpend : row.state = .pending) (now : DateTime) (protectedPublicKey : String) :
    (DeviceRepo.revoke now row.ownerSubject row.id protectedPublicKey).run table =
      if row.publicKey = protectedPublicKey then (.ok false, table)
      else (.ok true, table.update row.id (DeviceRepo.revocation now)) := by
  have hrec : (DeviceRepo.record row.id).run table = (.ok (some row), table) := by
    rw [run_reads, record_of_mem hdist.keyed hrecs hrow]
  have hrowClear : (DeviceRepo.ensureClear row.id).run table = (.ok (), table) := by
    rw [DeviceRepo.ensureClear, Task.run_read, hclear row hrow]
    rfl
  unfold DeviceRepo.revoke
  rw [run_bind_of_ok hrec]
  rw [run_bind_of_ok hrowClear]
  by_cases hkey : row.publicKey = protectedPublicKey
  · rw [if_pos hkey, if_pos (.inr (.inl hkey))]
    rfl
  · have hcheck : ¬(row.ownerSubject ≠ row.ownerSubject ∨ row.publicKey = protectedPublicKey ∨
        row.state = .revoked) := by
      simp [hkey, hpend]
    have hall : (DeviceRepo.records).run table = (.ok table.rows, table) := by
      rw [run_reads, hrecs]
    have happr : ((table.rows.filter fun other => other.state == .approved).forM
        fun other => DeviceRepo.ensureClear other.id).run table = (.ok (), table) := by
      rw [run_reads, ensureClear_all.mpr fun other hother => hclear other (mem_filter.mp hother).1]
    rw [if_neg hkey, if_neg hcheck, run_bind_of_ok hall, run_bind_of_ok happr,
      if_neg (by simp [hpend])]
    rfl

end

/-! ## The route -/

section
variable {ι : Type} {P : BootstrapPlatform} {readings : SetupReadings} {claims : StandardClaims}
  {request : SetupBootstrapRequest} {s s' : BootstrapState ι} {endpointId : EndpointId}
  {table : DeviceTable}

/-- The request passes everything that is checked before the row of the device is looked at. -/
structure Admitted (P : BootstrapPlatform) (claims : StandardClaims)
    (request : SetupBootstrapRequest) (table : DeviceTable) : Prop where
  scope : (claims.scope.any fun scope => scope == "setup") = true
  request : (validateBootstrap P request).isOk = true
  list : (DeviceRepo.list.eval table).isOk = true

/-- The grant of a registration names a row with the key, and the handler can approve that row with
the grant or finds it approved. -/
def Resumes (readings : SetupReadings) (publicKey : String)
    (registration : SetupBootstrapRegistration) (s : BootstrapState ι) : Prop :=
  ∃ grant, s.registry.grants registration.grant = some grant ∧
    s.devices.Names grant.deviceId publicKey ∧
    ∃ now updatedAt device, readings.createdAt.timestamp ≤ now.timestamp ∧
      ((DeviceRepo.approve now updatedAt grant.deviceId grant.enrollmentCodeHash).eval s.devices =
          .ok (some device) ∨
        (DeviceRepo.findApprovedByPublicKey publicKey).eval s.devices = .ok (some device) ∧
          device.id = grant.deviceId)

/-- A registration gives a grant that can be used, or fails and changes no device. -/
def ResumesOrUnchanged (P : BootstrapPlatform) (readings : SetupReadings)
    (claims : StandardClaims) (request : SetupBootstrapRequest) (s : BootstrapState ι) : Prop :=
  match (registerBootstrap P readings claims request).run s with
  | (.ok registration, s') => Resumes readings request.endpointId registration s'
  | (.error _, s') => s'.devices = s.devices

/-- A device call leaves the registry alone. -/
lemma run_onDevices {α : Type} (t : DeviceTask α) (s : BootstrapState ι) :
    (onDevices t : BootstrapTask ι ManagementError α).run s =
      ((t.run s.devices).1, { s with devices := (t.run s.devices).2 }) := rfl

/-- The list of devices, as the route reads it. -/
lemma run_listDevices (s : BootstrapState ι) :
    ((onDevices DeviceRepo.list).mapError fun _ => (.new .serverError : ErrorResponse)).run s =
      ((DeviceRepo.list.eval s.devices).mapError fun _ => .new .serverError, s) := by
  rw [run_mapError, run_onDevices, run_reads]

/-- A request that passes the first checks. -/
lemma registerBootstrap_of_valid (hscope : (claims.scope.any fun scope => scope == "setup") = true)
    (hvalid : validateBootstrap P request = .ok endpointId) :
    (registerBootstrap P readings claims request).run s =
      (registerEndpoint P readings claims request endpointId).run s := by
  unfold registerBootstrap
  rw [hscope, hvalid]
  rfl

/-- A request that is not admitted fails and changes nothing. -/
lemma registerBootstrap_of_not_admitted (h : ¬Admitted P claims request s.devices) :
    ∃ e, (registerBootstrap P readings claims request).run s = (.error e, s) := by
  cases hscope : claims.scope.any fun scope => scope == "setup" with
  | false =>
    unfold registerBootstrap
    rw [hscope]
    exact ⟨.new .accessDenied, rfl⟩
  | true =>
    cases hvalid : validateBootstrap P request with
    | error e =>
      unfold registerBootstrap
      rw [hscope, hvalid]
      exact ⟨e, rfl⟩
    | ok endpointId =>
      rw [registerBootstrap_of_valid hscope hvalid]
      cases hlist : DeviceRepo.list.eval s.devices with
      | ok devices => exact absurd ⟨hscope, by rw [hvalid]; rfl, by rw [hlist]; rfl⟩ h
      | error e =>
        refine ⟨.new .serverError, ?_⟩
        rw [registerEndpoint, run_bind, run_listDevices, hlist]
        rfl

/-- The checks of the body leave the text of the endpoint id as it is. -/
lemma validateBootstrap_ok (h : validateBootstrap P request = .ok endpointId) :
    endpointId.text = request.endpointId := by
  unfold validateBootstrap at h
  split at h
  · split at h
    · cases h
    · rename_i htext
      obtain rfl := Except.ok.inj h
      exact not_not.mp (not_or.mp htext).1
  · cases h

variable {row : DeviceRow} {devices : List DeviceRecord} {device : DeviceRecord}

/-- The row of a key among the listed devices. -/
lemma find_listed (hdist : table.Distinct) (hlist : DeviceRepo.list.eval table = .ok devices)
    (hrow : row ∈ table.rows) :
    ∃ device, (devices.find? fun device => device.publicKey == row.publicKey) = some device ∧
      row.toDevice = .ok device := by
  have hmapM := (list_ok hlist).2.2
  obtain ⟨listed, hlst, hrec⟩ := ok_of_mem_of_mapM hmapM hrow
  cases hfind : devices.find? fun device => device.publicKey == row.publicKey with
  | none =>
    have hkey := (DeviceRow.toDevice_fields hrec).2.2.1
    exact absurd (find?_eq_none.mp hfind listed hlst) (by simp [hkey])
  | some device =>
    refine ⟨device, rfl, ?_⟩
    have hkey : device.publicKey = row.publicKey := by simpa using find?_some hfind
    obtain ⟨_, hother, hrec'⟩ := exists_of_mem_mapM hmapM (mem_of_find?_eq_some hfind)
    have hkey' := (DeviceRow.toDevice_fields hrec').2.2.1
    rw [← inj_on_of_nodup_map hdist.publicKeys hother hrow (hkey'.symm.trans hkey)]
    exact hrec'

/-- A device with a known key cannot be created by the route. -/
lemma createPendingDevice_of_known (hknown : ∃ row ∈ s.devices.rows, row.publicKey = endpointId.text)
    (ownerSubject : String) :
    (createPendingDevice P readings ownerSubject request endpointId).run s =
      (.error (.new .serverError), s) := by
  obtain ⟨e, he⟩ := create_of_known hknown readings.newId readings.createdAt
    ownerSubject request.deviceName request.endpointAddr (P.sha256 (Idp.asBytes readings.grant))
    (enrollmentExpiry readings.enrolledAt)
  rw [createPendingDevice, run_bind, run_mapError, run_onDevices, he]
  rfl

/-- What the route does to a pending device: it is revoked, unless it is the server's own. -/
lemma bootstrapDevice_of_pending (hdist : s.devices.Distinct)
    (hlist : DeviceRepo.list.eval s.devices = .ok devices) (hrow : row ∈ s.devices.rows)
    (hdev : row.toDevice = .ok device) (hpend : row.state = .pending)
    (hkey : endpointId.text = row.publicKey) :
    (bootstrapDevice P readings row.ownerSubject request endpointId (some device)).run s =
      (.error (.new .serverError), { s with
        devices :=
          if row.publicKey = P.ownEndpointId.text then s.devices
          else s.devices.update row.id (DeviceRepo.revocation readings.revokedAt) }) := by
  obtain ⟨hid, -, -, -, -, hstate⟩ := DeviceRow.toDevice_fields hdev
  obtain ⟨hrecs, hclear, -⟩ := list_ok hlist
  have hrevoke := revoke_pending hdist hrecs hclear hrow hpend readings.revokedAt
    P.ownEndpointId.text
  unfold bootstrapDevice
  dsimp only
  rw [hstate, hpend]
  rw [run_bind, run_mapError, run_onDevices, hid, hrevoke]
  by_cases hown : row.publicKey = P.ownEndpointId.text
  · rw [if_pos hown, if_pos hown]
    exact createPendingDevice_of_known ⟨row, hrow, hkey.symm⟩ row.ownerSubject
  · rw [if_neg hown, if_neg hown]
    -- the revoked row still has the key
    refine createPendingDevice_of_known ⟨_, mem_map_of_mem hrow, ?_⟩ row.ownerSubject
    rw [if_pos rfl, publicKey_assignments]
    exact hkey.symm

/-- A pending device that is revoked has changed. -/
lemma update_revocation_ne (hdist : table.Distinct)
    (hrow : row ∈ table.rows) (hpend : row.state = .pending) (now : DateTime) :
    table.update row.id (DeviceRepo.revocation now) ≠ table := by
  intro hsame
  have hrev : (DeviceRepo.revocation now).foldl .assign row ∈
      (table.update row.id (DeviceRepo.revocation now)).rows :=
    mem_map.mpr ⟨row, hrow, if_pos rfl⟩
  rw [hsame] at hrev
  have heq := inj_on_of_nodup_map hdist.keyed hrev hrow (id_assignments ..)
  have hstate : ((DeviceRepo.revocation now).foldl .assign row).state = .revoked := rfl
  rw [heq, hpend] at hstate
  cases hstate

/-- The route fails with the error that it meets at the row of the device. -/
lemma registerEndpoint_error
    {e : ErrorResponse} (hlist : DeviceRepo.list.eval s.devices = .ok devices)
    (hfind : (devices.find? fun device => device.publicKey == endpointId.text) = some device)
    (howner : device.ownerSubject = claims.sub)
    (herror : (bootstrapDevice P readings claims.sub request endpointId (some device)).run s =
      (.error e, s')) :
    (registerEndpoint P readings claims request endpointId).run s = (.error e, s') := by
  rw [registerEndpoint, run_bind, run_listDevices, hlist]
  dsimp only [Except.mapError]
  rw [hfind]
  have hpasses : (Option.any (fun device => device.ownerSubject != claims.sub) (some device)) =
      false := by
    simp [howner]
  rw [hpasses]
  show (bootstrapDevice P readings claims.sub request endpointId (some device) >>= _).run s = _
  rw [run_bind, herror]

/-- For a pending or revoked device of the caller: the law holds exactly if the device is revoked,
is the server's own, or the request is not admitted. -/
theorem resumesOrUnchanged_iff {row : DeviceRow} (hdistinct : s.devices.Distinct)
    (hrow : row ∈ s.devices.rows) (howner : row.ownerSubject = claims.sub)
    (hkey : request.endpointId = row.publicKey)
    (hstate : row.state = .pending ∨ row.state = .revoked) :
    ResumesOrUnchanged P readings claims request s ↔
      row.state = .revoked ∨ row.publicKey = P.ownEndpointId.text ∨
        ¬Admitted P claims request s.devices := by
  unfold ResumesOrUnchanged
  by_cases hadm : Admitted P claims request s.devices
  · obtain ⟨endpointId, hvalid⟩ : ∃ endpointId, validateBootstrap P request = .ok endpointId := by
      have hok := hadm.request
      cases hvalid : validateBootstrap P request with
      | ok endpointId => exact ⟨endpointId, rfl⟩
      | error e =>
        rw [hvalid] at hok
        cases hok
    obtain ⟨_, hlist⟩ := exists_of_isOk hadm.list
    have htext : endpointId.text = row.publicKey := (validateBootstrap_ok hvalid).trans hkey
    obtain ⟨device, hfind, hdev⟩ := find_listed hdistinct hlist hrow
    obtain ⟨_, -, -, -, howner', hstate'⟩ := DeviceRow.toDevice_fields hdev
    rw [← htext] at hfind
    have herror : ∀ s', (bootstrapDevice P readings claims.sub request endpointId
        (some device)).run s = (.error (.new .serverError), s') →
        (registerBootstrap P readings claims request).run s = (.error (.new .serverError), s') := by
      intro s' hrun
      rw [registerBootstrap_of_valid hadm.scope hvalid]
      exact registerEndpoint_error hlist hfind (howner'.trans howner) hrun
    -- a pending device is revoked before its successor is refused, a revoked one only refused
    rcases hstate with hpend | hrev
    · rw [← howner] at herror
      rw [herror _ (bootstrapDevice_of_pending hdistinct hlist hrow hdev hpend htext)]
      have hchg := update_revocation_ne hdistinct hrow hpend readings.revokedAt
      by_cases hown : row.publicKey = P.ownEndpointId.text
      · simp [hown]
      · simp [hown, hpend, hadm, hchg]
    · have hcreate : (bootstrapDevice P readings claims.sub request endpointId
          (some device)).run s = (.error (.new .serverError), s) := by
        unfold bootstrapDevice
        dsimp only
        rw [hstate', hrev]
        exact createPendingDevice_of_known ⟨row, hrow, htext.symm⟩ claims.sub
      rw [herror s hcreate]
      exact ⟨fun _ => .inl hrev, fun _ => rfl⟩
  · obtain ⟨e, he⟩ : ∃ e, (registerBootstrap P readings claims request).run s = (.error e, s) :=
      registerBootstrap_of_not_admitted hadm
    rw [he]
    exact ⟨fun _ => .inr (.inr hadm), fun _ => rfl⟩

end

/-! ## An interrupted join -/

namespace Reference

/-- A server that stopped between the device's insert and the grant's registration. -/
def interrupted : BootstrapState ℕ where
  devices := interruptedTable
  registry := .empty
  issued := []
  observed _ := {}

/-- The same, with the device revoked. -/
def revokedJoin : BootstrapState ℕ :=
  { interrupted with devices := interruptedTable.update 2 (DeviceRepo.revocation 0) }

lemma revokedJoin_distinct : revokedJoin.devices.Distinct :=
  ⟨(by decide : List.Nodup [1, 2]), (by decide : List.Nodup ["server", "peer"])⟩

end Reference

open Reference

/-- For a revoked device the request fails and leaves the table as it is. -/
theorem resumesOrUnchanged_iff_reference :
    ResumesOrUnchanged bootstrapPlatform setupReadings setupClaims
      joinRequest revokedJoin := by
  have hrow : ∃ row ∈ revokedJoin.devices.rows, row.ownerSubject = "owner" ∧
      "peer" = row.publicKey ∧ row.state = .revoked := by
    decide +kernel
  obtain ⟨row, hrow, howner, hkey, hrev⟩ := hrow
  exact (resumesOrUnchanged_iff revokedJoin_distinct hrow howner hkey
    (.inr hrev)).mpr (.inl hrev)

/-- The owner registers a pending device again: the request fails, and the device is revoked. -/
theorem registerBootstrap_revokes_pending :
    interrupted.devices.rows.map (fun row => (row.publicKey, row.ownerSubject, row.state)) =
        [("server", "owner", .approved), ("peer", "owner", .pending)] ∧
      ((registerBootstrap bootstrapPlatform setupReadings setupClaims
        joinRequest).run interrupted).2.devices.rows.map
          (fun row => (row.publicKey, row.ownerSubject, row.state)) =
        [("server", "owner", .approved), ("peer", "owner", .revoked)] ∧
      ¬ResumesOrUnchanged bootstrapPlatform setupReadings setupClaims
        joinRequest interrupted := by
  have hout : ((registerBootstrap bootstrapPlatform setupReadings
      setupClaims joinRequest).run interrupted).1 = .error (.new .serverError) := by
    decide +kernel
  have hafter : ((registerBootstrap bootstrapPlatform setupReadings setupClaims joinRequest).run
        interrupted).2.devices.rows.map (·.state) = [.approved, .revoked] := by
    decide +kernel
  refine ⟨by decide +kernel, by decide +kernel, fun h => ?_⟩
  unfold ResumesOrUnchanged at h
  rcases hrun : (registerBootstrap bootstrapPlatform setupReadings
    setupClaims joinRequest).run interrupted with ⟨_, s'⟩
  rw [hrun] at h hout hafter
  subst hout
  have hsame : s'.devices = interrupted.devices := h
  rw [hsame] at hafter
  revert hafter
  decide

end LocalPlatform.Bootstrap
