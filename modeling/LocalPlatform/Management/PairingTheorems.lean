import LocalPlatform.Lib.Rows
import LocalPlatform.Management.DeviceHistory

/-!
# Who approves a pairing

A pairing is requested while the accepting device is approved, and is approved later by a signature
of its key alone. `Persists` says what every call leaves of a row; it follows that the accepting
device is still approved unless a revocation hit it in between.
-/

namespace LocalPlatform.Management

open Resumption Rows Text DeviceRepo List
open Idp (DateTime Bytes ErrorResponse)

/-! ## What stays of a row -/

/-- A row at two points of time: the device is the same, it has not gone back to pending, got no
accepting key, and has not lost its approval unless it may have been revoked. -/
structure SameDevice (revocable : Id → Prop) (old new : DeviceRow) : Prop where
  id : new.id = old.id
  publicKey : new.publicKey = old.publicKey
  pending : new.state = .pending → old.state = .pending
  pairing : ∀ key, new.pairingAcceptingPublicKey = some key →
    old.pairingAcceptingPublicKey = some key
  approved : old.state = .approved → new.state = .approved ∨ revocable old.id

/-- No row is lost, and every row persists. -/
def Persists (revocable : Id → Prop) (table table' : DeviceTable) : Prop :=
  Grows DeviceRow.id (SameDevice revocable) table.rows table'.rows

section
variable {revocable : Id → Prop} {P : DevicePlatform} {table table' : DeviceTable}
  {row : DeviceRow} {id : Id} {assignments : List DeviceAssignment}

lemma SameDevice.refl (row : DeviceRow) : SameDevice revocable row row :=
  ⟨rfl, rfl, fun h => h, fun _ h => h, .inl⟩

lemma SameDevice.trans {a b c : DeviceRow} (hab : SameDevice revocable a b)
    (hbc : SameDevice revocable b c) : SameDevice revocable a c where
  id := hbc.id.trans hab.id
  publicKey := hbc.publicKey.trans hab.publicKey
  pending h := hab.pending (hbc.pending h)
  pairing key h := hab.pairing key (hbc.pairing key h)
  approved h := by
    rcases hab.approved h with hb | hrevoc
    · exact (hbc.approved hb).imp_right fun hrevoc => hab.id ▸ hrevoc
    · exact .inr hrevoc

lemma SameDevice.id_eq (a b : DeviceRow) (h : SameDevice revocable a b) : a.id = b.id := h.id.symm

lemma Persists.refl (table : DeviceTable) : Persists revocable table table := Grows.refl .refl _

/-- Devices persist over two stretches. -/
lemma Persists.trans {a b c : DeviceTable} (hab : Persists revocable a b)
    (hbc : Persists revocable b c) : Persists revocable a c :=
  Grows.trans SameDevice.id_eq (fun _ _ _ => .trans) hab hbc

/-- Every row goes on, in a table whose ids are unique. -/
lemma Persists.kept (h : Persists revocable table table') (hkeyed : table.Keyed)
    (hrow : row ∈ table.rows) : ∃ row' ∈ table'.rows, SameDevice revocable row row' := by
  obtain ⟨row', hrow', hid⟩ := h.keys row hrow
  exact ⟨row', hrow', h.same_of_key_eq SameDevice.id_eq hrow
    (fun other hother heq => inj_on_of_nodup_map hkeyed hother hrow heq) hrow' hid⟩

/-! ## Assignments -/

/-- No update changes the key of a device. -/
lemma publicKey_assignments (row : DeviceRow) (assignments : List DeviceAssignment) :
    (assignments.foldl DeviceRow.assign row).publicKey = row.publicKey := by
  induction assignments generalizing row with
  | nil => rfl
  | cons a as ih =>
    rw [foldl_cons, ih]
    cases a <;> rfl

/-- The accepting key of a row is the one it had, or one that is assigned. -/
lemma pairing_assignments (row : DeviceRow) (assignments : List DeviceAssignment) :
    (assignments.foldl DeviceRow.assign row).pairingAcceptingPublicKey =
        row.pairingAcceptingPublicKey ∨
      .pairingAcceptingPublicKey
        (assignments.foldl DeviceRow.assign row).pairingAcceptingPublicKey ∈ assignments := by
  induction assignments generalizing row with
  | nil => exact .inl rfl
  | cons a as ih =>
    rw [foldl_cons]
    rcases ih (row.assign a) with hsame | hmem
    · rw [hsame]
      cases a with
      | pairingAcceptingPublicKey value => exact .inr mem_cons_self
      | name | enrollmentCodeHash | enrollmentExpiresAt | state | revokedAt | updatedAt =>
        exact .inl rfl
    · exact .inr (mem_cons_of_mem a hmem)

/-- An UPDATE that sets nothing back to pending and no accepting key. -/
lemma Persists.update (hpend : .state .pending ∉ assignments)
    (hpair : ∀ key, .pairingAcceptingPublicKey (some key) ∉ assignments)
    (hrev : .state .revoked ∈ assignments → revocable id) :
    Persists revocable table (table.update id assignments) := by
  refine .map SameDevice.id_eq fun row => ?_
  split
  · rename_i hid
    refine ⟨id_assignments .., publicKey_assignments .., fun hnew => ?_, fun key hkey => ?_,
      fun hold => ?_⟩
    · rcases state_assignments row assignments with hsame | hmem
      · exact hsame.symm.trans hnew
      · exact absurd (hnew ▸ hmem) hpend
    · rcases pairing_assignments row assignments with hsame | hmem
      · exact hsame.symm.trans hkey
      · exact absurd (hkey ▸ hmem) (hpair key)
    · rcases state_assignments row assignments with hsame | hmem
      · exact .inl (hsame.trans hold)
      · cases hstate : (assignments.foldl .assign row).state with
        | pending => exact absurd (hstate ▸ hmem) hpend
        | approved => exact .inl rfl
        | revoked => exact .inr (hid ▸ hrev (hstate ▸ hmem))
  · exact .refl row

/-- A revocation keeps the row. -/
lemma Persists.revoke (now : DateTime) (hrevoc : revocable id) :
    Persists revocable table (table.update id (revocation now)) :=
  .update (by simp [revocation]) (by simp [revocation]) fun _ => hrevoc

/-- An insert keeps all other rows. -/
lemma Persists.insert (hnew : table.Lacks row) :
    Persists revocable table { table with rows := table.rows ++ [row] } :=
  .append .refl fun other hother => (hnew other hother).1

end

/-! ## Operations -/

/-- The devices that an operation may revoke. -/
def DeviceOperation.Revokes (table : DeviceTable) : DeviceOperation → Id → Prop
  | .revoke _ _ deviceId _, id => id = deviceId
  | .revokeSelf _ publicKey, id => ∃ row ∈ table.rows, row.id = id ∧ row.publicKey = publicKey
  | .enroll .., _ | .create .., _ | .requestPairing .., _ | .approvePairing .., _ | .approve .., _
  | .rename .., _ => False

/-- Every operation keeps every row. -/
lemma DeviceOperation.persists {P : DevicePlatform} (op : DeviceOperation) (table : DeviceTable) :
    Persists (op.Revokes table) table (op.perform P table) := by
  have hsame : Persists (op.Revokes table) table table := .refl table
  cases op with
  | enroll new now ownerSubject request =>
    change (DeviceEnrollmentService.enroll ..).Ends (Persists _ table) table
    exact .after hsame fun _ _ => .after hsame fun _ _ => .after hsame fun _ _ =>
      .after hsame fun _ _ => .before (.mapError (ends_create hsame fun _ h _ _ => .insert h) _)
  | create new now ownerSubject name publicKey address hash expiresAt =>
    exact ends_create hsame fun _ hnew _ _ => .insert hnew
  | requestPairing new now request =>
    change (DeviceEnrollmentService.requestPairing ..).Ends (Persists _ table) table
    exact .after hsame fun _ _ => .after hsame fun _ _ => .before
      (.mapError (ends_createPairing hsame fun _ hnew _ _ _ _ => .insert hnew) _)
  | approvePairing now deviceId signature =>
    change (DeviceEnrollmentService.approvePairing ..).Ends (Persists _ table) table
    refine .after hsame fun _ _ => .after hsame fun _ _ => .after hsame fun _ _ => .before
      (.mapError (ends_checked hsame fun _ _ _ _ => ?_) _)
    exact .update (by simp) (by simp) (by simp)
  | approve now updatedAt deviceId hash =>
    exact ends_checked hsame fun _ _ _ _ => .update (by simp) (by simp) (by simp)
  | rename now ownerSubject deviceId name =>
    change (DeviceEnrollmentService.rename ..).Ends (Persists _ table) table
    refine .after hsame fun _ _ => .before (.mapError (ends_checked hsame fun _ _ _ _ => ?_) _)
    exact .update (by simp) (by simp) (by simp)
  | revoke now ownerSubject deviceId protectedPublicKey =>
    change (DeviceEnrollmentService.revoke ..).Ends (Persists _ table) table
    exact .before (.mapError (ends_revoke hsame fun _ _ _ => .revoke now rfl) _)
  | revokeSelf clock publicKey =>
    change (DeviceEnrollmentService.revokeSelf ..).Ends (Persists _ table) table
    exact .before (.mapError (ends_revokeSelf hsame fun row hrow hkey _ now hs =>
      hs.trans (.revoke now ⟨row, hrow, rfl, hkey⟩)) _)

/-! ## Accepting devices -/

/-- Every pending pairing names the key of an approved device. -/
def DeviceTable.Backed (table : DeviceTable) : Prop :=
  ∀ row ∈ table.rows, row.state = .pending → ∀ key, row.pairingAcceptingPublicKey = some key →
    ∃ accepting ∈ table.rows, accepting.publicKey = key ∧ accepting.state = .approved

/-- The operation revokes no device that a pending pairing names as the accepting one. -/
def DeviceOperation.Spares (table : DeviceTable) (op : DeviceOperation) : Prop :=
  ∀ row ∈ table.rows, row.state = .pending → ∀ accepting ∈ table.rows,
    row.pairingAcceptingPublicKey = some accepting.publicKey → ¬op.Revokes table accepting.id

section
variable {P : DevicePlatform} {history : DeviceHistory} {table : DeviceTable}

/-- One operation. -/
lemma DeviceTable.Backed.step (h : table.Backed) (hkeyed : table.Keyed) {op : DeviceOperation}
    (hspares : op.Spares table) : (op.perform P table).Backed := by
  have hpersists := op.persists (P := P) table
  -- an approved device that the operation does not revoke stays approved
  have hstays : ∀ accepting ∈ table.rows, accepting.state = .approved →
      ¬op.Revokes table accepting.id →
        ∃ accepting' ∈ (op.perform P table).rows, accepting'.publicKey = accepting.publicKey ∧
          accepting'.state = .approved := by
    intro accepting hacpt happr hnot
    obtain ⟨accepting', hmem, hsame⟩ := hpersists.kept hkeyed hacpt
    exact ⟨accepting', hmem, hsame.publicKey, (hsame.approved happr).resolve_right hnot⟩
  intro row hrow hpend key hkey
  rcases hpersists.rows row hrow with ⟨old, hold, hsame⟩ | hnew
  · have hpend' := hsame.pending hpend
    have hkey' := hsame.pairing key hkey
    obtain ⟨accepting, hacpt, rfl, happr⟩ := h old hold hpend' key hkey'
    exact hstays accepting hacpt happr (hspares old hold hpend' accepting hacpt hkey')
  · rcases (op.effect hkeyed).origin hrow with ⟨old, hold, hevol⟩ | henters
    · exact absurd hevol.id.symm (hnew old hold)
    · obtain ⟨_, _, rfl, rfl⟩ := henters.pairing key hkey
      obtain ⟨accepting, hacpt, hpk, happr, -⟩ := henters.owner _ _ _ rfl
      rw [← hpk]
      exact hstays accepting hacpt happr fun hrevokes => hrevokes

/-- Whole histories. -/
lemma DeviceHistory.Leads.backed (h : history.Leads P table)
    (hspares : ∀ event ∈ history, event.2.Spares event.1) : table.Backed := by
  induction h with
  | empty conflicted => exact fun _ hrow => absurd hrow not_mem_nil
  | @perform history table op hleads ih =>
    exact (ih fun event hevent => hspares event (mem_cons_of_mem _ hevent)).step
      hleads.explains.keyed (hspares (table, op) mem_cons_self)

/-- An approval that succeeds was signed by the accepting key of a pending pairing. -/
lemma approvePairing_ok {now : DateTime} {deviceId : Id} {signature : String} {info : DeviceInfo}
    (h : (DeviceEnrollmentService.approvePairing P now deviceId signature).eval table = .ok info) :
    ∃ row ∈ table.rows, row.id = deviceId ∧ row.state = .pending ∧
      ∃ key, row.pairingAcceptingPublicKey = some key ∧ Signs P key row signature := by
  obtain ⟨_, hpair, h1⟩ := eval_bind_iff.mp h
  obtain ⟨⟨device, key⟩, hfound, h2⟩ := eval_bind_iff.mp h1
  obtain ⟨_, hsig, -⟩ := eval_bind_iff.mp h2
  rw [eval_okOr_ok] at hfound
  subst hfound
  rw [Task.eval_mapError_ok] at hpair
  obtain ⟨row, hrow, hid, hpend, hkey, hdev⟩ := pendingPairing_some hpair
  obtain ⟨hid', hname, hpk, haddr, -⟩ := DeviceRow.toDevice_fields hdev
  rw [Task.eval_lift, hid', hname, hpk, haddr] at hsig
  exact ⟨row, hrow, hid, hpend, key, hkey, hsig⟩

end

/-- In every history in which no device is revoked while a pending pairing names it as the accepting
one: whoever signs the approval of a pairing is approved at that moment. -/
theorem approvePairing_by_approved {P : DevicePlatform} {history : DeviceHistory}
    {table : DeviceTable} (hleads : history.Leads P table)
    (hspares : ∀ event ∈ history, event.2.Spares event.1) {now : DateTime} {deviceId : Id}
    {signature : String} {info : DeviceInfo}
    (happroved : (DeviceEnrollmentService.approvePairing P now deviceId signature).eval table =
      .ok info) :
    ∃ row ∈ table.rows, row.id = deviceId ∧ ∃ accepting ∈ table.rows,
      row.pairingAcceptingPublicKey = some accepting.publicKey ∧
        Signs P accepting.publicKey row signature ∧ accepting.state = .approved := by
  obtain ⟨row, hrow, hid, hpend, key, hkey, hsigns⟩ := approvePairing_ok happroved
  obtain ⟨accepting, hacpt, rfl, hstate⟩ := hleads.backed hspares row hrow hpend key hkey
  exact ⟨row, hrow, hid, accepting, hacpt, hkey, hsigns, hstate⟩

/-! ## Concrete histories -/

namespace Reference

/-- The accepting device revokes itself after the pairing was requested. -/
def revokeFirst : DeviceOperation := .revokeSelf (fun _ => 0) "key-a"

/-- The table after the accepting device is revoked, with the pairing still pending. -/
def orphanedTable : DeviceTable := revokeFirst.perform devicePlatform pairedTable

/-- The calls that lead to `orphanedTable`. -/
def orphanedHistory : DeviceHistory :=
  [(pairedTable, revokeFirst), (enrolledTable, pairSecond), (noDevices, enrollFirst)]

/-- The calls of the fixture lead to its table. -/
lemma orphanedHistory_leads : orphanedHistory.Leads devicePlatform orphanedTable :=
  .perform revokeFirst (.perform pairSecond (.perform enrollFirst (.empty fun _ => false)))

end Reference

open Reference

/-- The second device is approved by the first, which is approved itself. -/
theorem approvePairing_by_approved_reference :
    ∃ row ∈ pairedTable.rows, row.id = 2 ∧ ∃ accepting ∈ pairedTable.rows,
      row.pairingAcceptingPublicKey = some accepting.publicKey ∧
        Signs devicePlatform accepting.publicKey row "key-a" ∧
        accepting.state = .approved := by
  have hleads : DeviceHistory.Leads devicePlatform
      [(enrolledTable, pairSecond), (noDevices, enrollFirst)]
      pairedTable :=
    .perform pairSecond (.perform enrollFirst (.empty fun _ => false))
  have hisOk : ((DeviceEnrollmentService.approvePairing devicePlatform 0 2 "key-a").eval
      pairedTable).isOk = true := by
    decide +kernel
  obtain ⟨_, hinfo⟩ := exists_of_isOk hisOk
  refine approvePairing_by_approved hleads (fun event hevent => ?_) hinfo
  rcases mem_pair.mp hevent with rfl | rfl <;> exact fun _ _ _ _ _ _ h => h

/-- The accepting device is revoked, and its signature still admits a new device. -/
theorem approvePairing_by_revoked :
    orphanedHistory.Leads devicePlatform orphanedTable ∧
      orphanedTable.rows.map (fun row =>
          (row.id, row.publicKey, row.pairingAcceptingPublicKey, row.state)) =
        [(1, "key-a", none, .revoked), (2, "key-b", some "key-a", .pending)] ∧
      ((DeviceEnrollmentService.approvePairing devicePlatform 0 2 "key-a").eval
        orphanedTable).map (fun info => (info.id, info.state)) = .ok (2, .approved) :=
  ⟨orphanedHistory_leads, by decide +kernel, by decide +kernel⟩

end LocalPlatform.Management
