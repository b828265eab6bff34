import LocalPlatform.Lib.RelyGuarantee
import LocalPlatform.Management.Devices

/-!
# Revoked devices

Calls of the device repository that take turns. A call reads a row, decides, and writes in a later
step; an approval that was decided on an older read undoes a revocation, and two revocations that
each count the other's device as approved leave none. A device that no revocation may touch, because
each names another one or protects its key, stays approved.
-/

namespace LocalPlatform.Management

open Resumption Text DeviceRepo List
open Idp (DateTime Bytes)

/-- The state of a device, by its id. -/
def DeviceTable.stateOf (table : DeviceTable) (id : Id) : Option DeviceState :=
  (table.rows.find? fun row => row.id == id).map (·.state)

/-- The calls that write to the table. -/
inductive RepoCall where
  | create (new : Id) (now : DateTime) (ownerSubject name publicKey address : String)
      (enrollmentCodeHash : Bytes) (enrollmentExpiresAt : ℤ)
  | createPairing (new : Id) (now : DateTime) (name publicKey address acceptingPublicKey : String)
  | approvePairing (now : DateTime) (deviceId : Id)
  | approve (now updatedAt : DateTime) (deviceId : Id) (enrollmentCodeHash : Bytes)
  | rename (now : DateTime) (ownerSubject : String) (deviceId : Id) (name : String)
  | revoke (now : DateTime) (ownerSubject : String) (deviceId : Id) (protectedPublicKey : String)
  | revokeSelf (clock : ℕ → DateTime) (publicKey : String)

/-- A call, whose result does not matter here. -/
def RepoCall.task (P : DevicePlatform) : RepoCall → DeviceTask Unit
  | .create new now ownerSubject name publicKey address hash expiresAt =>
    (fun _ => ()) <$> DeviceRepo.create P new now ownerSubject name publicKey address hash expiresAt
  | .createPairing new now name publicKey address acceptingPublicKey =>
    (fun _ => ()) <$> DeviceRepo.createPairing P new now name publicKey address acceptingPublicKey
  | .approvePairing now deviceId => (fun _ => ()) <$> DeviceRepo.approvePairing now deviceId
  | .approve now updatedAt deviceId hash =>
    (fun _ => ()) <$> DeviceRepo.approve now updatedAt deviceId hash
  | .rename now ownerSubject deviceId name =>
    (fun _ => ()) <$> DeviceRepo.rename now ownerSubject deviceId name
  | .revoke now ownerSubject deviceId protectedPublicKey =>
    (fun _ => ()) <$> DeviceRepo.revoke now ownerSubject deviceId protectedPublicKey
  | .revokeSelf clock publicKey => (fun _ => ()) <$> DeviceRepo.revokeSelf clock publicKey

/-- An UPDATE that approves a device finds it pending still. -/
def StillPending : DeviceCall → DeviceTable → Prop
  | .update id assignments, table =>
    .state .approved ∈ assignments → table.stateOf id = some .pending
  | _, _ => True

instance (call : DeviceCall) (table : DeviceTable) : Decidable (StillPending call table) := by
  cases call
  all_goals
    unfold StillPending
    infer_instance

/-- Any number of calls on one engine, at any point of an interleaving of their steps. -/
abbrev DeviceCalls (ι : Type) := Config ι DeviceCall DeviceTable (Except ManagementError Unit)

/-- All calls are about to start. -/
def DeviceCalls.Initial {ι : Type} (P : DevicePlatform) (calls : ι → RepoCall)
    (c : DeviceCalls ι) : Prop :=
  ∀ i, c.threads i = ((calls i).task P).prog

/-- One engine call, in a state that meets the guard. -/
def DeviceCalls.Step {ι : Type} [DecidableEq ι] (guard : DeviceCall → DeviceTable → Prop) :
    DeviceCalls ι → DeviceCalls ι → Prop :=
  Config.Step (fun _ _ => False) guard

/-! ## Rows and updates -/

section
variable {P : DevicePlatform} {id id' : Id} {table : DeviceTable} {row : DeviceRow}
  {assignments : List DeviceAssignment}

@[simp] lemma id_assignments (row : DeviceRow) (assignments : List DeviceAssignment) :
    (assignments.foldl DeviceRow.assign row).id = row.id := by
  induction assignments generalizing row with
  | nil => rfl
  | cons a as ih =>
    rw [foldl_cons, ih]
    cases a <;> rfl

/-- The state of a row is the one it had, or one that is assigned. -/
lemma state_assignments (row : DeviceRow) (assignments : List DeviceAssignment) :
    (assignments.foldl DeviceRow.assign row).state = row.state ∨
      .state (assignments.foldl DeviceRow.assign row).state ∈ assignments := by
  induction assignments generalizing row with
  | nil => exact .inl rfl
  | cons a as ih =>
    rw [foldl_cons]
    rcases ih (row.assign a) with hsame | hmem
    · rw [hsame]
      cases a with
      | state value => exact .inr mem_cons_self
      | name | enrollmentCodeHash | enrollmentExpiresAt | pairingAcceptingPublicKey | revokedAt
        | updatedAt => exact .inl rfl
    · exact .inr (mem_cons_of_mem a hmem)

lemma find_update (table : DeviceTable) (id id' : Id) (assignments : List DeviceAssignment) :
    ((table.update id' assignments).rows.find? fun row => row.id == id) =
      (table.rows.find? fun row => row.id == id).map fun row =>
        if row.id = id' then assignments.foldl DeviceRow.assign row else row := by
  have hid : (fun row : DeviceRow => row.id == id) ∘ (fun row => if row.id = id' then
      assignments.foldl .assign row else row) = fun row => row.id == id := by
    funext row
    simp only [Function.comp_apply]
    split
    · rw [id_assignments]
    · rfl
  rw [DeviceTable.update, find?_map, hid]

variable (id' assignments) in
/-- An UPDATE changes the state of a device only to one that it assigns to it. -/
lemma stateOf_update {state : DeviceState} (h : table.stateOf id = some state) :
    (table.update id' assignments).stateOf id = some state ∨
      id' = id ∧ ∃ state', .state state' ∈ assignments ∧
        (table.update id' assignments).stateOf id = some state' := by
  obtain ⟨row, hrow, rfl⟩ := Option.map_eq_some_iff.mp h
  have hid : row.id = id := by simpa using find?_some hrow
  rw [DeviceTable.stateOf, find_update, hrow]
  by_cases hsame : row.id = id'
  · rcases state_assignments row assignments with hstate | hmem
    · left
      simp [hsame, hstate]
    · right
      refine ⟨hsame.symm.trans hid, _, hmem, ?_⟩
      simp [hsame]
  · left
    simp [hsame]

/-! ## Calls that take turns -/

/-- A revoked device stays revoked. -/
def revocationContract (id : Id) : Contract DeviceCall DeviceTable where
  rely s s' := s.stateOf id = some .revoked → s'.stateOf id = some .revoked
  guarantee s s' := s.stateOf id = some .revoked → s'.stateOf id = some .revoked
  guard := StillPending
  refl _ := fun h => h
  trans h h' := h' ∘ h

/-- An UPDATE that assigns no state but approved, which the guard is about, and revoked. -/
lemma obeys_update (h : .state .pending ∉ assignments) :
    (update id' assignments).Obeys (revocationContract id) := by
  refine .atomic fun table hguard hrev => ?_
  rcases stateOf_update id' assignments hrev with hsame | ⟨rfl, state, hmem, hstate⟩
  · exact hsame
  · rw [hstate]
    cases state with
    | pending => exact absurd hmem h
    | approved =>
      have hpend : table.stateOf id' = some .pending := hguard hmem
      rw [hrev] at hpend
      cases hpend
    | revoked => rfl

lemma obeys_records : records.Obeys (revocationContract id) := .read fun _ h => h

lemma obeys_record : (DeviceRepo.record id').Obeys (revocationContract id) := obeys_records.map _

lemma obeys_ensureClear : (ensureClear id').Obeys (revocationContract id) :=
  .read fun _ h => h

lemma obeys_insert : (insert P row).Obeys (revocationContract id) := by
  refine .atomic fun table _ hrev => ?_
  split
  · exact hrev
  · obtain ⟨_, hfound, hstate⟩ := Option.map_eq_some_iff.mp hrev
    show Option.map _ ((table.rows ++ [row]).find? _) = _
    rw [find?_append, hfound]
    exact congrArg some hstate

/-- Every call of the repository obeys the contract. -/
lemma obeys_task (call : RepoCall) : (call.task P).Obeys (revocationContract id) := by
  cases call with
  | create new now ownerSubject name publicKey address hash expiresAt =>
    refine .map _ (.bind (.lift _) fun _ => .bind obeys_records fun rows => ?_)
    exact .bind obeys_insert fun _ => .lift _
  | createPairing new now name publicKey address acceptingPublicKey =>
    refine .map _ (.bind obeys_records fun rows => .bind (.lift _) fun accepting => ?_)
    exact .bind obeys_insert fun _ => .lift _
  | approvePairing | approve | rename =>
    -- each of them updates a row that it has found
    refine .map _ (.bind obeys_record fun row => ?_)
    split
    · exact .pure _
    · refine .bind obeys_ensureClear fun _ => ?_
      split
      · exact .pure _
      · exact .bind (obeys_update (by simp)) fun _ => .map _ (.lift _)
  | revoke now ownerSubject deviceId protectedPublicKey =>
    refine .map _ (.bind obeys_record fun row => ?_)
    split
    · exact .pure _
    · refine .bind obeys_ensureClear fun _ => ?_
      split
      · exact .pure _
      · refine .bind obeys_records fun rows => .bind (.forM fun _ _ => obeys_ensureClear) fun _ => ?_
        split
        · exact .pure _
        · exact .bind (obeys_update (by simp [revocation])) fun _ => .pure _
  | revokeSelf clock publicKey =>
    refine .map _ (.bind obeys_records fun rows => .bind (.forM fun entry _ => ?_) fun _ => .pure _)
    refine .bind obeys_ensureClear fun _ => ?_
    split
    · exact .pure _
    · exact obeys_update (by simp [revocation])

end

/-- Any number of calls on one engine take turns. If every UPDATE that approves a device finds it
pending still, a device that is revoked at some point is revoked from then on. -/
theorem revoked_forever {ι : Type} [DecidableEq ι] {P : DevicePlatform} {calls : ι → RepoCall}
    {c c₁ c₂ : DeviceCalls ι} (hinitial : DeviceCalls.Initial P calls c)
    (hrun : Relation.ReflTransGen (DeviceCalls.Step StillPending) c c₁) {id : Id}
    (hrevoked : c₁.shared.stateOf id = some .revoked)
    (hlater : Relation.ReflTransGen (DeviceCalls.Step StillPending) c₁ c₂) :
    c₂.shared.stateOf id = some .revoked := by
  have hunder : c.Under (fun _ => revocationContract id) fun _ _ _ => True := by
    intro i
    rw [hinitial i]
    exact (obeys_task (calls i) c.shared).steps
  have hcomp : Compatible (fun _ : ι => revocationContract id) (fun _ _ => False)
      StillPending := ⟨nofun, fun _ _ _ h => h, fun _ _ _ _ _ h => h⟩
  exact (hunder.run hcomp hrun).keeps hcomp nofun (fun _ _ _ h => h) hlater hrevoked

/-! ## The last approved device -/

/-- Some device is approved. -/
def DeviceTable.HasApproved (table : DeviceTable) : Prop :=
  ∃ row ∈ table.rows, row.state = .approved

instance (table : DeviceTable) : Decidable table.HasApproved :=
  inferInstanceAs (Decidable (∃ row ∈ table.rows, row.state = .approved))

/-- A revocation that an owner asks for. -/
structure OwnerRevocation where
  now : DateTime
  ownerSubject : String
  deviceId : Id
  protectedPublicKey : String

/-- The repository call of a revocation. -/
def OwnerRevocation.call (r : OwnerRevocation) : RepoCall :=
  .revoke r.now r.ownerSubject r.deviceId r.protectedPublicKey

/-- The call may not revoke the device of the row: it names another device or another owner, or
protects the key of the device. -/
def OwnerRevocation.Spares (r : OwnerRevocation) (row : DeviceRow) : Prop :=
  r.deviceId ≠ row.id ∨ r.ownerSubject ≠ row.ownerSubject ∨ r.protectedPublicKey = row.publicKey

instance (r : OwnerRevocation) (row : DeviceRow) : Decidable (r.Spares row) :=
  inferInstanceAs (Decidable (_ ∨ _ ∨ _))

/-- What is found under the id of the row is the row. -/
def DeviceTable.HasRow (row : DeviceRow) (table : DeviceTable) : Prop :=
  (table.rows.find? fun other => other.id == row.id) = some row

/-- The row stays as it is. -/
def sparingContract (row : DeviceRow) : Contract DeviceCall DeviceTable where
  rely s s' := s.HasRow row → s'.HasRow row
  guarantee s s' := s.HasRow row → s'.HasRow row
  guard _ _ := True
  refl _ := fun h => h
  trans h h' := h' ∘ h

section
variable {row : DeviceRow}

lemma hasRow_stable : (sparingContract row).Stable (DeviceTable.HasRow row) :=
  fun _ _ h hrow => h hrow

/-- An UPDATE of another device leaves the row alone. -/
lemma spares_update {id : Id} (hid : id ≠ row.id) (assignments : List DeviceAssignment) :
    (update id assignments).Obeys (sparingContract row) := by
  refine .atomic fun table _ hrow => ?_
  show _ = _
  rw [find_update, show table.rows.find? _ = _ from hrow, Option.map_some, if_neg (Ne.symm hid)]

lemma spares_ensureClear (id : Id) : (ensureClear id).Obeys (sparingContract row) :=
  .read fun _ h => h

/-- A revocation that spares the device reads its row and stops, or never comes near it. -/
lemma spares_revoke (P : DevicePlatform) {r : OwnerRevocation} (hspares : r.Spares row)
    {table : DeviceTable} (htable : table.HasRow row) :
    (r.call.task P).Under (sparingContract row) (fun _ _ => True) table := by
  have hrecs : records.Obeys (sparingContract row) := .read fun _ h => h
  by_cases hid : r.deviceId = row.id
  · refine .map _ (.bind (P := fun result _ => ∀ found, result = .ok found → found = some row) ?_ ?_
      fun _ _ _ => trivial)
    · refine .map _ (.read hasRow_stable (fun _ _ _ _ h => h) htable fun s hs => ⟨fun h => h, ?_⟩)
      rintro found hfound
      split at hfound
      · cases hfound
      · rw [← Except.ok.inj hfound, hid]
        exact hs
    · rintro found s hfound
      obtain rfl := hfound found rfl
      refine .bind (spares_ensureClear _ s) (fun _ s _ => ?_) fun _ _ _ => trivial
      -- one of the two conditions of the early exit is met
      have hstop : row.ownerSubject ≠ r.ownerSubject ∨ row.publicKey = r.protectedPublicKey ∨
          row.state = .revoked := by
        rcases hspares with hne | howner | hkey
        · exact absurd hid hne
        · exact .inl (Ne.symm howner)
        · exact .inr (.inl hkey.symm)
      rw [if_pos hstop]
      exact Task.Obeys.pure _ s
  · have hobeys : (r.call.task P).Obeys (sparingContract row) := by
      refine .map _ (.bind (.map _ hrecs) fun found => ?_)
      split
      · exact .pure _
      · refine .bind (spares_ensureClear _) fun _ => ?_
        split
        · exact .pure _
        · refine .bind hrecs fun rows => .bind (.forM fun _ _ => spares_ensureClear _) fun _ => ?_
          split
          · exact .pure _
          · exact .bind (spares_update hid _) fun _ => .pure _
    exact hobeys table

end

/-- Any number of revocations on one engine take turns in any order. If there is an approved device
that each of them spares, some device is approved throughout. -/
theorem approved_remains {ι : Type} [DecidableEq ι] {P : DevicePlatform}
    {revocations : ι → OwnerRevocation} {c c' : DeviceCalls ι}
    (hinitial : DeviceCalls.Initial P (fun i => (revocations i).call) c) {row : DeviceRow}
    (hrow : c.shared.HasRow row) (happroved : row.state = .approved)
    (hspares : ∀ i, (revocations i).Spares row)
    (hrun : Relation.ReflTransGen (DeviceCalls.Step fun _ _ => True) c c') :
    c'.shared.HasApproved := by
  have hunder : c.Under (fun _ => sparingContract row) fun _ _ _ => True := by
    intro i
    rw [hinitial i]
    exact (spares_revoke P (hspares i) hrow).steps
  have hkept : c'.shared.HasRow row :=
    hunder.keeps ⟨nofun, fun _ _ _ h => h, fun _ _ _ _ _ h => h⟩ nofun (fun _ _ _ h => h) hrun hrow
  exact ⟨row, mem_of_find?_eq_some hkept, happroved⟩

/-! ## Runs on a concrete table -/

namespace Reference

/-- A platform on which a key signs by its own bytes. -/
def devicePlatform : DevicePlatform where
  endpointId text := some text
  decodeSignature text := some (text.toList.map fun c => UInt8.ofNat c.toNat)
  verify publicKey _ signature := publicKey.toList.map (fun c => UInt8.ofNat c.toNat) == signature
  idText := toString
  duplicateKey := "duplicate key"

/-- A device that waits for its enrollment code. -/
def waiting : DeviceRow where
  id := 1
  ownerSubject := "owner"
  name := "phone"
  publicKey := "key"
  address := "address"
  enrollmentCodeHash := some [7]
  enrollmentExpiresAt := some 100
  pairingAcceptingPublicKey := none
  state := .pending
  approvedAt := none
  revokedAt := none
  createdAt := 0
  updatedAt := 0

/-- Call `1` revokes the device, and all others approve it. -/
def repoCalls : ℕ → RepoCall
  | 1 => .revokeSelf (fun _ => 0) "key"
  | _ => .approve 0 0 1 [7]

/-- The approval and its rivals, over the one pending device. -/
def waitingCalls : DeviceCalls ℕ where
  shared := ⟨[waiting], fun _ => false⟩
  threads i := ((repoCalls i).task devicePlatform).prog

/-- Call `0` has approved the device, and call `1` has revoked it. -/
def revokedCalls : DeviceCalls ℕ := waitingCalls.schedule [0, 0, 0, 1, 1, 1]

end Reference

open Reference

/-- After the revocation another approval starts, and finds the device revoked. -/
theorem revoked_forever_reference :
    (revokedCalls.schedule [2, 2]).shared.stateOf 1 = some .revoked := by
  have hinit : DeviceCalls.Initial devicePlatform repoCalls waitingCalls := fun _ => rfl
  have hrun : Relation.ReflTransGen (DeviceCalls.Step StillPending) waitingCalls
      revokedCalls := Config.schedule_reachable _ (by decide +kernel)
  exact revoked_forever hinit hrun (by decide +kernel)
    (Config.schedule_reachable _ (by decide +kernel))

/-- An approval reads the row, the device revokes itself, and the approval writes. -/
theorem approve_undoes_revocation :
    ∃ c c' : DeviceCalls ℕ,
      DeviceCalls.Initial devicePlatform repoCalls waitingCalls ∧
      Relation.ReflTransGen (DeviceCalls.Step fun _ _ => True) waitingCalls c ∧
      c.threads 1 = .done (.ok ()) ∧ c.shared.stateOf 1 = some .revoked ∧
      Relation.ReflTransGen (DeviceCalls.Step fun _ _ => True) c c' ∧
      c'.shared.stateOf 1 = some .approved := by
  refine ⟨waitingCalls.schedule [0, 0, 1, 1, 1],
    (waitingCalls.schedule [0, 0, 1, 1, 1]).schedule [0], fun _ => rfl,
    Config.schedule_reachable _ (.of_forall (fun _ _ => trivial) _ _), rfl, by decide +kernel,
    Config.schedule_reachable _ (.of_forall (fun _ _ => trivial) _ _), by decide +kernel⟩

namespace Reference

/-- Two approved devices of one owner. -/
def approvedPair : DeviceTable where
  rows := [{ waiting with state := .approved },
    { waiting with id := 2, publicKey := "other", state := .approved }]
  conflicted _ := false

/-- Call `0` revokes the first device, and all others revoke the second. -/
def ownerRevocations : ℕ → OwnerRevocation
  | 0 => ⟨0, "owner", 1, ""⟩
  | _ => ⟨0, "owner", 2, ""⟩

/-- Two owners' revocations over two approved devices. -/
def pairCalls : DeviceCalls ℕ where
  shared := approvedPair
  threads i := ((ownerRevocations i).call.task devicePlatform).prog

end Reference

/-- A third device, whose key every further revocation protects. -/
def third : DeviceRow := { waiting with id := 3, publicKey := "own", state := .approved }

/-- Calls `0` and `1` revoke the first two devices; all others ask for the third. -/
def sparingRevocations : ℕ → OwnerRevocation
  | 0 => ⟨0, "owner", 1, "own"⟩
  | 1 => ⟨0, "owner", 2, "own"⟩
  | _ => ⟨0, "owner", 3, "own"⟩

/-- The same with a third approved device. -/
def tripleCalls : DeviceCalls ℕ where
  shared := { approvedPair with rows := approvedPair.rows ++ [third] }
  threads i := ((sparingRevocations i).call.task devicePlatform).prog

/-- Both revocations count three approved devices before either of them writes, and the third one
is refused: the third device is the only one left. -/
theorem approved_remains_reference :
    (tripleCalls.schedule [0, 0, 0, 0, 0, 0, 1, 1, 1, 1, 1, 1, 2, 2, 0, 1]).shared.stateOf 1 =
      some .revoked ∧
    (tripleCalls.schedule [0, 0, 0, 0, 0, 0, 1, 1, 1, 1, 1, 1, 2, 2, 0, 1]).shared.stateOf 2 =
      some .revoked ∧
    (tripleCalls.schedule [0, 0, 0, 0, 0, 0, 1, 1, 1, 1, 1, 1, 2, 2, 0, 1]).shared.HasApproved := by
  have hinit : DeviceCalls.Initial devicePlatform
      (fun i => (sparingRevocations i).call) tripleCalls := fun _ => rfl
  have hspares : ∀ i, (sparingRevocations i).Spares third
    | 0 => by decide
    | 1 => by decide
    | _ + 2 => .inr (.inr rfl)
  refine ⟨by decide +kernel, by decide +kernel, approved_remains hinit
    (show tripleCalls.shared.HasRow third from rfl) rfl hspares
    (Config.schedule_reachable _ (.of_forall (fun _ _ => trivial) _ _))⟩

/-- Both revocations count two approved devices before either of them writes. -/
theorem revocations_leave_none :
    DeviceCalls.Initial devicePlatform (fun i => (ownerRevocations i).call)
        pairCalls ∧
      pairCalls.shared.HasApproved ∧
      ∃ c, Relation.ReflTransGen (DeviceCalls.Step fun _ _ => True) pairCalls c ∧
        ¬c.shared.HasApproved := by
  refine ⟨fun _ => rfl, by decide, pairCalls.schedule [0, 0, 0, 0, 0, 1, 1, 1, 1, 1, 0, 1],
    Config.schedule_reachable _ (.of_forall (fun _ _ => trivial) _ _), by decide +kernel⟩

end LocalPlatform.Management
