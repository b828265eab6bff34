import LocalPlatform.Idp.Contract
import LocalPlatform.Management.SelectionPolicy

/-!
# The device table

`DbDeviceRepo` and the enrollment service over it. Every engine call is one step. A call draws the
id of a row it inserts and reads the clock as often as it needs to; both come as arguments.
-/

namespace LocalPlatform.Management

open Resumption Text
open Idp (DateTime ErrorCode ErrorResponse Bytes)

/-- A row of the table `devices`, instants in seconds. -/
structure DeviceRow where
  id : Id
  ownerSubject : String
  name : String
  publicKey : String
  address : String
  enrollmentCodeHash : Option Bytes
  enrollmentExpiresAt : Option ℤ
  pairingAcceptingPublicKey : Option String
  state : DeviceState
  approvedAt : Option ℤ
  revokedAt : Option ℤ
  createdAt : ℤ
  updatedAt : ℤ
  deriving DecidableEq, Repr

/-- `Device`, as the repository returns it. -/
structure DeviceRecord where
  id : Id
  ownerSubject : String
  name : String
  publicKey : String
  address : String
  state : DeviceState
  createdAt : DateTime
  updatedAt : DateTime
  revokedAt : Option DateTime
  deriving DecidableEq, Repr

/-- The table, and the rows in which the engine reports a conflict. Only a merge with another
engine makes conflicts, so the calls on one engine leave them alone. -/
structure DeviceTable where
  rows : List DeviceRow
  conflicted : Id → Bool

/-- What the repository and the service take from other crates. -/
structure DevicePlatform where
  /-- The canonical text of the endpoint id that a text spells. -/
  endpointId : String → Option String
  /-- Base64url and the length of a signature. -/
  decodeSignature : String → Option Bytes
  /-- Ed25519, by the text of the public key. -/
  verify : (publicKey payload : String) → (signature : Bytes) → Bool
  idText : Id → String
  duplicateKey : String

/-! ## Engine calls -/

/-- The value that an UPDATE gives to a column. -/
inductive DeviceAssignment where
  | name (value : String)
  | enrollmentCodeHash (value : Option Bytes)
  | enrollmentExpiresAt (value : Option ℤ)
  | pairingAcceptingPublicKey (value : Option String)
  | state (value : DeviceState)
  | revokedAt (value : Option ℤ)
  | updatedAt (value : ℤ)
  deriving DecidableEq, Repr

/-- The effect of one assignment of an `UPDATE` on a row. -/
def DeviceRow.assign (row : DeviceRow) : DeviceAssignment → DeviceRow
  | .name value => { row with name := value }
  | .enrollmentCodeHash value => { row with enrollmentCodeHash := value }
  | .enrollmentExpiresAt value => { row with enrollmentExpiresAt := value }
  | .pairingAcceptingPublicKey value => { row with pairingAcceptingPublicKey := value }
  | .state value => { row with state := value }
  | .revokedAt value => { row with revokedAt := value }
  | .updatedAt value => { row with updatedAt := value }

/-- What an engine call does. -/
inductive DeviceCall where
  | select
  | rowConflicts (id : Id)
  | insert (row : DeviceRow)
  | update (id : Id) (assignments : List DeviceAssignment)
  deriving DecidableEq, Repr

/-- A call of `DbDeviceRepo`: steps over the table `devices` and its conflicts. -/
abbrev DeviceTask := Task DeviceCall DeviceTable ManagementError

/-- `UPDATE devices SET … WHERE id = …` -/
def DeviceTable.update (table : DeviceTable) (id : Id) (assignments : List DeviceAssignment) :
    DeviceTable :=
  { table with rows := table.rows.map fun row =>
      if row.id = id then assignments.foldl DeviceRow.assign row else row }

/-- A number of seconds as a point in time. -/
def deviceTimestamp (value : ℤ) : ManagementResult DateTime :=
  (DateTime.fromTimestamp value).elim (.error (.invalidInput "invalid device timestamp")) .ok

/-- The same for a nullable column. -/
def deviceTimestampOption : Option ℤ → ManagementResult (Option DateTime)
  | none => .ok none
  | some value => (deviceTimestamp value).map some

/-- `TryFrom<DeviceRow> for Device` -/
def DeviceRow.toDevice (row : DeviceRow) : ManagementResult DeviceRecord := do
  let createdAt ← deviceTimestamp row.createdAt
  let updatedAt ← deviceTimestamp row.updatedAt
  let revokedAt ← deviceTimestampOption row.revokedAt
  pure { id := row.id, ownerSubject := row.ownerSubject, name := row.name,
         publicKey := row.publicKey, address := row.address, state := row.state,
         createdAt, updatedAt, revokedAt }

/-! ## The repository -/

namespace DeviceRepo

variable (P : DevicePlatform)

/-- `DbDeviceRepo::records`: the whole table, refused as soon as one row has a blank owner. -/
def records : DeviceTask (List DeviceRow) :=
  .read .select fun table =>
    if table.rows.any fun row => isBlank row.ownerSubject then
      .error (.invalidInput "device record has no owner")
    else .ok table.rows

/-- `DbDeviceRepo::record`: it reads the whole table too, so a foreign row without owner fails it. -/
def record (id : Id) : DeviceTask (Option DeviceRow) :=
  (·.find? fun row => row.id == id) <$> records

/-- `ensure_clear`, by `allows_tunnel_access` -/
def ensureClear (id : Id) : DeviceTask Unit :=
  .read (.rowConflicts id) fun table =>
    if table.conflicted id then .error (.invalidInput "conflicted device") else .ok ()

/-- One `UPDATE` by identifier, a single step of the engine. -/
def update (id : Id) (assignments : List DeviceAssignment) : DeviceTask Unit :=
  .atomic (.update id assignments) fun table => (.ok (), table.update id assignments)

/-- `INSERT INTO devices`, under the primary key and the unique index on public keys. -/
def insert (row : DeviceRow) : DeviceTask Unit :=
  .atomic (.insert row) fun table =>
    if table.rows.any fun other => other.id == row.id || other.publicKey == row.publicKey then
      (.error (.invalidInput P.duplicateKey), table)
    else (.ok (), { table with rows := table.rows ++ [row] })

/-- `DbDeviceRepo::create`: the first device of the table is approved at once, each later one is
pending with the hash of an enrolment code. -/
def create (new : Id) (now : DateTime) (ownerSubject name publicKey address : String)
    (enrollmentCodeHash : Bytes) (enrollmentExpiresAt : ℤ) : DeviceTask DeviceRecord := do
  failIf (isBlank ownerSubject) (.invalidInput "device owner is required")
  let rows ← records
  let state := if rows.isEmpty then DeviceState.approved else .pending
  let row : DeviceRow :=
    { id := new
      ownerSubject, name, publicKey, address
      enrollmentCodeHash := if state = .pending then some enrollmentCodeHash else none
      enrollmentExpiresAt := if state = .pending then some enrollmentExpiresAt else none
      pairingAcceptingPublicKey := none
      state
      approvedAt := none
      revokedAt := none
      createdAt := now.timestamp
      updatedAt := now.timestamp }
  insert P row
  Task.lift row.toDevice

/-- `DbDeviceRepo::create_pairing`: the new device takes the owner of the approved device that is to
accept it, and is pending. -/
def createPairing (new : Id) (now : DateTime)
    (name publicKey address acceptingPublicKey : String) : DeviceTask DeviceRecord := do
  let rows ← records
  let accepting ← okOr (rows.find? fun device =>
      device.publicKey == acceptingPublicKey && !isBlank device.ownerSubject &&
        device.state == .approved)
    (.invalidInput "approving device has no owner")
  let row : DeviceRow :=
    { id := new
      ownerSubject := accepting.ownerSubject
      name, publicKey, address
      enrollmentCodeHash := none
      enrollmentExpiresAt := none
      pairingAcceptingPublicKey := some acceptingPublicKey
      state := .pending
      approvedAt := none
      revokedAt := none
      createdAt := now.timestamp
      updatedAt := now.timestamp }
  insert P row
  Task.lift row.toDevice

/-- `DbDeviceRepo::pending_pairing`: the pending device with the key that has to sign its approval. -/
def pendingPairing (deviceId : Id) : DeviceTask (Option (DeviceRecord × String)) := do
  match ← record deviceId with
  | none => pure none
  | some row =>
    ensureClear deviceId
    if row.state ≠ .pending then pure none
    else
      match row.pairingAcceptingPublicKey with
      | none => pure none
      | some key => do
        let device ← Task.lift row.toDevice
        pure (some (device, key))

/-- `DbDeviceRepo::approve_pairing`: the state is checked on the row read, then written in a step of
its own. -/
def approvePairing (now : DateTime) (deviceId : Id) : DeviceTask (Option DeviceRecord) := do
  match ← record deviceId with
  | none => pure none
  | some row =>
    ensureClear deviceId
    if row.state ≠ .pending ∨ row.pairingAcceptingPublicKey = none then pure none
    else
      update deviceId [.state .approved, .pairingAcceptingPublicKey none,
        .updatedAt now.timestamp]
      some <$> Task.lift { row with
        state := .approved
        pairingAcceptingPublicKey := none
        updatedAt := now.timestamp }.toDevice

/-- `DbDeviceRepo::has_any`. -/
def hasAny : DeviceTask Bool := (fun rows => !rows.isEmpty) <$> records

/-- `DbDeviceRepo::list`: a conflict on any device fails the whole listing. -/
def list : DeviceTask (List DeviceRecord) := do
  let rows ← records
  rows.forM fun row => ensureClear row.id
  Task.lift (rows.mapM DeviceRow.toDevice)

/-- `DbDeviceRepo::find_approved_by_public_key`: two devices with one key are found by neither. -/
def findApprovedByPublicKey (publicKey : String) : DeviceTask (Option DeviceRecord) := do
  let rows ← records
  match rows.filter fun row => row.publicKey == publicKey with
  | [row] =>
    if row.state ≠ .approved then pure none
    else
      ensureClear row.id
      some <$> Task.lift row.toDevice
  | _ => pure none

/-- `approve`. The clock is read for the expiry, and again for the update. -/
def approve (now updatedAt : DateTime) (deviceId : Id) (enrollmentCodeHash : Bytes) :
    DeviceTask (Option DeviceRecord) := do
  match ← record deviceId with
  | none => pure none
  | some row =>
    ensureClear deviceId
    if row.state ≠ .pending ∨ row.enrollmentCodeHash ≠ some enrollmentCodeHash ∨
        row.enrollmentExpiresAt.all fun expiresAt => expiresAt ≤ now.timestamp then pure none
    else
      update deviceId [.state .approved, .enrollmentCodeHash none, .enrollmentExpiresAt none,
        .updatedAt updatedAt.timestamp]
      some <$> Task.lift { row with
        state := .approved
        enrollmentCodeHash := none
        enrollmentExpiresAt := none
        updatedAt := updatedAt.timestamp }.toDevice

/-- `DbDeviceRepo::rename`: only by the owner, and not once the device is revoked. -/
def rename (now : DateTime) (ownerSubject : String) (deviceId : Id) (name : String) :
    DeviceTask (Option DeviceRecord) := do
  match ← record deviceId with
  | none => pure none
  | some row =>
    ensureClear deviceId
    if row.ownerSubject ≠ ownerSubject ∨ row.state = .revoked then pure none
    else
      update deviceId [.name name, .updatedAt now.timestamp]
      some <$> Task.lift { row with name, updatedAt := now.timestamp }.toDevice

/-- The assignments of a revocation. -/
def revocation (now : DateTime) : List DeviceAssignment :=
  [.state .revoked, .revokedAt (some now.timestamp), .updatedAt now.timestamp]

/-- `DbDeviceRepo::revoke`: the owner may revoke neither the protected device nor the last approved
one. -/
def revoke (now : DateTime) (ownerSubject : String) (deviceId : Id)
    (protectedPublicKey : String) : DeviceTask Bool := do
  match ← record deviceId with
  | none => pure false
  | some row =>
    ensureClear deviceId
    if row.ownerSubject ≠ ownerSubject ∨ row.publicKey = protectedPublicKey ∨
        row.state = .revoked then pure false
    else
      let rows ← records
      let approved := rows.filter fun other => other.state == .approved
      approved.forM fun other => ensureClear other.id
      if row.state = .approved ∧ approved.length ≤ 1 then pure false
      else
        update deviceId (revocation now)
        pure true

/-- `revoke_self`. The clock is read for every row. -/
def revokeSelf (clock : ℕ → DateTime) (publicKey : String) : DeviceTask Bool := do
  let rows ← records
  let own := rows.filter fun row => row.publicKey == publicKey
  own.zipIdx.forM fun (row, i) => do
    ensureClear row.id
    if row.state = .revoked then pure ()
    else update row.id (revocation (clock i))
  pure !own.isEmpty

end DeviceRepo

/-! ## The enrollment service -/

/-- The body of an enrolment. -/
structure DeviceEnrollmentRequest where
  name : String
  publicKey : String
  address : String
  deriving DecidableEq, Repr

/-- The body of a pairing request; it names the device that shall accept it. -/
structure DevicePairingRequest where
  name : String
  publicKey : String
  address : String
  acceptingPublicKey : String
  deriving DecidableEq, Repr

/-- The answer to an enrolment or a pairing request. -/
structure DeviceEnrollment where
  id : Id
  state : DeviceState
  approvalCode : Option String
  deriving DecidableEq, Repr

/-- A device as the routes show it: without its owner and its codes. -/
structure DeviceInfo where
  id : Id
  name : String
  publicKey : String
  address : String
  state : DeviceState
  createdAt : ℤ
  updatedAt : ℤ
  revokedAt : Option ℤ
  deriving DecidableEq, Repr

/-- `DeviceInfo::from`. -/
def DeviceRecord.toInfo (device : DeviceRecord) : DeviceInfo where
  id := device.id
  name := device.name
  publicKey := device.publicKey
  address := device.address
  state := device.state
  createdAt := device.createdAt.timestamp
  updatedAt := device.updatedAt.timestamp
  revokedAt := device.revokedAt.map DateTime.timestamp

/-- `From<ManagementError> for ErrorResponse` -/
def ManagementError.toResponse : ManagementError → ErrorResponse
  | .invalidInput message => .describe .serverError ("invalid input: " ++ message)

/-- `device_pairing_approval_payload` -/
def devicePairingApprovalPayload (P : DevicePlatform) (deviceId : Id)
    (name publicKey address : String) : String :=
  "\n".intercalate ["idp-device-pairing-approval-v1", P.idText deviceId,
    toString name.utf8ByteSize, name, toString publicKey.utf8ByteSize, publicKey,
    toString address.utf8ByteSize, address]

namespace DeviceEnrollmentService

variable (P : DevicePlatform)

/-- A call of `DeviceEnrollmentService`: the steps of the repository with the errors of the routes. -/
abbrev Service := Task DeviceCall DeviceTable ErrorResponse

/-- `valid_value`: not blank and at most 512 bytes. -/
def validValue (value : String) : Bool := !isBlank value && value.utf8ByteSize ≤ 512

/-- `validate_name`. -/
def validateName (name : String) : Except ErrorResponse Unit :=
  if validValue name then .ok () else .error (.new .invalidRequest)

/-- `validate_public_key`: an endpoint identifier in its canonical text. -/
def validatePublicKey (publicKey : String) : Except ErrorResponse Unit :=
  if !validValue publicKey then .error (.new .invalidRequest)
  else
    match P.endpointId publicKey with
    | none => .error (.new .invalidRequest)
    | some endpointId =>
      if endpointId = publicKey then .ok () else .error (.new .invalidRequest)

/-- `validate_enrollment`. -/
def validateEnrollment (request : DeviceEnrollmentRequest) : Except ErrorResponse Unit := do
  validateName request.name
  validatePublicKey P request.publicKey
  if validValue request.address then .ok () else .error (.new .invalidRequest)

/-- `verify_signature`: a key or a signature that does not decode is refused like a wrong one. -/
def verifySignature (publicKey payload signature : String) : Except ErrorResponse Unit :=
  match P.endpointId publicKey, P.decodeSignature signature with
  | some endpointId, some signature =>
    if P.verify endpointId payload signature then .ok () else .error (.new .accessDenied)
  | _, _ => .error (.new .accessDenied)

/-- `DeviceEnrollmentService::enroll`: open for the first device only. -/
def enroll (new : Id) (now : DateTime) (ownerSubject : String)
    (request : DeviceEnrollmentRequest) : Service DeviceEnrollment := do
  failIf (isBlank ownerSubject) (.new .accessDenied)
  Task.lift (validateEnrollment P request)
  let hasAny ← DeviceRepo.hasAny.mapError ManagementError.toResponse
  failIf hasAny (.new .accessDenied)
  let device ← (DeviceRepo.create P new now ownerSubject request.name request.publicKey
    request.address [] 0).mapError ManagementError.toResponse
  pure { id := device.id, state := device.state, approvalCode := none }

/-- `DeviceEnrollmentService::request_pairing`. -/
def requestPairing (new : Id) (now : DateTime) (request : DevicePairingRequest) :
    Service DeviceEnrollment := do
  Task.lift (validateEnrollment P ⟨request.name, request.publicKey, request.address⟩)
  Task.lift (validatePublicKey P request.acceptingPublicKey)
  let device ← (DeviceRepo.createPairing P new now request.name request.publicKey
    request.address request.acceptingPublicKey).mapError ManagementError.toResponse
  pure { id := device.id, state := device.state, approvalCode := none }

/-- `DeviceEnrollmentService::approve_pairing`: the signature is checked over the row read, before
the row is approved. -/
def approvePairing (now : DateTime) (deviceId : Id) (signature : String) : Service DeviceInfo := do
  let pairing ← (DeviceRepo.pendingPairing deviceId).mapError ManagementError.toResponse
  let (device, acceptingPublicKey) ← okOr pairing (.new .accessDenied)
  Task.lift (verifySignature P acceptingPublicKey
    (devicePairingApprovalPayload P device.id device.name device.publicKey device.address)
    signature)
  let approved ← (DeviceRepo.approvePairing now deviceId).mapError ManagementError.toResponse
  DeviceRecord.toInfo <$> okOr approved (.new .accessDenied)

/-- `DeviceEnrollmentService::rename`. -/
def rename (now : DateTime) (ownerSubject : String) (deviceId : Id) (name : String) :
    Service DeviceInfo := do
  Task.lift (validateName name)
  let device ← (DeviceRepo.rename now ownerSubject deviceId name).mapError
    ManagementError.toResponse
  DeviceRecord.toInfo <$> okOr device (.new .notFound)

/-- `DeviceEnrollmentService::revoke`: every refusal of the repository is answered `not_found`. -/
def revoke (now : DateTime) (ownerSubject : String) (deviceId : Id)
    (protectedPublicKey : String) : Service Unit := do
  let revoked ← (DeviceRepo.revoke now ownerSubject deviceId protectedPublicKey).mapError
    ManagementError.toResponse
  failIf (!revoked) (.new .notFound)

/-- `DeviceEnrollmentService::revoke_self`. -/
def revokeSelf (clock : ℕ → DateTime) (publicKey : String) : Service Unit := do
  let found ← (DeviceRepo.revokeSelf clock publicKey).mapError ManagementError.toResponse
  failIf (!found) (.new .notFound)

end DeviceEnrollmentService

end LocalPlatform.Management
