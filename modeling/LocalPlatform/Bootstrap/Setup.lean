import LocalPlatform.Bootstrap.Registry
import LocalPlatform.Idp.Libraries

/-!
# Registration of a joining device

The route `register_bootstrap`: it makes sure that there is a row for the device that wants to join
and registers a grant for it. A call of the device repository is one step here, and so is a call of
the registry.
-/

namespace LocalPlatform.Bootstrap

open Resumption Text
open Management
open Idp (Bytes DateTime ErrorResponse StandardClaims asBytes)

/-! ## The shared state -/

/-- A grant as a connection found it when it reserved it, with the reading of the clock. -/
structure Presentation where
  grantId : String
  grant : BootstrapGrant
  readAt : Instant
  deriving DecidableEq, Repr

/-- What a connection has seen and done: the grant it reserved, the device table after its last
look at it, and the peer with which it started to synchronize the database. -/
structure Observed where
  presented : Option Presentation := none
  checked : Option DeviceTable := none
  synchronizing : Option EndpointId := none

/-- The device table and the registry. The other two fields are records that nobody reads: the
grant ids that were registered, and what the connections have seen. -/
structure BootstrapState (ι : Type) where
  devices : DeviceTable
  registry : BootstrapRegistry
  issued : List String
  observed : ι → Observed

/-- What a step does. -/
inductive BootstrapCall where
  | devices
  | register (grantId : String)
  | reserve
  | get
  | finish
  | synchronize
  | receive
  deriving DecidableEq, Repr

/-- Steps over the device table and the registry, by one of the activities `ι`. -/
abbrev BootstrapTask (ι ε α : Type) := Task BootstrapCall (BootstrapState ι) ε α

/-- What the server takes from other crates, and its own identity. -/
structure BootstrapPlatform where
  devices : DevicePlatform
  /-- The endpoint id in the JSON text of an address. -/
  endpointAddr : String → Option EndpointId
  sha256 : Bytes → Bytes
  fromUtf8 : Bytes → Option String
  /-- `device_identity` -/
  ownEndpointId : EndpointId
  ownEndpointAddress : Option String

/-! ## The route -/

/-- The body of a bootstrap registration. -/
structure SetupBootstrapRequest where
  deviceName : String
  endpointId : String
  endpointAddr : String
  deriving DecidableEq, Repr

/-- Its answer: the grant, and where the device has to present it. -/
structure SetupBootstrapRegistration where
  grant : String
  endpointId : String
  endpointAddr : String
  expiresAt : ℤ
  deriving DecidableEq, Repr

/-- What one request draws at random and reads from the clocks. System times are nanoseconds after
the epoch. -/
structure SetupReadings where
  grant : String
  newId : Id
  revokedAt : DateTime
  createdAt : DateTime
  enrolledAt : ℤ
  registeredAt : Instant
  clock : String → Instant
  answeredAt : ℤ
  answeredInstant : Instant

section
variable {ι : Type} (P : BootstrapPlatform) (readings : SetupReadings)

/-- A call of the device repository. -/
def onDevices {α : Type} (t : DeviceTask α) : BootstrapTask ι ManagementError α :=
  .atomic .devices fun s => ((t.run s.devices).1, { s with devices := (t.run s.devices).2 })

/-- The expiry that `create_pending_device` computes, in seconds. -/
def enrollmentExpiry (systemNow : ℤ) : ℤ :=
  (if systemNow < 0 then 0 else systemNow / 10 ^ 9) + 15 * 60

/-- `create_pending_device`: the hash of the grant is the enrolment code of the device. -/
def createPendingDevice (ownerSubject : String) (request : SetupBootstrapRequest)
    (endpointId : EndpointId) : BootstrapTask ι ErrorResponse (Id × Bytes) := do
  let enrollmentCodeHash := P.sha256 (asBytes readings.grant)
  let device ← (onDevices (DeviceRepo.create P.devices readings.newId readings.createdAt
    ownerSubject request.deviceName endpointId.text request.endpointAddr enrollmentCodeHash
    (enrollmentExpiry readings.enrolledAt))).mapError fun _ => .new .serverError
  pure (device.id, enrollmentCodeHash)

/-- The row that the grant is for: an approved one is taken as it is, and a pending one is replaced.
-/
def bootstrapDevice (ownerSubject : String) (request : SetupBootstrapRequest)
    (endpointId : EndpointId) :
    Option DeviceRecord → BootstrapTask ι ErrorResponse (Id × Bytes)
  | none => createPendingDevice P readings ownerSubject request endpointId
  | some device =>
    match device.state with
    | .approved => pure (device.id, [])
    | .pending => do
      let _ ← (onDevices (DeviceRepo.revoke readings.revokedAt ownerSubject device.id
        P.ownEndpointId.text)).mapError fun _ => .new .serverError
      createPendingDevice P readings ownerSubject request endpointId
    | .revoked => createPendingDevice P readings ownerSubject request endpointId

/-- The checks on the body of the request. -/
def validateBootstrap (request : SetupBootstrapRequest) : Except ErrorResponse EndpointId :=
  match P.devices.endpointId request.endpointId, P.endpointAddr request.endpointAddr with
  | some text, some addressId =>
    if text ≠ request.endpointId ∨ addressId ≠ ⟨text⟩ ∨ isBlank request.deviceName then
      .error (.new .invalidRequest)
    else .ok ⟨text⟩
  | _, _ => .error (.new .invalidRequest)

/-- `registry.register` with the grant drawn for this request. -/
def registerGrant {ε : Type} (grant : BootstrapGrant) : BootstrapTask ι ε BootstrapGrant :=
  .atomic (.register readings.grant) fun s =>
    (.ok grant, { s with
      registry := s.registry.register readings.clock readings.grant grant
      issued := readings.grant :: s.issued })

/-- The grant for the device, and the answer. -/
def issueGrant (endpointId : EndpointId) (deviceId : Id) (enrollmentCodeHash : Bytes) :
    BootstrapTask ι ErrorResponse SetupBootstrapRegistration := do
  let record ← registerGrant readings
    (BootstrapRegistry.newGrant readings.registeredAt endpointId deviceId enrollmentCodeHash)
  let expiresAt := record.expiresAtUnix readings.answeredAt readings.answeredInstant
  let endpointAddr ← okOr P.ownEndpointAddress (.new .serverError)
  pure { grant := readings.grant, endpointId := P.ownEndpointId.text, endpointAddr, expiresAt }

/-- What is done for a request that is well formed. -/
def registerEndpoint (claims : StandardClaims) (request : SetupBootstrapRequest)
    (endpointId : EndpointId) : BootstrapTask ι ErrorResponse SetupBootstrapRegistration := do
  let existingDevices ← (onDevices DeviceRepo.list).mapError fun _ => .new .serverError
  let existing := existingDevices.find? fun device => device.publicKey == endpointId.text
  failIf (existing.any fun device => device.ownerSubject != claims.sub) (.new .accessDenied)
  let (deviceId, enrollmentCodeHash) ←
    bootstrapDevice P readings claims.sub request endpointId existing
  issueGrant P readings endpointId deviceId enrollmentCodeHash

/-- `register_bootstrap`: only with the scope `setup`. -/
def registerBootstrap (claims : StandardClaims) (request : SetupBootstrapRequest) :
    BootstrapTask ι ErrorResponse SetupBootstrapRegistration := do
  failIf (!claims.scope.any fun scope => scope == "setup") (.new .accessDenied)
  let endpointId ← Task.lift (validateBootstrap P request)
  registerEndpoint P readings claims request endpointId

end

end LocalPlatform.Bootstrap
