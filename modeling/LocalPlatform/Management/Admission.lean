import LocalPlatform.Idp.ClientAuth
import LocalPlatform.Management.DeviceKeys

/-!
# The replication routes

`replication_admission` of the management server: whether two storage endpoints may synchronize a
resource. The route puts the answer together from the identities that the IdP knows of the
endpoints and from the selections that the repository lists.
-/

namespace LocalPlatform.Management

open Resumption
open Idp (ErrorCode ErrorResponse HeaderValue StandardClaims headerToStr)

/-- What the IdP answers about an endpoint. -/
structure DeviceEndpointIdentity where
  deviceId : Id
  ownerSubject : String
  endpointId : String
deriving DecidableEq, Repr

/-- The body of an admission: two endpoints and the resource one wants from the other. -/
structure ReplicationAdmissionRequest where
  sourceEndpointId : String
  targetEndpointId : String
  applicationId : String
  kind : String
  resourceId : String
  operation : String
deriving DecidableEq, Repr

/-- `HostedControlPlane`, as far as the routes call it, and the parser of ids. -/
structure ControlPlane where
  validateActorToken : String → Except String StandardClaims
  getStorageEndpointIdentity : String → Except String DeviceEndpointIdentity
  parseId : String → Option Id

/-- The scope the storage server has to hold. -/
def managementReplicationAdmitScope : String := "management.replication.admit"

/-- The answer to everything the policy does not allow. -/
def denied : ErrorResponse := .new .accessDenied

/-- The answer where the policy could not be read. -/
def unavailable : ErrorResponse := .new .temporarilyUnavailable

/-! ## Callers -/

/-- The token in a header. -/
def bearerToken (authorization : Option HeaderValue) : Option String := do
  let value ← headerToStr (← authorization)
  let token ← List.isPrefixOf? "Bearer ".toList value.toList
  if token.isEmpty then none else some (String.ofList token)

/-- `replication_client_authorized`: a client token for the storage audience with the scope. -/
def replicationClientAuthorized (claims : StandardClaims) (storageAudience requiredScope : String) :
    Bool :=
  claims.principalType == .client && claims.aud == storageAudience &&
    claims.scope.any (· == requiredScope)

/-- `authorize_storage`: only the one message of the identity provider counts as a refusal. -/
def authorizeStorage (C : ControlPlane) (storageAudience : String)
    (authorization : Option HeaderValue) (requiredScope : String) : Except ErrorResponse Unit :=
  match bearerToken authorization with
  | none => .error (.new .notAuthorized)
  | some token =>
    match C.validateActorToken token with
    | .error error =>
      if error = "actor token was rejected by IdP" then .error (.new .notAuthorized)
      else .error unavailable
    | .ok claims =>
      if replicationClientAuthorized claims storageAudience requiredScope then .ok ()
      else .error denied

/-! ## Admission -/

/-- An admission: steps over the replica with the errors of the routes. -/
abbrev AdmissionTask := Task EngineCall Replica ErrorResponse

/-- `resource_is_selected`: every field of the selection has to agree. -/
def resourceIsSelected (resources : List SelectedResource) (deviceId : Id) (ownerSubject : String)
    (applicationId : Id) (kind : String) (resourceId : Id) : Bool :=
  resources.any fun resource =>
    resource.deviceId == deviceId && resource.ownerSubject == ownerSubject &&
      resource.applicationId == applicationId && resource.kind == kind &&
      resource.resourceId == resourceId

section
variable (P : Platform)

/-- One round of the loop of `replication_admission`. -/
def admitIdentity (identity : DeviceEndpointIdentity) (applicationId : Id) (kind : String)
    (resourceId : Id) : AdmissionTask Unit := do
  let policy ← (get P identity.deviceId identity.ownerSubject applicationId).mapError fun _ =>
    unavailable
  failIf (!policy.any (·.adminAllowed)) denied
  let selected ← (selectedResourcesForDevice P identity.deviceId).mapError fun _ => unavailable
  failIf (!resourceIsSelected selected identity.deviceId identity.ownerSubject applicationId
    kind resourceId) denied

/-- The checks of `replication_admission` on the pair of identities. -/
def admitPair (source target : DeviceEndpointIdentity) (applicationId : Id) (kind : String)
    (resourceId : Id) : AdmissionTask Unit := do
  failIf (source.deviceId == target.deviceId || source.ownerSubject != target.ownerSubject)
    denied
  admitIdentity P source applicationId kind resourceId
  admitIdentity P target applicationId kind resourceId

/-- `replication_admission`; the answer in case of success has no content. -/
def replicationAdmission (C : ControlPlane) (storageAudience : String)
    (authorization : Option HeaderValue) (request : ReplicationAdmissionRequest) :
    AdmissionTask Unit := do
  Task.lift (authorizeStorage C storageAudience authorization managementReplicationAdmitScope)
  let applicationId ← okOr (C.parseId request.applicationId) (.new .invalidRequest)
  let resourceId ← okOr (C.parseId request.resourceId) (.new .invalidRequest)
  failIf (!(request.kind == "database" || request.kind == "filesystem") ||
    request.operation != "synchronize") denied
  let source ← Task.lift ((C.getStorageEndpointIdentity request.sourceEndpointId).mapError fun _ =>
    unavailable)
  let target ← Task.lift ((C.getStorageEndpointIdentity request.targetEndpointId).mapError fun _ =>
    unavailable)
  admitPair P source target applicationId request.kind resourceId

end

/-! ## Devices -/

/-- What the policy repository reads of a device. -/
def DeviceRecord.toDevice (device : DeviceRecord) : Device where
  id := device.id
  ownerSubject := device.ownerSubject
  publicKey := device.publicKey
  state := device.state

/-- The outcome of `devices.list()` in `peers_selected_for_sync`. -/
def listedDevices (table : DeviceTable) : ManagementResult (List Device) :=
  (DeviceRepo.list.eval table).map fun devices => devices.map DeviceRecord.toDevice

/-- The identity that the IdP makes of an approved device. -/
def DeviceRecord.endpointIdentity (device : DeviceRecord) (endpointId : String) :
    DeviceEndpointIdentity where
  deviceId := device.id
  ownerSubject := device.ownerSubject
  endpointId := endpointId

end LocalPlatform.Management
