import LocalPlatform.Bootstrap.Setup

/-!
# The bootstrap protocol

`BootstrapProtocolHandler::handle`: a connection presents a grant, its device is approved, and the
database is synchronized with the peer.
-/

namespace LocalPlatform.Bootstrap

open Resumption
open Management
open Idp (Bytes DateTime)

/-- `MAX_GRANT_BYTES` -/
def maxGrantBytes : ℕ := 256

/-- The errors that the handler makes, and those of others. -/
inductive IoError where
  | invalidData (message : String)
  | permissionDenied (message : String)
  | other
  deriving DecidableEq, Repr

/-- What happens to a connection from outside: the peer and the bytes it sends, the readings of the
clocks, whether the acknowledgement can be sent, and the changes of the device table that the peer
brings in before the synchronization ends well or not. -/
structure Connection where
  remoteId : EndpointId
  accepted : Bool
  incoming : Bytes
  clock : String → Instant
  now : DateTime
  updatedAt : DateTime
  acknowledged : Bool
  received : List (DeviceTable → DeviceTable)
  synchronized : Bool

/-- `read_exact` -/
def readExact (n : ℕ) (bytes : Bytes) : Option (Bytes × Bytes) :=
  if n ≤ bytes.length then some (bytes.take n, bytes.drop n) else none

/-- `u16::from_be_bytes` -/
def u16FromBeBytes : Bytes → ℕ
  | [high, low] => high.toNat * 256 + low.toNat
  | _ => 0

section
variable {ι : Type} [DecidableEq ι]

/-- Changes what is recorded of connection `i`. -/
def Observed.update (observed : ι → Observed) (i : ι) (f : Observed → Observed) : ι → Observed :=
  Function.update observed i (f (observed i))

/-- A call of the device repository, after which the connection has seen the table. -/
def consult {α : Type} (i : ι) (t : DeviceTask α) : BootstrapTask ι IoError α :=
  .atomic .devices fun s =>
    ((t.run s.devices).1.mapError fun _ => .other,
      { s with
        devices := (t.run s.devices).2
        observed := Observed.update s.observed i fun o =>
          { o with checked := some (t.run s.devices).2 } })

/-- `registry.reserve`; the grant presented is recorded before the reservation changes it. -/
def reserveGrant (i : ι) (conn : Connection) (grantId : String) : BootstrapTask ι IoError Bool :=
  .atomic .reserve fun s =>
    let result := s.registry.reserve conn.clock grantId conn.remoteId
    (.ok result.1,
      { s with
        registry := result.2
        observed :=
          if result.1 then Observed.update s.observed i fun o =>
            { o with presented := (s.registry.grants grantId).map fun grant =>
                ⟨grantId, grant, conn.clock grantId⟩ }
          else s.observed })

/-- `registry.get`. -/
def getGrant (grantId : String) : BootstrapTask ι IoError (Option BootstrapGrant) :=
  .read .get fun s => .ok (s.registry.get grantId)

/-- `registry.finish`. -/
def finishGrant (conn : Connection) (grantId : String) (success : Bool) :
    BootstrapTask ι IoError Unit :=
  .atomic .finish fun s =>
    (.ok (), { s with registry := s.registry.finish grantId conn.remoteId success })

/-- The start of `synchronize`. -/
def startSynchronize (i : ι) (conn : Connection) : BootstrapTask ι IoError Unit :=
  .atomic .synchronize fun s =>
    (.ok (), { s with observed := Observed.update s.observed i fun o =>
      { o with synchronizing := some conn.remoteId } })

/-- A change that the peer brings in. -/
def receive (change : DeviceTable → DeviceTable) : BootstrapTask ι IoError Unit :=
  .atomic .receive fun s => (.ok (), { s with devices := change s.devices })

/-- The block `approval`. -/
def approval (i : ι) (conn : Connection) (grantId : String) : BootstrapTask ι IoError Unit := do
  let grant ← okOr (← getGrant grantId) (.permissionDenied "bootstrap grant expired")
  let approved ← consult i
    (DeviceRepo.approve conn.now conn.updatedAt grant.deviceId grant.enrollmentCodeHash)
  match approved with
  | some _ => pure ()
  | none =>
    let found ← consult i (DeviceRepo.findApprovedByPublicKey conn.remoteId.text)
    failIf (!found.any fun device => device.id == grant.deviceId)
      (.permissionDenied "registered device approval failed")

/-- The synchronization, whose outcome decides on the grant. -/
def synchronize (i : ι) (conn : Connection) (grantId : String) : BootstrapTask ι IoError Unit := do
  startSynchronize i conn
  conn.received.forM receive
  finishGrant conn grantId conn.synchronized
  failIf (!conn.synchronized) .other

/-- Everything after the grant has been reserved. -/
def bootstrapPeer (i : ι) (conn : Connection) (grantId : String) : BootstrapTask ι IoError Unit :=
  (approval i conn grantId).handle fun
  | .error error => do
    finishGrant conn grantId false
    Task.lift (.error error)
  | .ok () =>
    if conn.acknowledged then synchronize i conn grantId
    else do
      finishGrant conn grantId false
      Task.lift (.error .other)

/-- `BootstrapProtocolHandler::handle`: a length-framed grant is read, reserved for the remote peer,
and only then served. -/
def handle (P : BootstrapPlatform) (i : ι) (conn : Connection) : BootstrapTask ι IoError Unit := do
  failIf (!conn.accepted) .other
  let (header, rest) ← okOr (readExact 2 conn.incoming) .other
  let length := u16FromBeBytes header
  failIf (length == 0 || maxGrantBytes < length)
    (.invalidData "invalid bootstrap grant length")
  let (token, _) ← okOr (readExact length rest) .other
  let grantId ← okOr (P.fromUtf8 token) (.invalidData "invalid bootstrap grant")
  let reserved ← reserveGrant i conn grantId
  failIf (!reserved) (.permissionDenied "bootstrap grant denied")
  bootstrapPeer i conn grantId

end

end LocalPlatform.Bootstrap
