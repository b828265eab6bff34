import LocalPlatform.Bootstrap.Handler
import LocalPlatform.Management.DeviceTheorems

/-!
# A concrete bootstrap server

A platform on which runs can be computed, and one device that joins.
-/

namespace LocalPlatform.Bootstrap.Reference

open Management

/-- The joining device. -/
def peer : EndpointId := ⟨"peer"⟩

/-- The clock stands still. -/
def stopped : String → Instant := fun _ => 0

/-- A platform whose digests are the identity, so that distinct texts stay distinct. -/
def bootstrapPlatform : BootstrapPlatform where
  devices := Management.Reference.devicePlatform
  endpointAddr text := some ⟨text⟩
  sha256 bytes := bytes
  fromUtf8 bytes := some (String.ofList (bytes.map fun byte => Char.ofNat byte.toNat))
  ownEndpointId := ⟨"server"⟩
  ownEndpointAddress := some "address"

/-- The claims of an owner who may set up devices. -/
def setupClaims : Idp.StandardClaims where
  type := .bearer
  use := .access
  exp := 0
  iat := 0
  nbf := 0
  iss := "issuer"
  aud := "app"
  clientId := "app"
  sub := "owner"
  principalType := .user
  resource := none
  authorizationDetails := none
  scope := ["setup"]

/-- The draws and clock readings of the registration. -/
def setupReadings : SetupReadings where
  grant := "grant"
  newId := 2
  revokedAt := 0
  createdAt := 0
  enrolledAt := 0
  registeredAt := 0
  clock := stopped
  answeredAt := 0
  answeredInstant := 0

/-- The registration request of `peer`. -/
def joinRequest : SetupBootstrapRequest := ⟨"phone", "peer", "peer"⟩

/-- The peer presents the grant, and the synchronization succeeds. -/
def joinConnection : Connection where
  remoteId := peer
  accepted := true
  incoming := [0, 5, 103, 114, 97, 110, 116]
  clock := stopped
  now := 0
  updatedAt := 0
  acknowledged := true
  received := []
  synchronized := true

/-- The server's own device is approved. -/
def serverTable : DeviceTable where
  rows := [{ Management.Reference.waiting with publicKey := "server", state := .approved }]
  conflicted _ := false

/-- The join of the peer was interrupted when its device had been created. -/
def interruptedTable : DeviceTable where
  rows := serverTable.rows ++
    [{ Management.Reference.waiting with id := 2, publicKey := "peer" }]
  conflicted _ := false

end LocalPlatform.Bootstrap.Reference
