import LocalPlatform.Management.Devices

/-!
# Bootstrap grants

`BootstrapRegistry` holds the grants that joining devices present. Every call is one critical
section under the lock of the map. `retain` reads the clock for every grant it looks at, so a call
takes a reading for every grant id.
-/

namespace LocalPlatform.Bootstrap

open Management (Id)
open Idp (Bytes)

/-- A reading of the monotonic clock, in nanoseconds. -/
abbrev Instant := ℕ

/-- The public key of an endpoint, by its canonical text. -/
structure EndpointId where
  text : String
  deriving DecidableEq, Repr

/-- A grant for one endpoint; `inUse` while a session holds it. -/
structure BootstrapGrant where
  endpointId : EndpointId
  deviceId : Id
  enrollmentCodeHash : Bytes
  expiresAt : Instant
  inUse : Bool
  deriving DecidableEq, Repr

/-- `GRANT_TTL`, 15 minutes -/
def grantTtl : Instant := 15 * 60 * 10 ^ 9

/-- `expires_at_unix`, by the system time in nanoseconds after the epoch and the monotonic clock.
The sum is out of range when its seconds are no `i64`, and an expiry before the epoch is reported
as the epoch. -/
def BootstrapGrant.expiresAtUnix (systemNow : ℤ) (now : Instant) (grant : BootstrapGrant) : ℤ :=
  let expiry := systemNow + (grant.expiresAt - now : ℕ)
  if expiry < 0 ∨ 2 ^ 63 * 10 ^ 9 ≤ expiry then 0 else expiry / 10 ^ 9

/-- `BootstrapRegistry`: the grants by their text, held in memory under one lock. -/
structure BootstrapRegistry where
  grants : String → Option BootstrapGrant

namespace BootstrapRegistry

/-- `default` -/
def empty : BootstrapRegistry := ⟨fun _ => none⟩

/-- `grants.retain(|_, grant| grant.expires_at > Instant::now())` -/
def retain (registry : BootstrapRegistry) (clock : String → Instant) : BootstrapRegistry :=
  ⟨fun grantId => (registry.grants grantId).filter fun grant => clock grantId < grant.expiresAt⟩

/-- The map with the grant put under its text. -/
def insert (registry : BootstrapRegistry) (grantId : String) (grant : BootstrapGrant) :
    BootstrapRegistry :=
  ⟨Function.update registry.grants grantId (some grant)⟩

/-- The map without the grant. -/
def remove (registry : BootstrapRegistry) (grantId : String) : BootstrapRegistry :=
  ⟨Function.update registry.grants grantId none⟩

/-- The grant that `register` makes. The expiry is computed before the lock is taken. -/
def newGrant (created : Instant) (endpointId : EndpointId) (deviceId : Id)
    (enrollmentCodeHash : Bytes) : BootstrapGrant where
  endpointId := endpointId
  deviceId := deviceId
  enrollmentCodeHash := enrollmentCodeHash
  expiresAt := created + grantTtl
  inUse := false

/-- `BootstrapRegistry::register`: expired grants are dropped first. -/
def register (registry : BootstrapRegistry) (clock : String → Instant) (grantId : String)
    (grant : BootstrapGrant) : BootstrapRegistry :=
  (registry.retain clock).insert grantId grant

/-- `BootstrapRegistry::get`: neither expiry nor the endpoint is checked here. -/
def get (registry : BootstrapRegistry) (grantId : String) : Option BootstrapGrant :=
  registry.grants grantId

/-- `BootstrapRegistry::reserve`: for the endpoint the grant names, and one session at a time. -/
def reserve (registry : BootstrapRegistry) (clock : String → Instant) (grantId : String)
    (endpointId : EndpointId) : Bool × BootstrapRegistry :=
  let live := registry.retain clock
  match live.grants grantId with
  | none => (false, live)
  | some grant =>
    if grant.endpointId ≠ endpointId ∨ grant.inUse then (false, live)
    else (true, live.insert grantId { grant with inUse := true })

/-- `BootstrapRegistry::finish`: a success uses the grant up, a failure frees it for another
attempt. -/
def finish (registry : BootstrapRegistry) (grantId : String) (endpointId : EndpointId)
    (success : Bool) : BootstrapRegistry :=
  match registry.grants grantId with
  | none => registry
  | some grant =>
    if grant.endpointId ≠ endpointId then registry
    else if success then registry.remove grantId
    else registry.insert grantId { grant with inUse := false }

end BootstrapRegistry

end LocalPlatform.Bootstrap
