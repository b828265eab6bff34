import LocalPlatform.Lib.Text
import LocalPlatform.Storage.DatabaseRuntime
import LocalPlatform.Storage.FileSystemRuntime

/-!
# Replication between peers

The two data protocols. A round is opened by one peer (`synchronize_peer`), which says whether it
holds a tombstone, and answered by the other (`accept_stream`). `synchronize_selected_peers` opens
a round for every selected resource with every peer of a larger public key. Streams are reliable;
the sessions that exchange the contents of a resource afterwards are not modelled, since they do
not touch the catalogs.
-/

namespace LocalPlatform.Storage

open Resumption

/-- The answer of management about one resource that a device selects. -/
structure SelectedResource where
  ownerSubject : String
  applicationId : String
  kind : String
  resourceId : String
  deriving DecidableEq, Repr

/-- `DatabaseResourceDescriptor` and `IrohResourceDescriptor`: the resource a stream is about. -/
structure Descriptor where
  ownerSubject : String
  applicationId : String
  resourceId : String
  deriving DecidableEq, Repr

/-- `descriptor` -/
def descriptor (resource : SelectedResource) : Descriptor :=
  ⟨resource.ownerSubject, resource.applicationId, resource.resourceId⟩

/-- `descriptor_matches_selection` -/
def descriptorMatchesSelection (kind : String) (resource : Descriptor)
    (selected : SelectedResource) : Bool :=
  selected.ownerSubject == resource.ownerSubject &&
    selected.applicationId == resource.applicationId && selected.kind == kind &&
    selected.resourceId == resource.resourceId

/-- What replication takes from elsewhere. Peers are named by their public keys. -/
structure Platform (κ φ : Type) where
  host : Host
  crate : FileSystemCrate κ φ
  /-- `server.peers().ids()` -/
  peers : String → List String
  /-- `connect_direct_with_alpn` -/
  connect : String → String → Except String Unit
  /-- `selected_resources` of the management client. -/
  selectedResources : String → Except String (List SelectedResource)
  /-- `admit_peer_replication` of the management client, from source to target. -/
  admitPeerReplication : String → String → (applicationId kind resourceId : String) →
    Except String Unit
  /-- The length of the JSON text of a database handshake. -/
  handshakeLength : Descriptor → Bool → ℕ
  /-- The filesystems of a peer that have users beside the cache. -/
  inUse : String → Namespace × Id → Bool

/-- One peer's storage. -/
structure Peer (κ φ : Type) where
  databases : Databases
  fileSystems : FileSystems κ φ

/-- All peers, by their public keys. -/
abbrev Network (κ φ : Type) := String → Peer κ φ

/-- A step of one peer. -/
inductive NetworkCall where
  | database (peer : String) (call : DatabaseCall)
  | fileSystem (peer : String) (call : FileSystemCall)

section
variable {κ φ α : Type}

/-- The databases of a peer. -/
def databasesOf (peer : String) : Lens (Network κ φ) Databases where
  get s := (s peer).databases
  put databases s := Function.update s peer { s peer with databases := databases }
  get_put _ _ := by simp
  put_get _ := by simp
  put_put _ _ _ := by simp

/-- The filesystems of a peer. -/
def fileSystemsOf (peer : String) : Lens (Network κ φ) (FileSystems κ φ) where
  get s := (s peer).fileSystems
  put fileSystems s := Function.update s peer { s peer with fileSystems := fileSystems }
  get_put _ _ := by simp
  put_get _ := by simp
  put_put _ _ _ := by simp

/-- A call of a peer's database runtime. -/
def onDatabases (peer : String) (t : Task DatabaseCall Databases IoError α) :
    Task NetworkCall (Network κ φ) IoError α :=
  t.zoom (.database peer) (databasesOf peer)

/-- A call of a peer's filesystem runtime. -/
def onFileSystems (peer : String) (t : FileSystemRuntime.Runtime κ φ α) :
    Task NetworkCall (Network κ φ) String α :=
  t.zoom (.fileSystem peer) (fileSystemsOf peer)

/-- The namespace and the id that a descriptor names. -/
def Descriptor.key (P : Platform κ φ) (parse : String → Option Id) (resource : Descriptor) :
    Option (Namespace × Id) := do
  let applicationId ← P.host.uuid.parse resource.applicationId
  let id ← parse resource.resourceId
  pure (⟨resource.ownerSubject, applicationId⟩, id)

/-- `authorize`: the ids parse, the owner is not blank, the resource is one that the local device
selects, and management admits the peer. -/
def authorize (P : Platform κ φ) (parse : String → Option Id) (kind : String)
    (source target : String) (resource : Descriptor) : Bool :=
  (resource.key P parse).isSome && !Text.isBlank resource.ownerSubject &&
    match P.selectedResources source with
    | .error _ => false
    | .ok selected => selected.any (descriptorMatchesSelection kind resource) &&
        (P.admitPeerReplication source target resource.applicationId kind
          resource.resourceId).toBool

/-- The longest handshake that is read. -/
def maxHandshakeBytes : ℕ := 4096

/-- An error of another crate, wrapped by `io::Error::other`. -/
def otherError (message : String) : IoError := ⟨.other, message⟩

/-! ## Databases -/

namespace DatabaseProtocol

variable (P : Platform κ φ) (call : ℕ)

/-- The namespace and identifier a descriptor names. -/
def key (resource : Descriptor) : Option (Namespace × Id) := resource.key P P.host.uuid.parse

/-- `authorize` of the database protocol. -/
def authorize (source target : String) (resource : Descriptor) : Bool :=
  Storage.authorize P P.host.uuid.parse "database" source target resource

/-- `accept_stream` of `acceptor`, for a handshake of `initiator`; whether `OK` is written. -/
def acceptStream (acceptor initiator : String) (resource : Descriptor) (deleted : Bool) :
    Task NetworkCall (Network κ φ) IoError Bool :=
  if !authorize P acceptor initiator resource then pure false
  else
    match key P resource with
    | none => pure false
    | some (scope, id) =>
      if deleted then
        (onDatabases acceptor (DatabaseRuntime.applyTombstone P.host call scope id)).handle fun
          | .ok () => pure true
          | .error _ => pure false
      else
        (onDatabases acceptor (DatabaseRuntime.openSelected P.host call scope id)).handle fun
          | .ok (some _) =>
            (onDatabases acceptor (DatabaseRuntime.openKvSelected P.host call scope id)).handle fun
              | .ok (some _) => pure true
              | _ => pure false
          | _ => pure false

/-- `synchronize_peer` of `initiator` up to the sessions, with the acceptor's part in its place. -/
def synchronizePeer (initiator acceptor : String) (resource : Descriptor) :
    Task NetworkCall (Network κ φ) IoError Unit := do
  Task.lift ((P.connect initiator acceptor).mapError otherError)
  failIf (!authorize P initiator acceptor resource)
    ⟨.permissionDenied, "database resource is not authorized for sync"⟩
  let (scope, id) ← okOr (key P resource) (otherError "invalid UUID")
  let deleted ← onDatabases initiator (DatabaseRuntime.isTombstoned P.host scope id)
  failIf (decide (maxHandshakeBytes < P.handshakeLength resource deleted))
    ⟨.invalidInput, "database sync handshake too large"⟩
  let acknowledged ← acceptStream P call acceptor initiator resource deleted
  failIf (!acknowledged) (otherError "stream finished early")
  if deleted then pure ()
  else
    let database ← (onDatabases initiator (DatabaseRuntime.open P.host call scope id)).mapError
      (otherError ·.message)
    let _ ← okOr database ⟨.notFound, "database resource not found"⟩
    let kvStore ← (onDatabases initiator
      (DatabaseRuntime.openKvSelected P.host call scope id)).mapError (otherError ·.message)
    let _ ← okOr kvStore ⟨.notFound, "database KV store not found"⟩

/-- `synchronize_selected_peers`: failures of a round are logged. -/
def synchronizeSelectedPeers (peer : String) : Task NetworkCall (Network κ φ) IoError Unit :=
  match P.selectedResources peer with
  | .error _ => pure ()
  | .ok selected =>
    (P.peers peer).forM fun remote =>
      if peer ≥ remote then pure ()
      else (selected.filter (·.kind == "database")).forM fun resource =>
        (synchronizePeer P call peer remote (descriptor resource)).ignore

end DatabaseProtocol

/-! ## Filesystems -/

namespace StorageProtocol

variable (P : Platform κ φ) (call : ℕ)

/-- The namespace and identifier a descriptor names. -/
def key (resource : Descriptor) : Option (Namespace × Id) := resource.key P P.crate.parse

/-- `authorize` of the storage protocol. -/
def authorize (source target : String) (resource : Descriptor) : Bool :=
  Storage.authorize P P.crate.parse "filesystem" source target resource

/-- `accept_stream` of `acceptor`; whether the transport is accepted. -/
def acceptStream (acceptor initiator : String) (resource : Descriptor) (deleted : Bool) :
    Task NetworkCall (Network κ φ) String Bool :=
  if !authorize P acceptor initiator resource then pure false
  else
    match key P resource with
    | none => pure true
    | some (scope, id) =>
      if deleted then
        (onFileSystems acceptor
          (FileSystemRuntime.applyDeletionTombstone P.crate call scope id)).handle fun _ => pure true
      else
        (onFileSystems acceptor
          (FileSystemRuntime.registerSelectedResource P.crate scope id)).handle fun
          | .error _ => pure true
          | .ok () => (onFileSystems acceptor
              (FileSystemRuntime.openResource P.crate call scope id)).handle fun _ => pure true

/-- `synchronize_peer` of `initiator` up to the session, with the acceptor's part in its place. -/
def synchronizePeer (initiator acceptor : String) (resource : Descriptor) :
    Task NetworkCall (Network κ φ) String Unit := do
  let (scope, id) ← okOr (key P resource) "invalid UUID"
  let deleted ← onFileSystems initiator (FileSystemRuntime.isTombstoned P.crate scope id)
  Task.lift (P.connect initiator acceptor)
  failIf (!authorize P initiator acceptor resource)
    "filesystem resource is not authorized for sync"
  let accepted ← acceptStream P call acceptor initiator resource deleted
  failIf (!accepted) "stream rejected"
  if deleted then pure ()
  else
    let _ ← onFileSystems initiator (FileSystemRuntime.openResource P.crate call scope id)

/-- The filesystems that a peer selects. -/
def selectedFilesystems (selected : List SelectedResource) : List (Namespace × Id) :=
  (selected.filter (·.kind == "filesystem")).filterMap fun resource =>
    key P (descriptor resource)

/-- `synchronize_selected_peers`: failures of the eviction and of a round are logged. -/
def synchronizeSelectedPeers (peer : String) : Task NetworkCall (Network κ φ) String Unit :=
  match P.selectedResources peer with
  | .error _ => pure ()
  | .ok selected => do
    (onFileSystems peer (FileSystemRuntime.removeUnselectedProjectedResources P.crate call
      (selectedFilesystems P selected) (P.inUse peer))).ignore
    (P.peers peer).forM fun remote =>
      if peer ≥ remote then pure ()
      else (selected.filter (·.kind == "filesystem")).forM fun resource =>
        (synchronizePeer P call peer remote (descriptor resource)).ignore

end StorageProtocol

/-! ## Both -/

/-- One tick of the replication runtime of a peer. -/
def synchronizeSelectedPeers (P : Platform κ φ) (call : ℕ) (peer : String) :
    Task NetworkCall (Network κ φ) String Unit := do
  (DatabaseProtocol.synchronizeSelectedPeers P call peer).ignore
  (StorageProtocol.synchronizeSelectedPeers P call peer).ignore

/-- `synchronize_peer` of the handler for a kind of resource. -/
def synchronizePeer (P : Platform κ φ) (call : ℕ) (kind : ResourceKind)
    (initiator acceptor : String) (resource : Descriptor) :
    Task NetworkCall (Network κ φ) String Unit :=
  match kind with
  | .database => (DatabaseProtocol.synchronizePeer P call initiator acceptor resource).mapError
      (·.message)
  | .fileSystem => StorageProtocol.synchronizePeer P call initiator acceptor resource

end

end LocalPlatform.Storage
