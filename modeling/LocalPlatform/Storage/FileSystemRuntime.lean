import LocalPlatform.Storage.Catalog

/-!
# The filesystem runtime

`ScopedFileSystemRuntime`: one `FileSystemCatalog` for each namespace and a cache of open
filesystems behind a lock. The catalog and the filesystems come from another crate, so they are a
parameter with the laws the runtime counts on.
-/

namespace LocalPlatform.Storage

open Resumption

/-- A file system as the routes show it. -/
structure FileSystemResource where
  id : Id
  name : Option String
  deriving DecidableEq, Repr

/-- A file system of a namespace, or its tombstone. -/
structure CatalogEntry where
  resource : FileSystemResource
  deleted : Bool
  deriving DecidableEq, Repr

/-- `file_system::Error` -/
inductive FileSystemError where
  | notFound
  | other (message : String)
  deriving DecidableEq, Repr

/-- `to_string` -/
def FileSystemError.text : FileSystemError → String
  | notFound => "not found"
  | other message => message

/-- The crate that keeps filesystems: `κ` is the content of a catalog and `φ` an open
filesystem. -/
structure FileSystemCrate (κ φ : Type) where
  parse : String → Option Id
  /-- A catalog that nobody has written to. -/
  empty : κ
  openCatalog : κ → Except FileSystemError Unit
  create : Id → Option String → κ → Except FileSystemError FileSystemResource × κ
  list : κ → Except FileSystemError (List FileSystemResource)
  snapshot : κ → Except FileSystemError (List CatalogEntry)
  delete : Id → κ → Except FileSystemError Unit × κ
  applyTombstone : Id → κ → Except FileSystemError Unit × κ
  importSnapshot : List CatalogEntry → κ → Except FileSystemError Unit × κ
  markProjected : Id → κ → Except FileSystemError Unit × κ
  markProjectedSelected : Id → κ → Except FileSystemError Unit × κ
  projectedSelected : κ → Except FileSystemError (List Id)
  evictProjectedCopy : Id → κ → Except FileSystemError Unit × κ
  openFilesystem : Id → κ → Except FileSystemError φ
  /-- `set_residency` of the whole filesystem to `Full`. -/
  setResidency : φ → Except FileSystemError Unit

/-- The runtime's state: the namespaces with a catalog on disk and what it says, the cache of open
filesystems, and the number of the call that holds the lock of the cache. -/
structure FileSystems (κ φ : Type) where
  onDisk : List Namespace
  catalogs : Namespace → κ
  resources : Namespace × Id → Option φ
  lock : Option ℕ

/-- The steps of the file-system runtime. -/
inductive FileSystemCall where
  | lock | unlock | cache
  | openCatalog | read
  | create | delete (scope : Namespace) (id : Id) | tombstone (scope : Namespace) (id : Id)
  | register | openFilesystem | evict
  deriving DecidableEq, Repr

/-- `storage_namespace_id` -/
def storageNamespaceId (scope : Namespace) : Except String Namespace :=
  if !validSubject scope.userSub then .error "invalid user subject"
  else if scope.applicationId == 0 then .error "invalid application id"
  else .ok scope

namespace FileSystemRuntime

section
variable {κ φ α : Type} (crate : FileSystemCrate κ φ) (call : ℕ)

/-- A call of the file-system runtime. -/
abbrev Runtime (κ φ : Type) := Task FileSystemCall (FileSystems κ φ) String

/-- `catalog`: the catalog of the namespace, which is created on its first use. -/
def catalog (id : Namespace) : Runtime κ φ Unit :=
  .atomic .openCatalog fun s =>
    match crate.openCatalog (s.catalogs id) with
    | .error error => (.error error.text, s)
    | .ok () => (.ok (), { s with onDisk := if id ∈ s.onDisk then s.onDisk else id :: s.onDisk })

/-- A query of a catalog. -/
def query (label : FileSystemCall) (id : Namespace) (f : κ → Except FileSystemError α) :
    Runtime κ φ α :=
  .read label fun s => (f (s.catalogs id)).mapError (·.text)

/-- A write to a catalog, with its own error. -/
def update (label : FileSystemCall) (id : Namespace) (f : κ → Except FileSystemError α × κ) :
    Task FileSystemCall (FileSystems κ φ) FileSystemError α :=
  .atomic label fun s => ((f (s.catalogs id)).1,
    { s with catalogs := Function.update s.catalogs id (f (s.catalogs id)).2 })

/-- Run with the lock of the open filesystems. -/
def withResources (t : Runtime κ φ α) : Runtime κ φ α :=
  .bracket (.atomic .lock fun s => (.ok (), { s with lock := some call }))
    (.atomic .unlock fun s => (.ok (), { s with lock := none })) t

/-- A lookup in the cache of open file systems. -/
def cached (key : Namespace × Id) : Runtime κ φ (Option φ) :=
  .read .cache fun s => .ok (s.resources key)

/-- An entry of that cache is set or dropped. -/
def cache (key : Namespace × Id) (fileSystem : Option φ) : Runtime κ φ Unit :=
  .atomic .cache fun s =>
    (.ok (), { s with resources := Function.update s.resources key fileSystem })

/-- `create_resource`, with the id that was generated. -/
def createResource (scope : Namespace) (new : Id) (name : Option String) :
    Runtime κ φ FileSystemResource := do
  let id ← Task.lift (storageNamespaceId scope)
  catalog crate id
  (update .create id (crate.create new name)).mapError (·.text)

/-- `list_resources`. -/
def listResources (scope : Namespace) : Runtime κ φ (List FileSystemResource) := do
  let id ← Task.lift (storageNamespaceId scope)
  catalog crate id
  query .read id crate.list

/-- `delete_resource`: what the catalog does not have is answered with no. -/
def deleteResource (scope : Namespace) (resourceId : Id) : Runtime κ φ Bool := do
  let id ← Task.lift (storageNamespaceId scope)
  withResources call do
    catalog crate id
    (update (.delete id resourceId) id (crate.delete resourceId)).handle fun
      | .ok () => do
        cache (id, resourceId) none
        pure true
      | .error .notFound => pure false
      | .error error => Task.lift (.error error.text)

/-- The catalog is written first, and the lock of the cache is taken after it. -/
def applyDeletionTombstone (scope : Namespace) (resourceId : Id) : Runtime κ φ Unit := do
  let id ← Task.lift (storageNamespaceId scope)
  catalog crate id
  (update (.tombstone id resourceId) id (crate.applyTombstone resourceId)).mapError (·.text)
  withResources call (cache (id, resourceId) none)

/-- `is_tombstoned`. -/
def isTombstoned (scope : Namespace) (resourceId : Id) : Runtime κ φ Bool := do
  let id ← Task.lift (storageNamespaceId scope)
  catalog crate id
  let entries ← query .read id crate.snapshot
  pure (entries.any fun entry => entry.resource.id == resourceId && entry.deleted)

/-- `register_selected_resource`: a local tombstone refuses the selection. -/
def registerSelectedResource (scope : Namespace) (resourceId : Id) : Runtime κ φ Unit := do
  let id ← Task.lift (storageNamespaceId scope)
  catalog crate id
  let entries ← query .read id crate.snapshot
  match entries.find? fun entry => entry.resource.id == resourceId with
  | some entry =>
    if entry.deleted then
      Task.lift (.error "selected filesystem has a local deletion tombstone")
    else (update .register id (crate.markProjectedSelected resourceId)).mapError (·.text)
  | none =>
    (update .register id
      (crate.importSnapshot [⟨⟨resourceId, none⟩, false⟩])).mapError (·.text)
    (update .register id (crate.markProjected resourceId)).mapError (·.text)

/-- One projected copy is evicted unless it is selected or has users beside the cache. -/
def evictUnselected (selected : List (Namespace × Id)) (inUse : Namespace × Id → Bool)
    (id : Namespace) (resourceId : Id) : Runtime κ φ Unit :=
  if (id, resourceId) ∈ selected then pure ()
  else do
    let fileSystem ← cached (id, resourceId)
    if fileSystem.isSome && inUse (id, resourceId) then pure ()
    else
      cache (id, resourceId) none
      (update .evict id (crate.evictProjectedCopy resourceId)).mapError (·.text)

/-- `remove_unselected_projected_resources`; `inUse` says whose strong count is above one. -/
def removeUnselectedProjectedResources (selected : List (Namespace × Id))
    (inUse : Namespace × Id → Bool) : Runtime κ φ Unit := do
  let namespaces ← Task.read .read fun s => .ok s.onDisk
  namespaces.forM fun id => catalog crate id
  withResources call do
    namespaces.forM fun id => do
      let projected ← query .read id crate.projectedSelected
      projected.forM fun resourceId => evictUnselected crate selected inUse id resourceId

/-- A cached filesystem is returned without a look at the catalog. -/
def openResource (scope : Namespace) (resourceId : Id) : Runtime κ φ φ := do
  let id ← Task.lift (storageNamespaceId scope)
  withResources call do
    match ← cached (id, resourceId) with
    | some fileSystem => pure fileSystem
    | none =>
      catalog crate id
      let fileSystem ← query .openFilesystem id (crate.openFilesystem resourceId)
      Task.lift ((crate.setResidency fileSystem).mapError (·.text))
      cache (id, resourceId) (some fileSystem)
      pure fileSystem

/-- `ResourceCatalog::contains` -/
def contains (scope : Namespace) (resource : ResourceIdentity) : Runtime κ φ Bool :=
  if resource.kind ≠ .fileSystem then pure false
  else
    match crate.parse resource.id with
    | none => pure false
    | some resourceId => do
      let id ← Task.lift (storageNamespaceId scope)
      catalog crate id
      let resources ← query .read id crate.list
      pure (resources.any fun entry => entry.id == resourceId)

end

end FileSystemRuntime

/-! ## The laws of the crate -/

/-- What a catalog knows about a resource. -/
inductive Status where
  | absent | live | deleted
  deriving DecidableEq, Repr

/-- The status of a filesystem in the snapshot of its catalog. -/
def FileSystemCrate.status {κ φ : Type} (crate : FileSystemCrate κ φ) (catalog : κ) (id : Id) :
    Status :=
  match crate.snapshot catalog with
  | .error _ => .absent
  | .ok entries =>
    match entries.find? fun entry => entry.resource.id == id with
    | none => .absent
    | some entry => if entry.deleted then .deleted else .live

/-- A catalog without faults: the snapshot has each resource once, the listed and the openable
filesystems are the live ones, tombstones stay, and every write is about the resource it names. -/
structure FileSystemCrate.Lawful {κ φ : Type} (crate : FileSystemCrate κ φ) : Prop where
  openCatalog : ∀ c, crate.openCatalog c = .ok ()
  snapshot : ∀ c, ∃ entries, crate.snapshot c = .ok entries ∧
    (entries.map (·.resource.id)).Nodup
  list : ∀ c, ∃ resources, crate.list c = .ok resources ∧
    ∀ id, (∃ resource ∈ resources, resource.id = id) ↔ crate.status c id = .live
  delete_live : ∀ c id, crate.status c id = .live →
    (crate.delete id c).1 = .ok () ∧ crate.status (crate.delete id c).2 id = .deleted
  delete_of_ne_live : ∀ c id, crate.status c id ≠ .live →
    crate.delete id c = (.error .notFound, c)
  delete_frame : ∀ c id other, other ≠ id →
    crate.status (crate.delete id c).2 other = crate.status c other
  applyTombstone : ∀ c id, (crate.applyTombstone id c).1 = .ok () ∧
    crate.status (crate.applyTombstone id c).2 id = .deleted
  applyTombstone_frame : ∀ c id other, other ≠ id →
    crate.status (crate.applyTombstone id c).2 other = crate.status c other
  importSnapshot : ∀ c entry, entry.deleted = false →
    (crate.importSnapshot [entry] c).1 = .ok () ∧
    ∀ id, crate.status (crate.importSnapshot [entry] c).2 id =
      if id = entry.resource.id ∧ crate.status c id = .absent then .live else crate.status c id
  markProjected : ∀ c id, (crate.markProjected id c).1 = .ok () ∧
    ∀ other, crate.status (crate.markProjected id c).2 other = crate.status c other
  markProjectedSelected : ∀ c id, (crate.markProjectedSelected id c).1 = .ok () ∧
    ∀ other, crate.status (crate.markProjectedSelected id c).2 other = crate.status c other
  evictProjectedCopy_frame : ∀ c id other, other ≠ id →
    crate.status (crate.evictProjectedCopy id c).2 other = crate.status c other
  openFilesystem : ∀ c id, (∃ fileSystem, crate.openFilesystem id c = .ok fileSystem) ↔
    crate.status c id = .live
  setResidency : ∀ fileSystem, crate.setResidency fileSystem = .ok ()

end LocalPlatform.Storage
