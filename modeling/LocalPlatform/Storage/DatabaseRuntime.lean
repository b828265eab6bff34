import LocalPlatform.Storage.Catalog

/-!
# The database runtime

`DatabaseRuntime`: the catalog and two caches of open databases, each behind its own lock. A call
is a task with one step for each lock taken or released, each catalog operation, each look into
or change of a cache, and each opening of a store.
-/

namespace LocalPlatform.Storage

open Resumption

/-- What the runtime takes from its host: UUIDs, the file system, and the engines that open a
database or a key-value store at a path. -/
structure Host where
  uuid : Uuid
  faults : Faults
  openDatabase : Path → Except String Unit
  openKvStore : Path → Except IoError Unit

/-- Nothing fails. -/
structure Host.Reliable (host : Host) : Prop where
  faults : host.faults = noFaults
  openDatabase : ∀ path, host.openDatabase path = .ok ()
  openKvStore : ∀ path, host.openKvStore path = .ok ()

/-- An open database or key-value store, by the path of its file. -/
abbrev Handle := Path

/-- What an open database is cached under. -/
abbrev DatabaseKey := Namespace × Id

/-- The runtime's state. A lock holds the number of the call that has it. -/
structure Databases where
  files : Files
  opened : DatabaseKey → Option Handle
  kvOpened : DatabaseKey → Option Handle
  openLock : Option ℕ
  kvLock : Option ℕ

/-- The steps of the database runtime, the locks included. -/
inductive DatabaseCall where
  | lockOpen | unlockOpen | lockKv | unlockKv
  | catalog | openCache | kvCache | openDatabase | openKvStore
  deriving DecidableEq, Repr

/-- `database_path` -/
def databasePath (uuid : Uuid) (scope : Namespace) (id : Id) : Except IoError Path :=
  (namespaceDirectory uuid scope).map (· ++ [uuid.toText id ++ ".redb"])

namespace DatabaseRuntime

/-- A call of the database runtime. -/
abbrev Runtime := Task DatabaseCall Databases IoError

section
variable {α : Type} (host : Host) (call : ℕ)

/-- A catalog operation, which nobody sees in the middle. -/
def catalog (operation : Task FsCall Files IoError α) : Runtime α :=
  .atomic .catalog fun s => ((operation.run s.files).1, { s with files := (operation.run s.files).2 })

/-- Run with the lock of the open databases. -/
def withOpen (t : Runtime α) : Runtime α :=
  .bracket (.atomic .lockOpen fun s => (.ok (), { s with openLock := some call }))
    (.atomic .unlockOpen fun s => (.ok (), { s with openLock := none })) t

/-- Run with the lock of the open key-value stores. -/
def withKv (t : Runtime α) : Runtime α :=
  .bracket (.atomic .lockKv fun s => (.ok (), { s with kvLock := some call }))
    (.atomic .unlockKv fun s => (.ok (), { s with kvLock := none })) t

/-- A lookup in the cache of open databases. -/
def cached (key : DatabaseKey) : Runtime (Option Handle) :=
  .read .openCache fun s => .ok (s.opened key)

/-- An entry of that cache is set or dropped. -/
def cache (key : DatabaseKey) (handle : Option Handle) : Runtime Unit :=
  .atomic .openCache fun s => (.ok (), { s with opened := Function.update s.opened key handle })

/-- A lookup in the cache of open key-value stores. -/
def kvCached (key : DatabaseKey) : Runtime (Option Handle) :=
  .read .kvCache fun s => .ok (s.kvOpened key)

/-- An entry of that cache is set or dropped. -/
def kvCache (key : DatabaseKey) (handle : Option Handle) : Runtime Unit :=
  .atomic .kvCache fun s => (.ok (), { s with kvOpened := Function.update s.kvOpened key handle })

/-- `evict`, with the lock of the open databases held. -/
def evict (scope : Namespace) (id : Id) : Runtime Unit := do
  cache (scope, id) none
  withKv call (kvCache (scope, id) none)

/-- `create`, with the id that `now_v7` gave. -/
def create (scope : Namespace) (id : Id) (name : Option String) :
    Runtime (DatabaseResource × Handle) :=
  withOpen call do
    let resource ← catalog (DatabaseCatalog.create host.uuid host.faults scope id name)
    let path ← Task.lift (databasePath host.uuid scope resource.id)
    (Task.read .openDatabase fun _ => host.openDatabase path).handle fun
      | .ok _ => do
        cache (scope, resource.id) (some path)
        pure (resource, path)
      | .error error => do
        let _ ← catalog (DatabaseCatalog.delete host.uuid host.faults scope resource.id)
        Task.lift (.error ⟨.other, error⟩)

/-- `DatabaseRuntime::list`. -/
def list (scope : Namespace) : Runtime (List DatabaseResource) :=
  catalog (DatabaseCatalog.list host.uuid host.faults scope)

/-- `DatabaseRuntime::get`. -/
def get (scope : Namespace) (id : Id) : Runtime (Option DatabaseResource) :=
  catalog (DatabaseCatalog.get host.uuid host.faults scope id)

/-- `DatabaseRuntime::delete`: tombstone and eviction under the lock that opening takes. -/
def delete (scope : Namespace) (id : Id) : Runtime Bool :=
  withOpen call do
    let deleted ← catalog (DatabaseCatalog.delete host.uuid host.faults scope id)
    if deleted then evict call scope id
    pure deleted

/-- `DatabaseRuntime::apply_tombstone`. -/
def applyTombstone (scope : Namespace) (id : Id) : Runtime Unit :=
  withOpen call do
    catalog (DatabaseCatalog.applyTombstone host.uuid host.faults scope id)
    evict call scope id

/-- `DatabaseRuntime::is_tombstoned`. -/
def isTombstoned (scope : Namespace) (id : Id) : Runtime Bool :=
  catalog (DatabaseCatalog.isTombstoned host.uuid host.faults scope id)

/-- The cached database, or the one at its path, which is then cached. -/
def openCached (scope : Namespace) (id : Id) : Runtime Handle := do
  match ← cached (scope, id) with
  | some handle => pure handle
  | none =>
    let path ← Task.lift (databasePath host.uuid scope id)
    Task.read .openDatabase fun _ => (host.openDatabase path).mapError (⟨.invalidData, ·⟩)
    cache (scope, id) (some path)
    pure path

/-- `DatabaseRuntime::open_selected`: a database selected elsewhere is registered before it is
opened. -/
def openSelected (scope : Namespace) (id : Id) : Runtime (Option Handle) :=
  withOpen call do
    if ← catalog (DatabaseCatalog.registerSelected host.uuid host.faults scope id) then
      some <$> openCached host scope id
    else pure none

/-- The cached key-value store, or the one beside the database, which is then cached. -/
def openKvCached (scope : Namespace) (id : Id) : Runtime Handle := do
  match ← kvCached (scope, id) with
  | some handle => pure handle
  | none =>
    let path ← Task.lift (databasePath host.uuid scope id)
    -- the extension of the database's file is replaced
    let path := path.dropLast ++ [host.uuid.toText id ++ ".kv.redb"]
    Task.read .openKvStore fun _ => host.openKvStore path
    kvCache (scope, id) (some path)
    pure path

/-- `DatabaseRuntime::open_kv_selected`. -/
def openKvSelected (scope : Namespace) (id : Id) : Runtime (Option Handle) :=
  withKv call do
    if ← catalog (DatabaseCatalog.registerSelected host.uuid host.faults scope id) then
      some <$> openKvCached host scope id
    else pure none

/-- `DatabaseRuntime::open`: only what the catalog lists. -/
def «open» (scope : Namespace) (id : Id) : Runtime (Option Handle) :=
  withOpen call do
    match ← catalog (DatabaseCatalog.get host.uuid host.faults scope id) with
    | none => pure none
    | some _ => some <$> openCached host scope id

/-- `ResourceCatalog::contains` of the catalog. -/
def contains (scope : Namespace) (resource : ResourceIdentity) :
    Task DatabaseCall Databases String Bool :=
  .read .catalog fun s =>
    ((DatabaseCatalog.contains host.uuid host.faults scope resource).eval s.files)

end

end DatabaseRuntime

end LocalPlatform.Storage
