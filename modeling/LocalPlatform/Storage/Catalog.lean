import LocalPlatform.Lib.Task

/-!
# The database catalog

`DatabaseCatalog`: one JSON file for each namespace, read and rewritten as a whole under a lock.
An operation is a task over the files with one step for each call of the file system, so that a
call can fail in the middle; with the lock held, an operation is one step for everybody else.
-/

namespace LocalPlatform.Storage

open Resumption

/-- A UUID; the nil one is `0`. -/
abbrev Id := ℕ

/-- The text of UUIDs and their parser, which reads back what is displayed. -/
structure Uuid where
  toText : Id → String
  parse : String → Option Id
  parse_toText : ∀ id, parse (toText id) = some id

lemma Uuid.toText_injective (uuid : Uuid) : Function.Injective uuid.toText := by
  intro a b h
  have hparse := congrArg uuid.parse h
  rw [uuid.parse_toText, uuid.parse_toText] at hparse
  exact Option.some.inj hparse

/-- `io::ErrorKind` -/
inductive ErrorKind where
  | notFound | invalidInput | invalidData | permissionDenied | other
  deriving DecidableEq, Repr

/-- `io::Error` -/
structure IoError where
  kind : ErrorKind
  message : String
  deriving DecidableEq, Repr

/-- `StorageNamespace`: whose resources, and of which application. -/
structure Namespace where
  userSub : String
  applicationId : Id
  deriving DecidableEq, Repr

/-- A subject that can be the name of a directory. -/
def validSubject (subject : String) : Bool :=
  !(subject.isEmpty || subject == "." || subject == ".." ||
    !subject.toList.all fun c => c.isAlphanum || c == '-' || c == '_' || c == '.')

/-- `ResourceKind` -/
inductive ResourceKind where
  | database | fileSystem
  deriving DecidableEq, Repr

/-- `ResourceIdentity` -/
structure ResourceIdentity where
  kind : ResourceKind
  id : String
  deriving DecidableEq, Repr

/-- A database as the routes show it. -/
structure DatabaseResource where
  id : Id
  name : Option String
  deriving DecidableEq, Repr

/-- A database of a namespace; a deleted one stays as a tombstone. -/
structure CatalogRecord where
  resource : DatabaseResource
  deleted : Bool
  deriving DecidableEq, Repr

/-- The contents of `catalog.json`. -/
structure Catalog where
  records : Std.TreeMap Id CatalogRecord

/-- The components of a path below the root. -/
abbrev Path := List String

/-- The catalog files, by their paths. -/
abbrev Files := Path → Option Catalog

/-- The calls of the file system that an operation makes, each at most once. -/
inductive FsCall where
  | read | createDirAll | createFile | writeAll | syncFile | rename | openParent | syncParent
  deriving DecidableEq, Repr

/-- Which calls fail, and how. -/
abbrev Faults := FsCall → Option IoError

/-- No call fails. -/
def noFaults : Faults := fun _ => none

/-- The error of a namespace that is no directory name. -/
def invalidNamespace : IoError := ⟨.invalidInput, "invalid storage namespace"⟩

section
variable (uuid : Uuid) (faults : Faults)

/-- The directory of a namespace, which both `catalog_path` and `database_path` check. -/
def namespaceDirectory (scope : Namespace) : Except IoError Path :=
  if !validSubject scope.userSub || scope.applicationId == 0 then .error invalidNamespace
  else .ok ["databases", scope.userSub, uuid.toText scope.applicationId]

/-- `catalog_path`. -/
def catalogPath (scope : Namespace) : Except IoError Path :=
  (namespaceDirectory uuid scope).map (· ++ ["catalog.json"])

/-- A call that has no effect on the catalog files, and may fail. -/
def fsCall (call : FsCall) : Task FsCall Files IoError Unit :=
  .read call fun _ => (faults call).elim (.ok ()) .error

/-- `read_catalog`: a missing file is an empty catalog. -/
def readCatalog (path : Path) : Task FsCall Files IoError Catalog :=
  .read .read fun files =>
    match faults .read with
    | some error => if error.kind = .notFound then .ok ⟨∅⟩ else .error error
    | none => .ok ((files path).getD ⟨∅⟩)

/-- The new content goes to a fresh file, which then takes the place of the old one. -/
def writeCatalog (path : Path) (catalog : Catalog) : Task FsCall Files IoError Unit := do
  fsCall faults .createDirAll
  fsCall faults .createFile
  fsCall faults .writeAll
  fsCall faults .syncFile
  Task.atomic .rename fun files =>
    match faults .rename with
    | some error => (.error error, files)
    | none => (.ok (), Function.update files path (some catalog))
  fsCall faults .openParent
  fsCall faults .syncParent

namespace DatabaseCatalog

/-- `create`, with the id that `now_v7` gave. -/
def create (scope : Namespace) (id : Id) (name : Option String) :
    Task FsCall Files IoError DatabaseResource := do
  let path ← Task.lift (catalogPath uuid scope)
  let catalog ← readCatalog faults path
  let resource : DatabaseResource := ⟨id, name⟩
  writeCatalog faults path ⟨catalog.records.insert resource.id ⟨resource, false⟩⟩
  pure resource

/-- `DatabaseCatalog::list`: without the tombstones. -/
def list (scope : Namespace) : Task FsCall Files IoError (List DatabaseResource) := do
  let path ← Task.lift (catalogPath uuid scope)
  let catalog ← readCatalog faults path
  let records := catalog.records.toList.map (·.2)
  pure ((records.filter fun record => !record.deleted).map (·.resource))

/-- `DatabaseCatalog::register_selected`: a tombstone is answered with no and stays. -/
def registerSelected (scope : Namespace) (id : Id) : Task FsCall Files IoError Bool := do
  let path ← Task.lift (catalogPath uuid scope)
  let catalog ← readCatalog faults path
  match catalog.records[id]? with
  | some record => pure !record.deleted
  | none =>
    let resource : DatabaseResource := ⟨id, none⟩
    writeCatalog faults path ⟨catalog.records.insert id ⟨resource, false⟩⟩
    pure true

/-- `DatabaseCatalog::get`. -/
def get (scope : Namespace) (id : Id) :
    Task FsCall Files IoError (Option DatabaseResource) := do
  let path ← Task.lift (catalogPath uuid scope)
  let catalog ← readCatalog faults path
  let live := catalog.records[id]?.filter fun record => !record.deleted
  pure (live.map (·.resource))

/-- `DatabaseCatalog::delete`: the record is marked, not removed. -/
def delete (scope : Namespace) (id : Id) : Task FsCall Files IoError Bool := do
  let path ← Task.lift (catalogPath uuid scope)
  let catalog ← readCatalog faults path
  match catalog.records[id]?.filter fun record => !record.deleted with
  | none => pure false
  | some record =>
    writeCatalog faults path ⟨catalog.records.insert id { record with deleted := true }⟩
    pure true

/-- `DatabaseCatalog::apply_tombstone`: also for a database never seen here. -/
def applyTombstone (scope : Namespace) (id : Id) : Task FsCall Files IoError Unit := do
  let path ← Task.lift (catalogPath uuid scope)
  let catalog ← readCatalog faults path
  if catalog.records[id]?.any (·.deleted) then pure ()
  else
    let record := catalog.records[id]?.getD ⟨⟨id, none⟩, true⟩
    writeCatalog faults path ⟨catalog.records.insert id { record with deleted := true }⟩

/-- `DatabaseCatalog::is_tombstoned`. -/
def isTombstoned (scope : Namespace) (id : Id) : Task FsCall Files IoError Bool := do
  let path ← Task.lift (catalogPath uuid scope)
  let catalog ← readCatalog faults path
  pure (catalog.records[id]?.any (·.deleted))

/-- `ResourceCatalog::contains`, whose errors are texts. -/
def contains (scope : Namespace) (resource : ResourceIdentity) :
    Task FsCall Files String Bool :=
  if resource.kind ≠ .database then pure false
  else
    match uuid.parse resource.id with
    | none => pure false
    | some id => Task.mapError (·.message) do
        let entry ← get uuid faults scope id
        pure entry.isSome

end DatabaseCatalog

end

end LocalPlatform.Storage
