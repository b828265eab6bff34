import LocalPlatform.Idp.ClientAuth
import LocalPlatform.Lib.Interleaving
import LocalPlatform.Storage.Access
import LocalPlatform.Storage.Replication
import LocalPlatform.Storage.Socket

/-!
# The resource routes

The routes with which an application creates, lists, looks up and deletes the databases and the
filesystems of a namespace, and the upgrade to the storage socket. The namespace of a request is
the subject and the application that introspection gives for its token.
-/

namespace LocalPlatform.Storage

open Resumption
open Idp (HeaderValue headerToStr)

/-- The status codes the routes answer with. -/
inductive StatusCode where
  | switchingProtocols | ok | created | noContent
  | unauthorized | forbidden | notFound | internalServerError | serviceUnavailable
deriving DecidableEq, Repr

/-- The JSON of a file system. -/
structure FileSystemResourceResponse where
  id : String
  name : Option String
deriving DecidableEq, Repr

/-- A filesystem as the routes show it. -/
def FileSystemResource.response (uuid : Uuid) (resource : FileSystemResource) :
    FileSystemResourceResponse :=
  ⟨uuid.toText resource.id, resource.name⟩

/-- The JSON of one database, with its application. -/
structure DatabaseDetailResponse where
  id : Id
  name : Option String
  applicationId : String
deriving DecidableEq, Repr

/-- The JSON of one file system, with its application. -/
structure FileSystemDetailResponse where
  id : String
  name : Option String
  applicationId : String
deriving DecidableEq, Repr

/-- What the routes send. -/
inductive Body (φ : Type) where
  | empty
  | database (resource : DatabaseResource)
  | databases (resources : List DatabaseResource)
  | databaseDetail (detail : DatabaseDetailResponse)
  | fileSystem (resource : FileSystemResourceResponse)
  | fileSystems (resources : List FileSystemResourceResponse)
  | fileSystemDetail (detail : FileSystemDetailResponse)
  | socket (access : StorageSocketAccess φ)

/-- Status and body. -/
structure Response (φ : Type) where
  status : StatusCode
  body : Body φ

/-! ## Requests -/

/-- The answer of the IdP about a token, and the time at which it arrives. -/
structure Introspection where
  introspect : String → Except StorageAuthorizationError IntrospectionResponse
  now : ℤ

/-- The routes with their parameters. Where one creates a resource, `new` is the id that is
generated for it. -/
inductive Route where
  | createDatabase (new : Id) (name : Option String)
  | listDatabases
  | getDatabase (databaseId : Id)
  | deleteDatabase (databaseId : Id)
  | createFileSystem (new : Id) (name : Option String)
  | listFileSystems
  | getFileSystem (id : String)
  | deleteFileSystem (id : String)
  | upgradeSocket (accessToken filesystemId : String)
deriving DecidableEq, Repr

/-- A request: its header, what introspection answers for it, and the route. -/
structure Request where
  authorization : Option HeaderValue
  introspection : Introspection
  route : Route

/-- `ResourceState`: which runtimes the server has, and what they take from elsewhere. -/
structure ResourceServer (κ φ : Type) where
  host : Host
  crate : FileSystemCrate κ φ
  idpClient : Bool
  databases : Bool
  fileSystems : Bool

/-! ## Authorization -/

/-- `authorize_storage_token` -/
def authorizeStorageToken (introspection : Introspection) (token : String) :
    Except StorageAuthorizationError StorageAuthorization := do
  let response ← introspection.introspect token
  storageAuthorization introspection.now response

/-- The status of a request without access. -/
def StorageAuthorizationError.status : StorageAuthorizationError → StatusCode
  | .invalidToken => .unauthorized
  | .serviceUnavailable => .serviceUnavailable

namespace ResourceServer

variable {κ φ α : Type} (server : ResourceServer κ φ)

/-- `authorization` -/
def authorization (request : Request) : Except StatusCode StorageAuthorization :=
  let token := do
    let value ← headerToStr (← request.authorization)
    let token ← List.isPrefixOf? "Bearer ".toList value.toList
    if token.isEmpty then none else some (String.ofList token)
  match token with
  | none => .error .unauthorized
  | some token =>
    if !server.idpClient then .error .serviceUnavailable
    else (authorizeStorageToken request.introspection token).mapError (·.status)

/-- `namespace`: the namespace, and whether it may be read and written. -/
def namespaceOf (authorization : StorageAuthorization) :
    Except StatusCode (Namespace × Bool × Bool) :=
  match server.host.uuid.parse authorization.applicationId with
  | none => .error .unauthorized
  | some applicationId =>
    .ok (⟨authorization.subject, applicationId⟩, authorization.canRead, authorization.canWrite)

/-- What the token in the header gives access to. -/
def access (request : Request) : Except StatusCode (Namespace × Bool × Bool) := do
  let authorization ← server.authorization request
  server.namespaceOf authorization

/-! ## The runtimes behind the routes -/

/-- A step of either runtime. -/
inductive ServiceCall where
  | database (call : DatabaseCall)
  | fileSystem (call : FileSystemCall)
deriving DecidableEq, Repr

/-- A call of the routes. -/
abbrev ServiceTask (κ φ : Type) := Task ServiceCall (Peer κ φ)

/-- The database runtime as part of a peer. -/
def peerDatabases : Lens (Peer κ φ) Databases where
  get s := s.databases
  put databases s := { s with databases := databases }
  get_put _ _ := rfl
  put_get _ := rfl
  put_put _ _ _ := rfl

/-- The file-system runtime as part of a peer. -/
def peerFileSystems : Lens (Peer κ φ) (FileSystems κ φ) where
  get s := s.fileSystems
  put fileSystems s := { s with fileSystems := fileSystems }
  get_put _ _ := rfl
  put_get _ := rfl
  put_put _ _ _ := rfl

/-- A call of the database runtime, if there is one. -/
def withDatabases (t : DatabaseRuntime.Runtime α) : ServiceTask κ φ StatusCode α := do
  failIf (!server.databases) .serviceUnavailable
  (t.zoom .database peerDatabases).mapError fun _ => .internalServerError

/-- A call of the filesystem runtime, if there is one. -/
def withFileSystems (t : FileSystemRuntime.Runtime κ φ α) : ServiceTask κ φ StatusCode α := do
  failIf (!server.fileSystems) .serviceUnavailable
  (t.zoom .fileSystem peerFileSystems).mapError fun _ => .internalServerError

/-! ## The handlers -/

variable (call : ℕ) (request : Request)

/-- `create_database`. -/
def createDatabase (new : Id) (name : Option String) :
    ServiceTask κ φ StatusCode (Response φ) := do
  let (scope, _, canWrite) ← Task.lift (server.access request)
  failIf (!canWrite) .forbidden
  let (resource, _) ← server.withDatabases
    (DatabaseRuntime.create server.host call scope new name)
  pure ⟨.created, .database resource⟩

/-- `list_databases`. -/
def listDatabases : ServiceTask κ φ StatusCode (Response φ) := do
  let (scope, canRead, _) ← Task.lift (server.access request)
  failIf (!canRead) .forbidden
  let resources ← server.withDatabases (DatabaseRuntime.list server.host scope)
  pure ⟨.ok, .databases resources⟩

/-- `get_database`. -/
def getDatabase (databaseId : Id) : ServiceTask κ φ StatusCode (Response φ) := do
  let (scope, canRead, _) ← Task.lift (server.access request)
  failIf (!canRead) .forbidden
  let found ← server.withDatabases (DatabaseRuntime.get server.host scope databaseId)
  let resource ← okOr found .notFound
  pure ⟨.ok, .databaseDetail
    ⟨resource.id, resource.name, server.host.uuid.toText scope.applicationId⟩⟩

/-- `delete_database`: what the catalog does not list is not found. -/
def deleteDatabase (databaseId : Id) : ServiceTask κ φ StatusCode (Response φ) := do
  let (scope, _, canWrite) ← Task.lift (server.access request)
  failIf (!canWrite) .forbidden
  let deleted ← server.withDatabases (DatabaseRuntime.delete server.host call scope databaseId)
  failIf (!deleted) .notFound
  pure ⟨.noContent, .empty⟩

/-- `create_file_system`. -/
def createFileSystem (new : Id) (name : Option String) :
    ServiceTask κ φ StatusCode (Response φ) := do
  let (scope, _, canWrite) ← Task.lift (server.access request)
  failIf (!canWrite) .forbidden
  let resource ← server.withFileSystems
    (FileSystemRuntime.createResource server.crate scope new name)
  pure ⟨.created, .fileSystem (resource.response server.host.uuid)⟩

/-- `list_file_systems`. -/
def listFileSystems : ServiceTask κ φ StatusCode (Response φ) := do
  let (scope, canRead, _) ← Task.lift (server.access request)
  failIf (!canRead) .forbidden
  let resources ← server.withFileSystems (FileSystemRuntime.listResources server.crate scope)
  pure ⟨.ok, .fileSystems (resources.map (·.response server.host.uuid))⟩

/-- The filesystem is looked up in the list of all of them. -/
def getFileSystem (id : String) : ServiceTask κ φ StatusCode (Response φ) := do
  let (scope, canRead, _) ← Task.lift (server.access request)
  failIf (!canRead) .forbidden
  let id ← okOr (server.crate.parse id) .notFound
  let resources ← server.withFileSystems (FileSystemRuntime.listResources server.crate scope)
  let resource ← okOr (resources.find? fun resource => resource.id == id) .notFound
  pure ⟨.ok, .fileSystemDetail ⟨server.host.uuid.toText resource.id, resource.name,
    server.host.uuid.toText scope.applicationId⟩⟩

/-- `delete_file_system`: an identifier that does not parse is not found. -/
def deleteFileSystem (id : String) : ServiceTask κ φ StatusCode (Response φ) := do
  let (scope, _, canWrite) ← Task.lift (server.access request)
  failIf (!canWrite) .forbidden
  let id ← okOr (server.crate.parse id) .notFound
  let deleted ← server.withFileSystems
    (FileSystemRuntime.deleteResource server.crate call scope id)
  failIf (!deleted) .notFound
  pure ⟨.noContent, .empty⟩

/-! ## The socket -/

/-- The namespace that the token of a socket names. -/
def socketNamespace (introspection : Introspection) (token : String) :
    Except StorageSocketAuthorizationError (Namespace × StorageAuthorization) := do
  let authorization ← (authorizeStorageToken introspection token).mapError fun
    | .invalidToken => .invalidToken
    | .serviceUnavailable => .serviceUnavailable
  match server.host.uuid.parse authorization.applicationId with
  | none => .error .invalidToken
  | some applicationId => .ok (⟨authorization.subject, applicationId⟩, authorization)

/-- `authorize` of the `ScopedFileSystemSocketAuthorizer`. -/
def authorizeSocket (introspection : Introspection) (token resourceId : String) :
    ServiceTask κ φ StorageSocketAuthorizationError (StorageSocketAccess φ) := do
  let resourceId ← okOr (server.crate.parse resourceId) .invalidToken
  let (scope, authorization) ← Task.lift (server.socketNamespace introspection token)
  let session ← ((FileSystemRuntime.openResource server.crate call scope resourceId).zoom
    .fileSystem peerFileSystems).mapError fun _ => .invalidToken
  pure ⟨authorization.canRead, authorization.canWrite, authorization.expiresAt, session⟩

/-- `upgrade_socket`, a route only with an IdP and filesystems. -/
def upgradeSocket (accessToken filesystemId : String) :
    ServiceTask κ φ StatusCode (Response φ) := do
  failIf (!(server.idpClient && server.fileSystems)) .notFound
  let access ← (server.authorizeSocket call request.introspection accessToken
    filesystemId).mapError fun
      | .invalidToken => .unauthorized
      | .serviceUnavailable => .serviceUnavailable
  pure ⟨.switchingProtocols, .socket access⟩

/-! ## The service -/

/-- The handler of a request; `call` is the number under which it takes locks. -/
def handler : ServiceTask κ φ StatusCode (Response φ) :=
  match request.route with
  | .createDatabase new name => server.createDatabase call request new name
  | .listDatabases => server.listDatabases request
  | .getDatabase databaseId => server.getDatabase request databaseId
  | .deleteDatabase databaseId => server.deleteDatabase call request databaseId
  | .createFileSystem new name => server.createFileSystem request new name
  | .listFileSystems => server.listFileSystems request
  | .getFileSystem id => server.getFileSystem request id
  | .deleteFileSystem id => server.deleteFileSystem call request id
  | .upgradeSocket accessToken filesystemId =>
    server.upgradeSocket call request accessToken filesystemId

/-- The namespace that the token of a request is for, if it is accepted. -/
def scope? : Option Namespace :=
  match request.route with
  | .upgradeSocket accessToken _ =>
    (server.socketNamespace request.introspection accessToken).toOption.map (·.1)
  | _ => (server.access request).toOption.map (·.1)

/-- The service in a state, with requests under way, none of which has taken a step. -/
def service (s : Peer κ φ) (requests : ℕ → Request) :
    Config ℕ ServiceCall (Peer κ φ) (Except StatusCode (Response φ)) where
  shared := s
  threads i := (server.handler i (requests i)).prog

end ResourceServer

end LocalPlatform.Storage
