import LocalPlatform.Lib.Compartments
import LocalPlatform.Storage.CatalogTheorems
import LocalPlatform.Storage.Resources

/-!
# Namespaces do not interfere

The namespaces are the compartments of storage: the catalog file of a namespace, its open databases
and key-value stores, its filesystem catalog and its open filesystems. Every request is confined to
the namespace of its token, and so what the requests of one namespace are answered does not depend
on the others.
-/

namespace LocalPlatform.Storage

open Resumption Function FileSystemRuntime DatabaseRuntime Files

/-! ## What belongs to a namespace -/

/-- The content of the catalog file of a namespace. -/
def Files.view (uuid : Uuid) (scope : Namespace) (files : Files) : Option Catalog :=
  (catalogPath uuid scope).toOption.bind files

/-- What one namespace sees of the database runtime. -/
structure DatabasesView where
  catalog : Option Catalog
  opened : Id → Option Handle
  kvOpened : Id → Option Handle

/-- The view of a namespace. -/
def Databases.view (uuid : Uuid) (scope : Namespace) (s : Databases) : DatabasesView where
  catalog := Files.view uuid scope s.files
  opened id := s.opened (scope, id)
  kvOpened id := s.kvOpened (scope, id)

/-- What one namespace sees of the file-system runtime. -/
structure FileSystemsView (κ φ : Type) where
  onDisk : Bool
  catalog : κ
  resources : Id → Option φ

/-- `namespace_root`, the directory of the filesystem catalog of a namespace. -/
def namespaceRoot (uuid : Uuid) (id : Namespace) : Path :=
  ["filesystems", id.userSub, uuid.toText id.applicationId]

/-- Catalogs at different roots have nothing in common. -/
lemma namespaceRoot_injective (uuid : Uuid) : Function.Injective (namespaceRoot uuid) := by
  rintro ⟨userSub, applicationId⟩ ⟨userSub', applicationId'⟩ h
  obtain ⟨rfl, htext⟩ : userSub = userSub' ∧
      uuid.toText applicationId = uuid.toText applicationId' := by
    simpa [namespaceRoot] using h
  rw [uuid.toText_injective htext]

section
variable {κ φ : Type}

/-- The view of a namespace. -/
def FileSystems.view (scope : Namespace) (s : FileSystems κ φ) : FileSystemsView κ φ where
  onDisk := decide (scope ∈ s.onDisk)
  catalog := s.catalogs scope
  resources id := s.resources (scope, id)

/-- What the service keeps for a namespace. -/
def Peer.view (uuid : Uuid) (scope : Namespace) (s : Peer κ φ) :
    DatabasesView × FileSystemsView κ φ :=
  (s.databases.view uuid scope, s.fileSystems.view scope)

end

/-! ## Catalog files -/

section
variable {uuid : Uuid} {faults : Faults} {scope : Namespace} {path : Path}

lemma Files.view_of_path (hpath : catalogPath uuid scope = .ok path) (files : Files) :
    view uuid scope files = files path := by
  rw [view, hpath]
  rfl

lemma confined_readCatalog (hpath : catalogPath uuid scope = .ok path) :
    (readCatalog faults path).Confined (view uuid) scope := by
  refine .read fun files files' h => ?_
  have hcontent : files path = files' path := by
    rwa [view_of_path hpath, view_of_path hpath] at h
  rw [hcontent]

lemma confined_fsCall (call : FsCall) : (fsCall faults call).Confined (view uuid) scope :=
  .read fun _ _ _ => rfl

/-- Only the file at the path of the namespace is replaced. -/
lemma Files.view_update_of_ne (hpath : catalogPath uuid scope = .ok path) {other : Namespace}
    (hother : other ≠ scope) (files : Files) (catalog : Catalog) :
    view uuid other (update files path (some catalog)) = view uuid other files := by
  cases hotherPath : catalogPath uuid other with
  | error e =>
    rw [view, view, hotherPath]
    rfl
  | ok otherPath =>
    have hne : otherPath ≠ path := by
      rintro rfl
      exact hother (catalogPath_injective hotherPath hpath)
    rw [view_of_path hotherPath, view_of_path hotherPath, update_of_ne hne]

/-- A write of the catalog stays in its namespace. -/
lemma confined_writeCatalog (hpath : catalogPath uuid scope = .ok path) (catalog : Catalog) :
    (writeCatalog faults path catalog).Confined (view uuid) scope := by
  refine (confined_fsCall _).bind fun _ => (confined_fsCall _).bind fun _ =>
    (confined_fsCall _).bind fun _ => (confined_fsCall _).bind fun _ =>
    .bind ?_ fun _ => (confined_fsCall _).bind fun _ => confined_fsCall _
  -- the rename is the one step that changes a file
  cases faults .rename with
  | some e => exact .hidden fun _ _ => rfl
  | none =>
    refine .atomic (fun files other hother => ?_) fun files files' _ => ⟨rfl, ?_⟩
    · exact view_update_of_ne hpath hother files catalog
    · rw [view_of_path hpath, view_of_path hpath]
      show update files path (some catalog) path = update files' path (some catalog) path
      rw [update_self, update_self]

namespace DatabaseCatalog

lemma confined_create (id : Id) (name : Option String) :
    (create uuid faults scope id name).Confined (view uuid) scope :=
  .lift_bind fun _ hpath => (confined_readCatalog hpath).bind fun _ =>
    (confined_writeCatalog hpath _).bind fun _ => .pure _

lemma confined_list : (list uuid faults scope).Confined (view uuid) scope :=
  .lift_bind fun _ hpath => (confined_readCatalog hpath).bind fun _ =>
    .pure _

lemma confined_get (id : Id) : (get uuid faults scope id).Confined (view uuid) scope :=
  .lift_bind fun _ hpath => (confined_readCatalog hpath).bind fun _ =>
    .pure _

lemma confined_delete (id : Id) :
    (delete uuid faults scope id).Confined (view uuid) scope := by
  refine .lift_bind fun path hpath => ?_
  refine (confined_readCatalog hpath).bind fun catalog => ?_
  cases catalog.records[id]?.filter fun record => !record.deleted with
  | none => exact .pure _
  | some record => exact (confined_writeCatalog hpath _).bind fun _ => .pure _

end DatabaseCatalog

end

/-! ## Caches -/

section
variable {α : Type} (cache : Namespace × Id → Option α) {scope : Namespace} (id : Id)
  (value : Option α)

lemma cache_update_of_ne {other : Namespace} (hother : other ≠ scope) :
    (fun key => update cache (scope, id) value (other, key)) = fun key => cache (other, key) := by
  funext key
  have hne : (other, key) ≠ (scope, id) := fun h => hother (Prod.ext_iff.mp h).1
  rw [update_of_ne hne]

lemma cache_update_self :
    (fun key => update cache (scope, id) value (scope, key)) =
      update (fun key => cache (scope, key)) id value := by
  funext key
  by_cases hkey : key = id
  · subst hkey
    rw [update_self, update_self]
  · have hne : (scope, key) ≠ (scope, id) := fun h => hkey (Prod.ext_iff.mp h).2
    rw [update_of_ne hne, update_of_ne hkey]

end

/-! ## The database runtime -/

namespace DatabaseRuntime

variable {α : Type} {host : Host} {scope : Namespace} {call : ℕ} {t : Runtime α}

lemma confined_catalog {operation : Task FsCall Files IoError α}
    (h : operation.Confined (view host.uuid) scope) :
    (catalog operation).Confined (Databases.view host.uuid) scope := by
  refine .atomic (fun s other hother => ?_) fun s s' hview => ?_
  · show DatabasesView.mk (Files.view host.uuid other (operation.run s.files).2) _ _ = _
    rw [h.run_others s.files hother]
    rfl
  · obtain ⟨hfiles, hopened, hkv⟩ := DatabasesView.mk.inj hview
    obtain ⟨hout, hfiles'⟩ := h.run_eq hfiles
    refine ⟨hout, ?_⟩
    show .mk (Files.view host.uuid scope (operation.run s.files).2) _ _ =
      DatabasesView.mk (view host.uuid scope (operation.run s'.files).2) _ _
    rw [hfiles', hopened, hkv]

section
variable (h : t.Confined (Databases.view host.uuid) scope)
include h

/-- The lock is shared, but not part of any view. -/
lemma confined_withOpen :
    (withOpen call t).Confined (Databases.view host.uuid) scope :=
  .bracket (.hidden fun _ _ => rfl) (.hidden fun _ _ => rfl) h

lemma confined_withKv :
    (withKv call t).Confined (Databases.view host.uuid) scope :=
  .bracket (.hidden fun _ _ => rfl) (.hidden fun _ _ => rfl) h

end

variable (id : Id)

lemma confined_cache (handle : Option Handle) :
    (cache (scope, id) handle).Confined (Databases.view host.uuid) scope := by
  refine .atomic (fun s other hother => ?_) fun s s' hview => ⟨rfl, ?_⟩
  · show DatabasesView.mk _ (fun key => update s.opened (scope, id) handle (other, key)) _ = _
    rw [cache_update_of_ne s.opened id handle hother]
    rfl
  · obtain ⟨hfiles, hopened, hkv⟩ := DatabasesView.mk.inj hview
    show .mk _ (fun key => update s.opened (scope, id) handle (scope, key)) _ =
      DatabasesView.mk _ (fun key => update s'.opened (scope, id) handle (scope, key)) _
    rw [cache_update_self, cache_update_self, hopened, hfiles, hkv]

lemma confined_kvCache (handle : Option Handle) :
    (kvCache (scope, id) handle).Confined (Databases.view host.uuid) scope := by
  refine .atomic (fun s other hother => ?_) fun s s' hview => ⟨rfl, ?_⟩
  · show DatabasesView.mk _ _ (fun key => update s.kvOpened (scope, id) handle (other, key)) = _
    rw [cache_update_of_ne s.kvOpened id handle hother]
    rfl
  · obtain ⟨hfiles, hopened, hkv⟩ := DatabasesView.mk.inj hview
    show .mk _ _ (fun key => update s.kvOpened (scope, id) handle (scope, key)) =
      DatabasesView.mk _ _ (fun key => update s'.kvOpened (scope, id) handle (scope, key))
    rw [cache_update_self, cache_update_self, hopened, hfiles, hkv]

lemma confined_create (name : Option String) :
    (create host call scope id name).Confined (Databases.view host.uuid) scope := by
  refine confined_withOpen (.bind
    (confined_catalog (DatabaseCatalog.confined_create id name)) fun resource =>
      .lift_bind fun path _ => .handle (.read fun _ _ _ => rfl) fun opened => ?_)
  cases opened with
  | ok _ => exact (confined_cache resource.id (some path)).bind fun _ => .pure _
  | error e =>
    exact (confined_catalog (DatabaseCatalog.confined_delete resource.id)).bind fun _ =>
      .lift _

lemma confined_list : (list host scope).Confined (Databases.view host.uuid) scope :=
  confined_catalog DatabaseCatalog.confined_list

lemma confined_get : (get host scope id).Confined (Databases.view host.uuid) scope :=
  confined_catalog (DatabaseCatalog.confined_get id)

lemma confined_delete : (delete host call scope id).Confined (Databases.view host.uuid) scope := by
  refine confined_withOpen (.bind
    (confined_catalog (DatabaseCatalog.confined_delete id)) fun deleted => ?_)
  have hevict : (evict call scope id).Confined (Databases.view host.uuid) scope :=
    (confined_cache id none).bind fun _ => confined_withKv (confined_kvCache id none)
  cases deleted with
  | false => exact .pure _
  | true => exact hevict.bind fun _ => .pure _

end DatabaseRuntime

/-! ## The filesystem runtime -/

namespace FileSystemRuntime

variable {κ φ α : Type} {crate : FileSystemCrate κ φ} {scope : Namespace} {call : ℕ}

lemma confined_catalog : (catalog crate scope).Confined FileSystems.view scope := by
  refine .atomic (fun s other hother => ?_) fun s s' hview => ?_
  · cases crate.openCatalog (s.catalogs scope) with
    | error e => rfl
    | ok _ =>
      show .mk (decide (other ∈ if scope ∈ s.onDisk then s.onDisk
        else scope :: s.onDisk)) _ _ = FileSystemsView.mk (decide (other ∈ s.onDisk)) _ _
      congr 2
      split
      · rfl
      · simp [hother]
  · obtain ⟨-, hcat, hress⟩ := FileSystemsView.mk.inj hview
    rw [hcat]
    cases crate.openCatalog (s'.catalogs scope) with
    | error e => exact ⟨rfl, hview⟩
    | ok _ =>
      refine ⟨rfl, ?_⟩
      have hhere : ∀ s : FileSystems κ φ, decide (scope ∈ if scope ∈ s.onDisk then s.onDisk
          else scope :: s.onDisk) = true := by
        intro s
        split
        · simpa
        · simp
      show .mk (decide (scope ∈ if scope ∈ s.onDisk then s.onDisk
          else scope :: s.onDisk)) _ _ = FileSystemsView.mk (decide (scope ∈ if scope ∈ s'.onDisk
          then s'.onDisk else scope :: s'.onDisk)) _ _
      rw [hhere s, hhere s', hcat, hress]

lemma confined_query (label : FileSystemCall) (f : κ → Except FileSystemError α) :
    (query label scope f : Runtime κ φ α).Confined FileSystems.view scope := by
  refine .read fun s s' hview => ?_
  obtain ⟨-, hcat, -⟩ := FileSystemsView.mk.inj hview
  rw [hcat]

lemma confined_update (label : FileSystemCall) (f : κ → Except FileSystemError α × κ) :
    (update label scope f : Task FileSystemCall (FileSystems κ φ) FileSystemError α).Confined
      FileSystems.view scope := by
  refine .atomic (fun s other hother => ?_) fun s s' hview => ?_
  · show FileSystemsView.mk _ (Function.update s.catalogs scope _ other) _ = _
    rw [update_of_ne hother]
    rfl
  · obtain ⟨hdisk, hcat, hress⟩ := FileSystemsView.mk.inj hview
    rw [hcat]
    refine ⟨rfl, ?_⟩
    show .mk _ (Function.update s.catalogs scope _ scope) _ =
      FileSystemsView.mk _ (Function.update s'.catalogs scope _ scope) _
    rw [update_self, update_self, hdisk, hress]

lemma confined_withResources {t : Runtime κ φ α} (h : t.Confined FileSystems.view scope) :
    (withResources call t).Confined FileSystems.view scope :=
  .bracket (.hidden fun _ _ => rfl) (.hidden fun _ _ => rfl) h

lemma confined_cached (id : Id) :
    (cached (scope, id) : Runtime κ φ (Option φ)).Confined FileSystems.view scope := by
  refine .read fun s s' hview => ?_
  obtain ⟨-, -, hress⟩ := FileSystemsView.mk.inj hview
  exact congrArg Except.ok (congrFun hress id)

lemma confined_cache (id : Id) (fileSystem : Option φ) :
    (cache (scope, id) fileSystem : Runtime κ φ Unit).Confined FileSystems.view scope := by
  refine .atomic (fun s other hother => ?_) fun s s' hview => ⟨rfl, ?_⟩
  · show FileSystemsView.mk _ _
      (fun key => Function.update s.resources (scope, id) fileSystem (other, key)) = _
    rw [cache_update_of_ne s.resources id fileSystem hother]
    rfl
  · obtain ⟨hdisk, hcat, hress⟩ := FileSystemsView.mk.inj hview
    show .mk _ _ (fun key => Function.update s.resources (scope, id) fileSystem (scope, key)) =
      FileSystemsView.mk _ _
        (fun key => Function.update s'.resources (scope, id) fileSystem (scope, key))
    rw [cache_update_self, cache_update_self, hdisk, hcat, hress]

/-- A call whose first step is to check the namespace. -/
lemma confined_scope {body : Namespace → Runtime κ φ α}
    (h : (body scope).Confined FileSystems.view scope) :
    (Task.lift (storageNamespaceId scope) >>= body).Confined FileSystems.view scope := by
  refine .lift_bind fun id hid => ?_
  have hsame : id = scope := by
    unfold storageNamespaceId at hid
    split_ifs at hid
    exact (Except.ok.inj hid).symm
  rwa [hsame]

lemma confined_createResource (new : Id) (name : Option String) :
    (createResource crate scope new name).Confined FileSystems.view scope :=
  confined_scope (confined_catalog.bind fun _ => (confined_update _ _).mapError _)

lemma confined_listResources : (listResources crate scope).Confined FileSystems.view scope :=
  confined_scope (confined_catalog.bind fun _ => confined_query _ _)

lemma confined_deleteResource (id : Id) :
    (deleteResource crate call scope id).Confined FileSystems.view scope := by
  refine confined_scope (confined_withResources (confined_catalog.bind fun _ =>
    (confined_update _ _).handle fun deleted => ?_))
  match deleted with
  | .ok () => exact (confined_cache id none).bind fun _ => .pure _
  | .error .notFound => exact .pure _
  | .error (.other message) => exact .lift _

lemma confined_openResource (id : Id) :
    (openResource crate call scope id).Confined FileSystems.view scope := by
  refine confined_scope (confined_withResources ((confined_cached id).bind fun found => ?_))
  cases found with
  | some fileSystem => exact .pure _
  | none =>
    exact confined_catalog.bind fun _ => (confined_query _ _).bind fun fileSystem =>
      .lift_bind fun _ _ => (confined_cache id (some fileSystem)).bind fun _ =>
        .pure _

end FileSystemRuntime

/-! ## The routes -/

namespace ResourceServer

variable {κ φ α : Type} {server : ResourceServer κ φ} {scope : Namespace} {call : ℕ}
  {request : Request} {uuid : Uuid}

variable {t : DatabaseRuntime.Runtime α}

lemma confined_zoom_databases (h : t.Confined (Databases.view uuid) scope) :
    (t.zoom .database peerDatabases : ServiceTask κ φ IoError α).Confined
      (Peer.view uuid) scope := by
  refine ⟨.zoom (fun s s' hview => ?_) (fun s s' d d' hview hd => ?_)
    (fun other s d hd => ?_) _ h.steps⟩
  · exact (Prod.ext_iff.mp hview).1
  · exact Prod.ext hd (Prod.ext_iff.mp hview).2
  · exact Prod.ext hd rfl

lemma confined_zoom_fileSystems {t : FileSystemRuntime.Runtime κ φ α}
    (h : t.Confined FileSystems.view scope) :
    (t.zoom .fileSystem peerFileSystems : ServiceTask κ φ String α).Confined
      (Peer.view uuid) scope := by
  refine ⟨.zoom (fun s s' hview => ?_) (fun s s' d d' hview hd => ?_)
    (fun other s d hd => ?_) _ h.steps⟩
  · exact (Prod.ext_iff.mp hview).2
  · exact Prod.ext (Prod.ext_iff.mp hview).1 hd
  · exact Prod.ext rfl hd

lemma confined_withDatabases (h : t.Confined (Databases.view server.host.uuid) scope) :
    (server.withDatabases t).Confined (Peer.view server.host.uuid) scope :=
  (Task.Confined.lift _).bind fun _ => (confined_zoom_databases h).mapError _

lemma confined_withFileSystems {t : FileSystemRuntime.Runtime κ φ α}
    (h : t.Confined FileSystems.view scope) :
    (server.withFileSystems t).Confined (Peer.view server.host.uuid) scope :=
  (Task.Confined.lift _).bind fun _ => (confined_zoom_fileSystems h).mapError _

/-- A handler that first asks for what the token gives access to. -/
lemma confined_access {body : Namespace × Bool × Bool → ServiceTask κ φ StatusCode α}
    (hscope : ∀ other, (server.access request).toOption.map (·.1) = some other → other = scope)
    (hbody : ∀ canRead canWrite,
      (body (scope, canRead, canWrite)).Confined (Peer.view server.host.uuid) scope) :
    (Task.lift (server.access request) >>= body).Confined (Peer.view server.host.uuid) scope := by
  refine .lift_bind fun ⟨other, canRead, canWrite⟩ hacc => ?_
  have hsome : (server.access request).toOption.map (·.1) = some other := by
    rw [hacc]
    rfl
  obtain rfl := hscope other hsome
  exact hbody canRead canWrite

/-- A socket opens what its token's namespace has. -/
lemma confined_authorizeSocket {token filesystemId : String}
    (hscope : ∀ other, (server.socketNamespace request.introspection token).toOption.map (·.1) =
      some other → other = scope) :
    (server.authorizeSocket call request.introspection token filesystemId).Confined
      (Peer.view server.host.uuid) scope := by
  refine (Task.Confined.lift _).bind fun id => .lift_bind fun ⟨other, authorization⟩ hacc => ?_
  have hsome : (server.socketNamespace request.introspection token).toOption.map (·.1) =
      some other := by
    rw [hacc]
    rfl
  obtain rfl := hscope other hsome
  exact ((confined_zoom_fileSystems (confined_openResource id)).mapError _).bind fun _ => .pure _

/-- A request is confined to the namespace of its token, and to any one if it has none. -/
lemma confined_handler (hscope : ∀ other, server.scope? request = some other → other = scope) :
    (server.handler call request).Confined (Peer.view server.host.uuid) scope := by
  obtain ⟨_, _, route⟩ := request
  cases route with
  | createDatabase new name =>
    exact confined_access hscope fun _ _ => (Task.Confined.lift _).bind fun _ =>
      (confined_withDatabases (confined_create new name)).bind fun _ =>
        .pure _
  | listDatabases =>
    exact confined_access hscope fun _ _ => (Task.Confined.lift _).bind fun _ =>
      (confined_withDatabases confined_list).bind fun _ => .pure _
  | getDatabase databaseId =>
    exact confined_access hscope fun _ _ => (Task.Confined.lift _).bind fun _ =>
      (confined_withDatabases (confined_get databaseId)).bind fun _ =>
        (Task.Confined.lift _).bind fun _ => .pure _
  | deleteDatabase databaseId =>
    exact confined_access hscope fun _ _ => (Task.Confined.lift _).bind fun _ =>
      (confined_withDatabases (confined_delete databaseId)).bind fun _ =>
        (Task.Confined.lift _).bind fun _ => .pure _
  | createFileSystem new name =>
    exact confined_access hscope fun _ _ => (Task.Confined.lift _).bind fun _ =>
      (confined_withFileSystems (confined_createResource new name)).bind fun _ => .pure _
  | listFileSystems =>
    exact confined_access hscope fun _ _ => (Task.Confined.lift _).bind fun _ =>
      (confined_withFileSystems confined_listResources).bind fun _ =>
        .pure _
  | getFileSystem id =>
    exact confined_access hscope fun _ _ => (Task.Confined.lift _).bind fun _ =>
      (Task.Confined.lift _).bind fun _ =>
        (confined_withFileSystems confined_listResources).bind fun _ =>
          (Task.Confined.lift _).bind fun _ => .pure _
  | deleteFileSystem id =>
    exact confined_access hscope fun _ _ => (Task.Confined.lift _).bind fun _ =>
      (Task.Confined.lift _).bind fun id =>
        (confined_withFileSystems (confined_deleteResource id)).bind fun _ =>
          (Task.Confined.lift _).bind fun _ => .pure _
  | upgradeSocket accessToken filesystemId =>
    exact (Task.Confined.lift _).bind fun _ =>
      ((confined_authorizeSocket hscope).mapError _).bind fun _ => .pure _

/-! ## The service -/

/-- The request is for the namespace. -/
def isFor (server : ResourceServer κ φ) (scope : Namespace) (request : Request) : Bool :=
  server.scope? request == some scope

/-- A request for another namespace, or for none, leaves the namespace as it is. -/
lemma handler_within_of_not_isFor (h : server.isFor scope request = false) :
    (server.handler call request).prog.Within fun s s' =>
      s'.view server.host.uuid scope = s.view server.host.uuid scope := by
  -- a request without a namespace is confined to one that is not `scope`
  have hconfined : ∃ other, scope ≠ other ∧
      (server.handler call request).Confined (Peer.view server.host.uuid) other := by
    cases hreq : server.scope? request with
    | none =>
      refine ⟨⟨scope.userSub, scope.applicationId + 1⟩, fun heq => ?_, confined_handler ?_⟩
      · have happ := congrArg Namespace.applicationId heq
        simp at happ
      · intro other hother
        rw [hreq] at hother
        cases hother
    | some other =>
      refine ⟨other, fun heq => ?_, confined_handler fun other' hother => ?_⟩
      · rw [isFor, hreq, heq, beq_self_eq_true] at h
        cases h
      · rw [hreq] at hother
        exact (Option.some.inj hother).symm
  obtain ⟨other, hne, hother⟩ := hconfined
  exact hother.steps.within.mono fun s s' h => h scope hne

/-- The requests of a namespace are confined to it, and those of others leave it alone. -/
lemma separates_service (s : Peer κ φ) (requests : ℕ → Request) :
    (server.service s requests).Separates (Peer.view server.host.uuid) scope
      fun i => server.isFor scope (requests i) where
  confined i hi := by
    have hscope : server.scope? (requests i) = some scope := beq_iff_eq.mp hi
    refine (confined_handler fun other hother => ?_).steps
    rw [hscope] at hother
    exact (Option.some.inj hother).symm
  unseen _ hi := handler_within_of_not_isFor hi

end ResourceServer

/-- Two services that agree on a namespace have requests for it under way, the same ones in both,
beside any requests for other namespaces. Whatever the order in which all requests take their
steps, as long as those for the namespace take theirs in the same order, these are answered alike,
the services agree on the namespace again, and no step of theirs changes another namespace. The
roots of different namespaces are different. -/
theorem service_isolates_namespaces {κ φ : Type} (server : ResourceServer κ φ) (scope : Namespace)
    (s s' : Peer κ φ) (requests requests' : ℕ → Request) (order order' : List ℕ)
    (hagree : s.view server.host.uuid scope = s'.view server.host.uuid scope)
    (hsame : ∀ i, server.isFor scope (requests i) = true ∨
      server.isFor scope (requests' i) = true → requests i = requests' i)
    (horder : order.filter (fun i => server.isFor scope (requests i)) =
      order'.filter fun i => server.isFor scope (requests' i)) :
    (∀ i, server.isFor scope (requests i) = true →
      (((server.service s requests).schedule order).threads i).result? =
        (((server.service s' requests').schedule order').threads i).result?) ∧
    ((server.service s requests).schedule order).shared.view server.host.uuid scope =
      ((server.service s' requests').schedule order').shared.view server.host.uuid scope ∧
    (∀ before i, server.isFor scope (requests i) = true → ∀ other ≠ scope,
      ((server.service s requests).schedule (before ++ [i])).shared.view server.host.uuid other =
        ((server.service s requests).schedule before).shared.view server.host.uuid other) ∧
    ∀ other ≠ scope,
      namespaceRoot server.host.uuid other ≠ namespaceRoot server.host.uuid scope := by
  -- the same requests are for the namespace in both runs
  have hinside : (fun i => server.isFor scope (requests i)) =
      fun i => server.isFor scope (requests' i) := by
    funext i
    by_cases hfor : server.isFor scope (requests i) = true ∨ server.isFor scope (requests' i) = true
    · rw [hsame i hfor]
    · rw [not_or, Bool.not_eq_true, Bool.not_eq_true] at hfor
      rw [hfor.1, hfor.2]
  have hc : (server.service s requests).Separates (Peer.view server.host.uuid) scope
      fun i => server.isFor scope (requests i) := ResourceServer.separates_service s requests
  have hc' : (server.service s' requests').Separates (Peer.view server.host.uuid) scope
      fun i => server.isFor scope (requests i) := by
    rw [hinside]
    exact ResourceServer.separates_service s' requests'
  have hstart : (server.service s requests).Alike (Peer.view server.host.uuid) scope
      (fun i => server.isFor scope (requests i)) (server.service s' requests') := by
    refine ⟨hagree, fun i hi => ?_⟩
    show (server.handler i (requests i)).prog = (server.handler i (requests' i)).prog
    rw [hsame i (.inl hi)]
  rw [← hinside] at horder
  have halike := hstart.schedule hc hc' horder
  refine ⟨fun i hi => ?_, halike.shared, fun before i hi other hother => ?_, fun other hother => ?_⟩
  · rw [halike.threads i hi]
  · have hstep := (hc.schedule before).advance_others hi hother
    rw [Config.schedule, List.foldl_append]
    exact hstep
  · exact fun h => hother (namespaceRoot_injective server.host.uuid h)

namespace Reference

/-- A token for storage, whose subject is given. -/
def storageToken (subject : String) : Idp.StandardClaims where
  type := .bearer
  use := .access
  exp := 10
  iat := 0
  nbf := 0
  iss := "idp"
  aud := "storage"
  clientId := "client"
  sub := subject
  principalType := .user
  resource := some "storage"
  authorizationDetails := some [.storage ⟨[.read, .write]⟩]
  scope := []

/-- A request with a token of the subject. -/
def requestOf (subject : String) (route : Route) : Request where
  authorization := some "Bearer token"
  introspection := ⟨fun _ => .ok ⟨storageToken subject, "1"⟩, 0⟩
  route := route

/-- A server with every route enabled. -/
def server : ResourceServer Entries Id := ⟨host, crate, true, true, true⟩

/-- Nothing is open, and the filesystem catalogs are given. -/
def storage (catalogs : Namespace → Entries) : Peer Entries Id where
  databases := ⟨fun _ => none, fun _ => none, fun _ => none, none, none⟩
  fileSystems := ⟨[], catalogs, fun _ => none, none⟩

/-- The owner creates a filesystem and lists the filesystems, and a guest does something else. -/
def requestsBeside (guest : Route) : ℕ → Request
  | 0 => requestOf "owner" (.createFileSystem 2 none)
  | 1 => requestOf "guest" guest
  | _ => requestOf "owner" .listFileSystems

end Reference

open Reference

/-- The owner is shown one filesystem, whether or not the guest has filesystem `5`, and whether the
guest lists filesystems or deletes this one. -/
theorem service_isolates_namespaces_reference :
    (((server.service (storage fun _ => ∅)
        (requestsBeside .listFileSystems)).schedule [0, 0, 1, 2, 1, 2]).threads
          2).result? = some (.ok ⟨.ok, .fileSystems [⟨"11", none⟩]⟩) ∧
    (((server.service (storage fun _ => ∅)
        (requestsBeside .listFileSystems)).schedule [0, 0, 1, 2, 1, 2]).threads
          2).result? =
      (((server.service (storage (update (fun _ => ∅) ⟨"guest", 1⟩
          ((∅ : Reference.Entries).insert 5 false)))
        (requestsBeside (.deleteFileSystem "11111"))).schedule
          [1, 0, 1, 1, 0, 2, 1, 2]).threads 2).result? := by
  refine ⟨rfl, (service_isolates_namespaces server scope _ _ _ _ _ _ ?_ (fun i hi => ?_) ?_).1 2 ?_⟩
  · simp [Peer.view, storage, FileSystems.view, scope]
  · match i with
    | 0 => rfl
    | 1 => exact absurd hi (by decide)
    | i + 2 => rfl
  · decide
  · decide

end LocalPlatform.Storage
