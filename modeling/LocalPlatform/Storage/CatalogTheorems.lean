import LocalPlatform.Lib.Interruption
import LocalPlatform.Storage.Reference

/-!
# Histories of the database catalog

Without faults, an operation leaves the files alone or replaces one record of the catalog of its
namespace (`Change`). Records stay under their own ids, and a tombstone is never taken back.
-/

namespace LocalPlatform.Storage

open Resumption Function DatabaseCatalog Except Option

/-- What the file at a path says, where a missing file is an empty catalog. -/
def Files.catalog (files : Files) (path : Path) : Catalog := (files path).getD ⟨∅⟩

lemma Files.catalog_update (files : Files) (path other : Path) (catalog : Catalog) :
    Files.catalog (update files path (some catalog)) other =
      if other = path then catalog else files.catalog other := by
  unfold Files.catalog
  by_cases h : other = path
  · subst h
    simp
  · simp [h]

section
variable {path : Path} {files : Files} {catalog : Catalog}

@[simp] lemma run_readCatalog (path : Path) (files : Files) :
    (readCatalog noFaults path).run files = (.ok (files.catalog path), files) := rfl

@[simp] lemma run_writeCatalog (path : Path) (catalog : Catalog) (files : Files) :
    (writeCatalog noFaults path catalog).run files =
      (.ok (), update files path (some catalog)) := rfl

end

/-! ## Paths -/

/-- Different namespaces have different catalog files. -/
lemma catalogPath_injective {uuid : Uuid} {scope other : Namespace} {path : Path}
    (h : catalogPath uuid scope = .ok path) (hother : catalogPath uuid other = .ok path) :
    scope = other := by
  unfold catalogPath namespaceDirectory at h hother
  split at h
  · cases h
  split at hother
  · cases hother
  have hpath := ok.inj (h.trans hother.symm)
  obtain ⟨hsub, happ⟩ : scope.userSub = other.userSub ∧
      uuid.toText scope.applicationId = uuid.toText other.applicationId := by
    simpa using hpath
  cases scope
  cases other
  simp only [Namespace.mk.injEq]
  exact ⟨hsub, uuid.toText_injective happ⟩

/-! ## What the operations do -/

namespace DatabaseCatalog

section
variable {uuid : Uuid} {scope : Namespace} {path : Path} (files : Files) (id : Id)

/-- Every operation starts with the path of the catalog, and fails with it. -/
lemma run_of_path_error {α : Type} {error : IoError}
    {body : Path → Task FsCall Files IoError α} (hpath : catalogPath uuid scope = .error error) :
    (Task.lift (catalogPath uuid scope) >>= body).run files = (.error error, files) := by
  rw [hpath]
  rfl

variable (hpath : catalogPath uuid scope = .ok path)
include hpath

/-- With a path, every operation goes on with what the file says. -/
lemma run_of_path_ok {α : Type} {body : Path → Catalog → Task FsCall Files IoError α} :
    (Task.lift (catalogPath uuid scope) >>= fun path => readCatalog noFaults path >>=
      fun catalog => body path catalog).run files = (body path (files.catalog path)).run files := by
  rw [hpath]
  rfl

/-- A new record, overwriting one of the same identifier. -/
lemma run_create (name : Option String) :
    (create uuid noFaults scope id name).run files = (.ok ⟨id, name⟩, update files path
      (some ⟨(files.catalog path).records.insert id ⟨⟨id, name⟩, false⟩⟩)) := by
  rw [create, run_of_path_ok files hpath]
  rfl

lemma run_list :
    (list uuid noFaults scope).run files = (.ok ((((files.catalog path).records.toList.map
      (·.2)).filter fun record => !record.deleted).map (·.resource)), files) := by
  rw [list, run_of_path_ok files hpath]
  rfl

/-- A known database is left as it is. -/
lemma run_registerSelected :
    (registerSelected uuid noFaults scope id).run files =
      match (files.catalog path).records[id]? with
      | some record => (.ok !record.deleted, files)
      | none => (.ok true, update files path
          (some ⟨(files.catalog path).records.insert id ⟨⟨id, none⟩, false⟩⟩)) := by
  rw [registerSelected, run_of_path_ok files hpath]
  cases (files.catalog path).records[id]? with
  | some record => rfl
  | none => rfl

lemma run_get :
    (get uuid noFaults scope id).run files =
      (.ok (((files.catalog path).records[id]?.filter fun record => !record.deleted).map
        (·.resource)), files) := by
  rw [get, run_of_path_ok files hpath]
  rfl

/-- The record is marked. -/
lemma run_delete :
    (delete uuid noFaults scope id).run files =
      match (files.catalog path).records[id]?.filter fun record => !record.deleted with
      | none => (.ok false, files)
      | some record => (.ok true, update files path (some
          ⟨(files.catalog path).records.insert id { record with deleted := true }⟩)) := by
  rw [delete, run_of_path_ok files hpath]
  cases (files.catalog path).records[id]?.filter fun record => !record.deleted with
  | some record => rfl
  | none => rfl

/-- The tombstone is there afterwards. -/
lemma run_applyTombstone :
    (applyTombstone uuid noFaults scope id).run files =
      if (files.catalog path).records[id]?.any (·.deleted) then (.ok (), files)
      else (.ok (), update files path (some ⟨(files.catalog path).records.insert id
        { (files.catalog path).records[id]?.getD ⟨⟨id, none⟩, true⟩ with deleted := true }⟩)) := by
  rw [applyTombstone, run_of_path_ok files hpath]
  by_cases h : (files.catalog path).records[id]?.any (·.deleted) = true
  · rw [if_pos h, if_pos h]
    rfl
  · rw [if_neg h, if_neg h]
    rfl

lemma run_isTombstoned :
    (isTombstoned uuid noFaults scope id).run files =
      (.ok ((files.catalog path).records[id]?.any (·.deleted)), files) := by
  rw [isTombstoned, run_of_path_ok files hpath]
  rfl

/-- `contains` is `get` for the texts that name a database. -/
lemma run_contains (resource : ResourceIdentity) :
    (contains uuid noFaults scope resource).run files =
      (.ok (decide (resource.kind = .database) && (uuid.parse resource.id).any fun id =>
        (files.catalog path).records[id]?.any fun record => !record.deleted), files) := by
  unfold contains
  split
  · rename_i hkind
    rw [decide_eq_false hkind]
    rfl
  · rename_i hkind
    rw [decide_eq_true (not_not.mp hkind)]
    cases uuid.parse resource.id with
    | none => rfl
    | some id =>
      rw [run_mapError, run_bind, run_get files id hpath]
      cases hrec : (files.catalog path).records[id]? with
      | none => simp [hrec, Except.mapError]
      | some record => cases hdel : record.deleted <;> simp [hrec, hdel, Except.mapError]

end

end DatabaseCatalog

/-! ## Operations -/

/-- An operation of the catalog, on a namespace that is given beside it. -/
inductive CatalogOp where
  | create (id : Id) (name : Option String)
  | list
  | registerSelected (id : Id)
  | get (id : Id)
  | delete (id : Id)
  | applyTombstone (id : Id)
  | isTombstoned (id : Id)
  | contains (resource : ResourceIdentity)

/-- What an operation returns. -/
def CatalogOp.Answer : CatalogOp → Type
  | create _ _ => Except IoError DatabaseResource
  | list => Except IoError (List DatabaseResource)
  | get _ => Except IoError (Option DatabaseResource)
  | registerSelected _ | delete _ | isTombstoned _ => Except IoError Bool
  | applyTombstone _ => Except IoError Unit
  | contains _ => Except String Bool

/-- Run an operation on the files of a host without faults. -/
def CatalogOp.run (uuid : Uuid) (scope : Namespace) :
    (op : CatalogOp) → Files → op.Answer × Files
  | create id name => (DatabaseCatalog.create uuid noFaults scope id name).run
  | list => (DatabaseCatalog.list uuid noFaults scope).run
  | registerSelected id => (DatabaseCatalog.registerSelected uuid noFaults scope id).run
  | get id => (DatabaseCatalog.get uuid noFaults scope id).run
  | delete id => (DatabaseCatalog.delete uuid noFaults scope id).run
  | applyTombstone id => (DatabaseCatalog.applyTombstone uuid noFaults scope id).run
  | isTombstoned id => (DatabaseCatalog.isTombstoned uuid noFaults scope id).run
  | contains resource => (DatabaseCatalog.contains uuid noFaults scope resource).run

/-- The id that `now_v7` gave is not one the catalog of the namespace has. -/
def CatalogOp.Fresh (uuid : Uuid) (scope : Namespace) (files : Files) : CatalogOp → Prop
  | create id _ => ∀ path, catalogPath uuid scope = .ok path →
      (files.catalog path).records[id]? = none
  | _ => True

/-- One operation on some namespace, or a restart of the process, which only reads the root. -/
inductive CatalogStep (uuid : Uuid) (files : Files) : Files → Prop where
  | call (scope : Namespace) (op : CatalogOp) (hfresh : op.Fresh uuid scope files) :
      CatalogStep uuid files (op.run uuid scope files).2
  | restart : CatalogStep uuid files files

/-- Records are found under the ids of their resources. -/
def Files.Keyed (files : Files) : Prop :=
  ∀ (path : Path) (id : Id) (record : CatalogRecord),
    (files.catalog path).records[id]? = some record → record.resource.id = id

/-- One record of one catalog is replaced, and a tombstone only by a tombstone. -/
inductive Change (files : Files) (path : Path) : Files → Prop where
  | none : Change files path files
  | insert (id : Id) (record : CatalogRecord) (hid : record.resource.id = id)
      (hdeleted : (files.catalog path).records[id]?.any (·.deleted) = true →
        record.deleted = true) :
      Change files path
        (update files path (some ⟨(files.catalog path).records.insert id record⟩))

/-- An operation leaves the files alone, or replaces one record of the catalog of its namespace. -/
lemma CatalogOp.run_files {uuid : Uuid} {scope : Namespace} {path : Path}
    (hpath : catalogPath uuid scope = .ok path) (op : CatalogOp) (files : Files) :
    (op.run uuid scope files).2 = files ∨ ∃ id record, (op.run uuid scope files).2 =
        update files path (some ⟨(files.catalog path).records.insert id record⟩) ∧
      (files.Keyed → op.Fresh uuid scope files → record.resource.id = id ∧
        ((files.catalog path).records[id]?.any (·.deleted) = true → record.deleted = true)) := by
  cases op with
  | create id name =>
    rw [CatalogOp.run, run_create _ id hpath]
    refine .inr ⟨id, _, rfl, fun _ hfresh => ⟨rfl, fun hany => ?_⟩⟩
    rw [hfresh path hpath] at hany
    cases hany
  | registerSelected id =>
    rw [CatalogOp.run, run_registerSelected _ id hpath]
    split
    · exact .inl rfl
    · rename_i hrec
      refine .inr ⟨id, _, rfl, fun _ _ => ⟨rfl, fun hany => ?_⟩⟩
      rw [hrec] at hany
      cases hany
  | delete id =>
    rw [CatalogOp.run, run_delete _ id hpath]
    split
    · exact .inl rfl
    · rename_i record hrec
      have hfound := (filter_eq_some_iff.mp hrec).1
      exact .inr ⟨id, _, rfl, fun hkeyed _ => ⟨hkeyed path id record hfound, fun _ => rfl⟩⟩
  | applyTombstone id =>
    rw [CatalogOp.run, run_applyTombstone _ id hpath]
    split
    · exact .inl rfl
    · refine .inr ⟨id, _, rfl, fun hkeyed _ => ⟨?_, fun _ => rfl⟩⟩
      cases hrec : (files.catalog path).records[id]? with
      | none => rfl
      | some record => exact hkeyed path id record hrec
  | list => exact .inl (by rw [CatalogOp.run, run_list _ hpath])
  | get id => exact .inl (by rw [CatalogOp.run, run_get _ id hpath])
  | isTombstoned id =>
    exact .inl (by rw [CatalogOp.run, run_isTombstoned _ id hpath])
  | contains resource =>
    exact .inl (by rw [CatalogOp.run, run_contains _ hpath])

/-- What any operation does to the files. -/
lemma CatalogOp.run_change {uuid : Uuid} {scope : Namespace} {op : CatalogOp} {files : Files}
    {path : Path} (hpath : catalogPath uuid scope = .ok path) (hkeyed : files.Keyed)
    (hfresh : op.Fresh uuid scope files) : Change files path (op.run uuid scope files).2 := by
  rcases CatalogOp.run_files hpath op files with h | ⟨id, record, h, hrec⟩
  · rw [h]
    exact .none
  · rw [h]
    obtain ⟨hid, hdel⟩ := hrec hkeyed hfresh
    exact .insert id record hid hdel

/-- In a namespace without a directory every operation fails the same way and writes nothing. -/
lemma CatalogOp.run_of_path_error {uuid : Uuid} {scope : Namespace} {op : CatalogOp}
    {error : IoError} (hpath : catalogPath uuid scope = .error error) (files files' : Files) :
    (op.run uuid scope files).2 = files ∧
      (op.run uuid scope files').1 = (op.run uuid scope files).1 := by
  cases op with
  | contains resource =>
    simp only [CatalogOp.run, DatabaseCatalog.contains, DatabaseCatalog.get, hpath]
    split
    · exact ⟨rfl, rfl⟩
    · split <;> exact ⟨rfl, rfl⟩
  | _ =>
    simp only [CatalogOp.run, DatabaseCatalog.create, DatabaseCatalog.list,
      DatabaseCatalog.registerSelected, DatabaseCatalog.get, DatabaseCatalog.delete,
      DatabaseCatalog.applyTombstone, DatabaseCatalog.isTombstoned, hpath]
    exact ⟨rfl, rfl⟩

/-- The catalogs of other namespaces stay as they are. -/
lemma CatalogOp.catalog_of_ne {uuid : Uuid} {scope other : Namespace} (hne : scope ≠ other)
    (op : CatalogOp) (files : Files) {path : Path} (hother : catalogPath uuid other = .ok path) :
    Files.catalog (op.run uuid scope files).2 path = files.catalog path := by
  cases hpath : catalogPath uuid scope with
  | error error => rw [(CatalogOp.run_of_path_error hpath files files).1]
  | ok own =>
    have hpaths : path ≠ own := fun h => hne (catalogPath_injective hpath (h ▸ hother))
    rcases CatalogOp.run_files hpath op files with h | ⟨_, _, h, -⟩
    · rw [h]
    · rw [h, Files.catalog_update, if_neg hpaths]

/-- An answer only depends on the catalog of its namespace. -/
lemma CatalogOp.answer_congr {uuid : Uuid} {scope : Namespace} (op : CatalogOp)
    {files files' : Files}
    (h : ∀ path, catalogPath uuid scope = .ok path → files'.catalog path = files.catalog path) :
    (op.run uuid scope files').1 = (op.run uuid scope files).1 := by
  cases hpath : catalogPath uuid scope with
  | error error => exact (CatalogOp.run_of_path_error hpath files files').2
  | ok path =>
    have hcat := h path hpath
    cases op with
    | create id name =>
      simp only [CatalogOp.run, run_create _ id hpath]
      rfl
    | list =>
      simp only [CatalogOp.run, run_list _ hpath, hcat]
      rfl
    | registerSelected id =>
      simp only [CatalogOp.run, run_registerSelected _ id hpath, hcat]
      cases (files.catalog path).records[id]? <;> rfl
    | get id =>
      simp only [CatalogOp.run, run_get _ id hpath, hcat]
      rfl
    | delete id =>
      simp only [CatalogOp.run, run_delete _ id hpath, hcat]
      cases (files.catalog path).records[id]?.filter fun record => !record.deleted <;> rfl
    | applyTombstone id =>
      simp only [CatalogOp.run, run_applyTombstone _ id hpath, hcat]
      split <;> rfl
    | isTombstoned id =>
      simp only [CatalogOp.run, run_isTombstoned _ id hpath, hcat]
      rfl
    | contains resource =>
      simp only [CatalogOp.run, run_contains _ hpath, hcat]
      rfl

section
variable {uuid : Uuid} {files files' : Files} {path : Path} {key : Id}

lemma Change.keyed (h : Change files path files') (hkeyed : files.Keyed) : files'.Keyed := by
  cases h with
  | none => exact hkeyed
  | insert id record hid hdel =>
    intro other key found hfound
    rw [Files.catalog_update] at hfound
    split at hfound
    · rw [Std.TreeMap.getElem?_insert] at hfound
      split at hfound
      · rename_i hkey
        obtain rfl := some.inj hfound
        exact hid.trans (Nat.compare_eq_eq.mp hkey)
      · exact hkeyed path key found hfound
    · exact hkeyed other key found hfound

/-- A tombstone is there to stay. -/
lemma Change.deleted (h : Change files path files') {other : Path}
    (hdead : (files.catalog other).records[key]?.any (·.deleted) = true) :
    (files'.catalog other).records[key]?.any (·.deleted) = true := by
  cases h with
  | none => exact hdead
  | insert id record hid hdel =>
    rw [Files.catalog_update]
    split
    · rename_i hother
      subst hother
      rw [Std.TreeMap.getElem?_insert]
      split
      · rename_i hkey
        obtain rfl := Nat.compare_eq_eq.mp hkey
        exact hdel hdead
      · exact hdead
    · exact hdead

/-! ## Histories -/

lemma CatalogStep.keyed (h : CatalogStep uuid files files') (hkeyed : files.Keyed) :
    files'.Keyed := by
  cases h with
  | restart => exact hkeyed
  | call scope op hfresh =>
    cases hpath : catalogPath uuid scope with
    | error error => rwa [(CatalogOp.run_of_path_error hpath files files).1]
    | ok path => exact (CatalogOp.run_change hpath hkeyed hfresh).keyed hkeyed

/-- No step takes a tombstone away. -/
lemma CatalogStep.deleted (h : CatalogStep uuid files files') (hkeyed : files.Keyed)
    (hdead : (files.catalog path).records[key]?.any (·.deleted) = true) :
    (files'.catalog path).records[key]?.any (·.deleted) = true := by
  cases h with
  | restart => exact hdead
  | call scope op hfresh =>
    cases hpath : catalogPath uuid scope with
    | error error => rwa [(CatalogOp.run_of_path_error hpath files files).1]
    | ok path => exact (CatalogOp.run_change hpath hkeyed hfresh).deleted hdead

lemma keyed_empty : Files.Keyed fun _ => none := by
  intro path id record h
  cases h

lemma keyed_of_history (hkeyed : files.Keyed)
    (h : Relation.ReflTransGen (CatalogStep uuid) files files') : files'.Keyed := by
  induction h with
  | refl => exact hkeyed
  | tail _ hstep ih => exact hstep.keyed ih

/-- Hence no history does. -/
lemma deleted_of_history (hkeyed : files.Keyed)
    (h : Relation.ReflTransGen (CatalogStep uuid) files files')
    (hdead : (files.catalog path).records[key]?.any (·.deleted) = true) :
    (files'.catalog path).records[key]?.any (·.deleted) = true := by
  induction h with
  | refl => exact hdead
  | tail hrun hstep ih => exact hstep.deleted (keyed_of_history hkeyed hrun) ih

/-- How every operation answers for a tombstoned id. -/
structure Tombstoned (uuid : Uuid) (scope : Namespace) (id : Id) (files : Files) : Prop where
  isTombstoned : ((isTombstoned uuid noFaults scope id).run files).1 = .ok true
  get : ((get uuid noFaults scope id).run files).1 = .ok none
  list : ∃ resources, ((list uuid noFaults scope).run files).1 = .ok resources ∧
    ∀ resource ∈ resources, resource.id ≠ id
  contains : ∀ text, uuid.parse text = some id →
    ((contains uuid noFaults scope ⟨.database, text⟩).run files).1 = .ok false
  registerSelected :
    (registerSelected uuid noFaults scope id).run files = (.ok false, files)

lemma tombstoned_of_deleted {scope : Namespace} {id : Id}
    (hpath : catalogPath uuid scope = .ok path) (hkeyed : files.Keyed)
    (hdead : (files.catalog path).records[id]?.any (·.deleted) = true) :
    Tombstoned uuid scope id files := by
  obtain ⟨record, hrec, hdel⟩ := (any_eq_true _ _).mp hdead
  refine ⟨?_, ?_, ⟨_, by rw [run_list files hpath], ?_⟩, ?_, ?_⟩
  · rw [run_isTombstoned files id hpath, hdead]
  · rw [run_get files id hpath, hrec]
    simp [hdel]
  · -- a listed resource has a record of its own id that is not deleted
    intro resource hmem
    obtain ⟨listed, hlst, rfl⟩ := List.mem_map.mp hmem
    obtain ⟨hvalues, hlive⟩ := List.mem_filter.mp hlst
    obtain ⟨⟨key, value⟩, hentry, rfl⟩ := List.mem_map.mp hvalues
    have hfound := Std.TreeMap.mem_toList_iff_getElem?_eq_some.mp hentry
    rw [hkeyed path key value hfound]
    intro hid
    subst hid
    rw [hrec] at hfound
    rw [← some.inj hfound, hdel] at hlive
    cases hlive
  · intro text htext
    rw [run_contains files hpath]
    simp [htext, hrec, hdel]
  · rw [run_registerSelected files id hpath, hrec]
    simp [hdel]

/-- In every history from an empty root, an id that is tombstoned in a namespace is answered as
such for ever, and an operation on one namespace changes no answer for another. -/
theorem catalog_history (uuid : Uuid) :
    (∀ (files files' : Files) (scope : Namespace) (id : Id),
      Relation.ReflTransGen (CatalogStep uuid) (fun _ => none) files →
      ((isTombstoned uuid noFaults scope id).run files).1 = .ok true →
      Relation.ReflTransGen (CatalogStep uuid) files files' →
      Tombstoned uuid scope id files') ∧
    ∀ (files : Files) (scope other : Namespace) (op op' : CatalogOp), scope ≠ other →
      (op'.run uuid other (op.run uuid scope files).2).1 = (op'.run uuid other files).1 := by
  constructor
  · intro files files' scope id hstart hdead hlater
    have hkeyed : files.Keyed := keyed_of_history keyed_empty hstart
    cases hpath : catalogPath uuid scope with
    | error error =>
      rw [isTombstoned, run_of_path_error files hpath] at hdead
      cases hdead
    | ok path =>
      rw [run_isTombstoned files id hpath] at hdead
      have hdel := deleted_of_history hkeyed hlater (ok.inj hdead)
      exact tombstoned_of_deleted hpath (keyed_of_history hkeyed hlater) hdel
  · intro files scope other op op' hne
    exact CatalogOp.answer_congr op' fun path hpath => CatalogOp.catalog_of_ne hne op files hpath

end

open Reference

/-- A database is created and deleted, the process restarts, and a peer's selection of the same
database finds the tombstone. -/
theorem catalog_history_reference :
    Tombstoned uuid scope 2
      ((CatalogOp.registerSelected 2).run uuid scope
        ((CatalogOp.delete 2).run uuid scope
          ((CatalogOp.create 2 none).run uuid scope fun _ => none).2).2).2 := by
  refine (catalog_history uuid).1 _ _ scope 2 ?_ (by decide +kernel)
    (.tail (.single .restart) (.call scope (.registerSelected 2) trivial))
  refine .tail (.single (.call scope (.create 2 none) ?_)) (.call scope (.delete 2) trivial)
  intro path _
  exact Std.TreeMap.getElem?_emptyc

/-! ## Failures of a write -/

/-- The directory cannot be synced after the rename. -/
def UnsyncedParent (faults : Faults) : Prop :=
  faults .openParent ≠ none ∨ faults .syncParent ≠ none

/-- A read reports a missing file only where there is none. -/
def HonestRead (faults : Faults) (files : Files) : Prop :=
  ∀ e, faults .read = some e → e.kind = .notFound → ∀ path, files path = none

/-- Where the operation is stopped, the files are the old ones or those that it leaves without
faults. Where it fails they are the old ones, or the directory could not be synced. -/
def Whole {α : Type} (op : Faults → Task FsCall Files IoError α) (faults : Faults)
    (files : Files) : Prop :=
  (op faults).Leaves (fun s => s = files ∨ s = ((op noFaults).run files).2)
    (fun s => s = files ∨ UnsyncedParent faults ∧ s = ((op noFaults).run files).2) files

section
variable {α : Type} {faults : Faults} {files : Files} {C E : Files → Prop}

/-- A failing call leaves the files as they were. -/
lemma leaves_fsCall {call : FsCall} (hC : C files) (hE : faults call ≠ none → E files) :
    (fsCall faults call).Leaves C E files := by
  refine .read hC fun e h => hE fun hnone => ?_
  simp [hnone] at h

lemma leaves_fsCall_bind {call : FsCall} (hC : C files) (hE : faults call ≠ none → E files)
    {f : Unit → Task FsCall Files IoError α} (hf : (f ()).Leaves C E files) :
    (fsCall faults call >>= f).Leaves C E files := by
  refine .bind (leaves_fsCall hC hE) fun _ _ h => ?_
  obtain ⟨-, rfl⟩ := Prod.mk.inj h
  exact hf

/-- A write that is interrupted leaves the old catalog or the new one. -/
lemma whole_writeCatalog (path : Path) (catalog : Catalog) :
    Whole (fun faults => writeCatalog faults path catalog) faults files := by
  -- the four calls before the rename fail with the old files, the two after it with the new ones
  refine leaves_fsCall_bind (.inl rfl) (fun _ => .inl rfl) (leaves_fsCall_bind (.inl rfl)
    (fun _ => .inl rfl) (leaves_fsCall_bind (.inl rfl) (fun _ => .inl rfl)
      (leaves_fsCall_bind (.inl rfl) (fun _ => .inl rfl) ?_)))
  cases hrename : faults .rename with
  | some error =>
    refine .bind (.atomic (.inl rfl) (.inl rfl) fun _ _ => .inl rfl) fun _ _ h => ?_
    cases (Prod.mk.inj h).1
  | none =>
    refine .bind (.atomic (.inl rfl) (.inr rfl) nofun) fun _ _ h => ?_
    obtain ⟨-, rfl⟩ := Prod.mk.inj h
    exact leaves_fsCall_bind (.inr rfl) (fun h => .inr ⟨.inl h, rfl⟩)
      (leaves_fsCall (.inr rfl) fun h => .inr ⟨.inr h, rfl⟩)

lemma Whole.pure (a : α) : Whole (fun _ => Pure.pure a) faults files := .lift _ (.inl rfl) nofun

lemma whole_written (path : Path) (catalog : Catalog) (a : α) :
    Whole (fun faults => writeCatalog faults path catalog >>= fun _ => Pure.pure a) faults files := by
  have hwrite : Whole (writeCatalog · path catalog) faults files := whole_writeCatalog path catalog
  refine .bind hwrite fun _ _ h => .lift _ ?_ nofun
  have hrun := hwrite.stays.run
  rwa [h] at hrun

/-- Every operation goes on with what the file of its namespace says. -/
lemma Whole.of_body {uuid : Uuid} {scope : Namespace} (hread : HonestRead faults files)
    {body : Faults → Path → Catalog → Task FsCall Files IoError α}
    (h : ∀ path, Whole (fun faults => body faults path (files.catalog path)) faults files) :
    Whole (fun faults => Task.lift (catalogPath uuid scope) >>= fun path =>
      readCatalog faults path >>= body faults path) faults files := by
  cases hpath : catalogPath uuid scope with
  | error e => exact .lift _ (.inl rfl) fun _ _ => .inl rfl
  | ok path =>
    change Task.Leaves _ _ (readCatalog faults path >>= body faults path) files
    refine .bind (.read (.inl rfl) fun _ _ => .inl rfl) fun catalog _ hrun => ?_
    obtain ⟨hcat, rfl⟩ := Prod.mk.inj hrun
    have hsame : catalog = files.catalog path := by
      split at hcat
      · rename_i error hfault
        split at hcat
        · rename_i hkind
          rw [← ok.inj hcat, Files.catalog, hread error hfault hkind path]
          rfl
        · cases hcat
      · exact (ok.inj hcat).symm
    rw [hsame]
    exact h path

end

/-- A mutating operation that fails leaves the old files, or the whole new ones if it could not sync
the directory, and one that is stopped anywhere leaves either the old or the new ones. -/
theorem catalog_writes_whole (uuid : Uuid) (scope : Namespace) {faults : Faults} {files : Files}
    (hread : HonestRead faults files) :
    (∀ id name, Whole (create uuid · scope id name) faults files) ∧
    (∀ id, Whole (registerSelected uuid · scope id) faults files) ∧
    (∀ id, Whole (DatabaseCatalog.delete uuid · scope id) faults files) ∧
    ∀ id, Whole (applyTombstone uuid · scope id) faults files := by
  refine ⟨fun id name => .of_body hread fun path => whole_written ..,
    fun id => .of_body hread fun path => ?_, fun id => .of_body hread fun path => ?_,
    fun id => .of_body hread fun path => ?_⟩
  · cases (files.catalog path).records[id]? with
    | some record => exact .pure _
    | none => exact whole_written ..
  · cases (files.catalog path).records[id]?.filter fun record => !record.deleted with
    | none => exact .pure _
    | some record => exact whole_written ..
  · dsimp only
    split
    · exact .pure _
    · exact whole_writeCatalog ..

/-- A host whose directories cannot be synced. -/
def unsynced : Faults
  | .syncParent => some ⟨.other, "sync failed"⟩
  | _ => none

theorem catalog_writes_whole_reference :
    Whole (create uuid · scope 2 none) unsynced fun _ => none :=
  (catalog_writes_whole uuid scope (show HonestRead unsynced _ from nofun)).1 2 none

/-- The creation fails, and the next `list` has the database. -/
theorem create_fails_after_rename :
    let (result, files) := (create uuid unsynced scope 2 none).run fun _ => none
    result = .error ⟨.other, "sync failed"⟩ ∧
    ((list uuid noFaults scope).run fun _ => none).1 = .ok [] ∧
    ((list uuid noFaults scope).run files).1 = .ok [⟨2, none⟩] := by
  decide +kernel

end LocalPlatform.Storage
