import LocalPlatform.Lib.RelyGuarantee
import LocalPlatform.Storage.CatalogTheorems

/-!
# The status of a resource

An abstract view of storage: a peer does not know a resource, holds it, or holds its tombstone.
`Moves` says how the status of one resource may change, and each runtime call is under a contract
about it. Selecting a resource makes an absent one live, a tombstone makes any one deleted, and
all other calls leave the status alone.
-/

namespace LocalPlatform.Storage

open Resumption Function DatabaseCatalog Files Prod Except

/-- How the status of a resource may change, in any number of steps. -/
structure Moves where
  rel : Status → Status → Prop
  refl : ∀ u, rel u u
  trans : ∀ {u v w}, rel u v → rel v w → rel u w

/-- The contract to move the status that `st` reads as `m` says. -/
def Moves.contract {ℓ τ : Type} (m : Moves) (st : τ → Status) : Contract ℓ τ where
  rely s s' := m.rel (st s) (st s')
  guarantee s s' := m.rel (st s) (st s')
  guard _ _ := True
  refl s := m.refl (st s)
  trans := m.trans

/-- The moves do not falsify `A`. -/
def Moves.Stable (m : Moves) (A : Status → Prop) : Prop := ∀ u v, m.rel u v → A u → A v

/-- No move at all. -/
def Moves.frozen : Moves := ⟨(· = ·), fun _ => rfl, Eq.trans⟩

lemma Moves.frozen_stable (A : Status → Prop) : Moves.frozen.Stable A :=
  fun _ _ huv hu => huv ▸ hu

section
variable {ℓ τ ε α : Type} {m : Moves} {st : τ → Status} {A : Status → Prop} {s : τ}

lemma Moves.Stable.contract (hA : m.Stable A) :
    (m.contract st : Contract ℓ τ).Stable fun s => A (st s) :=
  fun _ _ hs h => hA _ _ hs h

/-- Where the status meets `A`, the task moves it as `m` says and ends with `P`. -/
def Moves.Leads (m : Moves) (st : τ → Status) (A : Status → Prop) (t : Task ℓ τ ε α)
    (P : Except ε α → Status → Prop) : Prop :=
  ∀ ⦃s⦄, A (st s) → t.Under (m.contract st) (fun r s => P r (st s)) s

/-- A task whose steps do not touch the status. -/
lemma leads_of_neutral {t : Task ℓ τ ε α} (hA : m.Stable A)
    (ht : t.Within fun s s' => st s' = st s) : m.Leads st A t fun _ => A := by
  refine fun s hs => .of_within hA.contract (fun s s' hss' => ?_) ht hs
  constructor
  · show m.rel (st s) (st s')
    rw [hss']
    exact m.refl _
  · intro h
    rwa [hss']

end

/-- An answer to the question for a tombstone, from a peer with the given status. -/
def Tells {ε : Type} (answer : Except ε Bool) (u : Status) : Prop :=
  (answer = .ok true ↔ u = .deleted) ∧ ∀ e, answer = .error e → u = .absent

lemma Tells.flag {ε : Type} {deleted : Bool} {u : Status}
    (h : Tells (.ok deleted : Except ε Bool) u) : deleted = decide (u = .deleted) := by
  rw [eq_comm, Bool.eq_iff_iff, decide_eq_true_iff, ← h.1, ok.injEq]

/-- What a round offers to the acceptor: a tombstone, or else the resource if it is unknown. -/
def offer (deleted : Bool) (u : Status) : Status :=
  if deleted then .deleted else if u = .absent then .live else u

/-- The offer moves `A` to `B`. -/
def Moves.Offers (m : Moves) (deleted : Bool) (A B : Status → Prop) : Prop :=
  ∀ u, A u → m.rel u (offer deleted u) ∧ B (offer deleted u)

lemma Moves.offers_keep {m : Moves} {A : Status → Prop}
    (h : A .absent → m.rel .absent .live ∧ A .live) : m.Offers false A A := by
  intro u hu
  by_cases habs : u = .absent
  · subst habs
    exact h hu
  · rw [offer, if_neg Bool.false_ne_true, if_neg habs]
    exact ⟨m.refl _, hu⟩

/-! ## Databases -/

/-- The status of a record. -/
def recordStatus : Option CatalogRecord → Status
  | none => .absent
  | some record => if record.deleted then .deleted else .live

/-- The status of a database, where a namespace without a directory has none. -/
def Files.status (uuid : Uuid) (scope : Namespace) (id : Id) (files : Files) : Status :=
  match catalogPath uuid scope with
  | .error _ => .absent
  | .ok path => recordStatus (files.catalog path).records[id]?

section
variable {uuid : Uuid} {scope scope' : Namespace} {id id' : Id} {path : Path} {files : Files}

/-- The status of a database is that of its record. -/
lemma Files.status_eq (hpath : catalogPath uuid scope = .ok path) :
    files.status uuid scope id = recordStatus (files.catalog path).records[id]? := by
  rw [status, hpath]

lemma exists_path_of_status (h : files.status uuid scope id ≠ .absent) :
    ∃ path, catalogPath uuid scope = .ok path := by
  unfold status at h
  cases hpath : catalogPath uuid scope with
  | error error =>
    rw [hpath] at h
    exact absurd rfl h
  | ok path => exact ⟨path, rfl⟩

variable {record : Option CatalogRecord}

lemma recordStatus_eq_deleted : recordStatus record = .deleted ↔ record.any (·.deleted) = true := by
  cases record with
  | none => simp [recordStatus]
  | some record => cases h : record.deleted <;> simp [recordStatus, h]

lemma recordStatus_eq_live :
    recordStatus record = .live ↔ record.any (fun record => !record.deleted) = true := by
  cases record with
  | none => simp [recordStatus]
  | some record => cases h : record.deleted <;> simp [recordStatus, h]

/-- After a write of one record, its own status is that of the record. -/
lemma Files.status_insert (record : CatalogRecord) (hpath : catalogPath uuid scope = .ok path) :
    status uuid scope id' (update files path
      (some ⟨(files.catalog path).records.insert id record⟩)) =
      if id' = id then recordStatus (some record) else files.status uuid scope id' := by
  rw [status_eq hpath, status_eq hpath, catalog_update, if_pos rfl, Std.TreeMap.getElem?_insert]
  by_cases h : id' = id
  · simp [h]
  · have hne : ¬compare id id' = .eq := fun hc => h (Nat.compare_eq_eq.mp hc).symm
    rw [if_neg hne, if_neg h]

/-- An operation on another namespace leaves the status alone. -/
lemma status_of_scope_ne (op : CatalogOp) (hne : scope' ≠ scope) :
    status uuid scope id (op.run uuid scope' files).2 = files.status uuid scope id := by
  unfold status
  split
  · rfl
  · rename_i path hpath
    rw [CatalogOp.catalog_of_ne hne op files hpath]

/-- In a namespace without a directory nothing is written. -/
lemma status_of_path_error {error : IoError} (op : CatalogOp)
    (hpath : catalogPath uuid scope' = .error error) :
    status uuid scope id (op.run uuid scope' files).2 = files.status uuid scope id := by
  rw [(CatalogOp.run_of_path_error hpath files files).1]

/-- Registering a selected database is the offer of a resource. -/
lemma status_registerSelected :
    status uuid scope id ((registerSelected uuid noFaults scope' id').run files).2 =
      if (scope' = scope ∧ id' = id) ∧ (catalogPath uuid scope).isOk then
        offer false (files.status uuid scope id)
      else files.status uuid scope id := by
  by_cases hscope : scope' = scope
  swap
  · rw [if_neg fun h => hscope h.1.1]
    exact status_of_scope_ne (.registerSelected id') hscope
  subst hscope
  cases hpath : catalogPath uuid scope' with
  | error error =>
    rw [if_neg (by simp [Except.isOk, Except.toBool])]
    exact status_of_path_error (.registerSelected id') hpath
  | ok path =>
    rw [run_registerSelected files id' hpath]
    by_cases hid : id = id'
    · subst hid
      rw [if_pos ⟨⟨rfl, rfl⟩, rfl⟩]
      cases hrec : (files.catalog path).records[id]? with
      | some record =>
        rw [status_eq hpath, hrec]
        cases hdel : record.deleted <;> simp [recordStatus, hdel, offer]
      | none =>
        rw [status_insert _ hpath, if_pos rfl, status_eq hpath, hrec]
        rfl
    · rw [if_neg fun h => hid h.1.2.symm]
      cases hrec : (files.catalog path).records[id']? with
      | some record => rfl
      | none => rw [status_insert _ hpath, if_neg hid]

/-- A tombstone is about its own database. -/
lemma status_applyTombstone :
    status uuid scope id ((applyTombstone uuid noFaults scope' id').run files).2 =
      if (scope' = scope ∧ id' = id) ∧ (catalogPath uuid scope).isOk then .deleted
      else files.status uuid scope id := by
  by_cases hscope : scope' = scope
  swap
  · rw [if_neg fun h => hscope h.1.1]
    exact status_of_scope_ne (.applyTombstone id') hscope
  subst hscope
  cases hpath : catalogPath uuid scope' with
  | error error =>
    rw [if_neg (by simp [Except.isOk, Except.toBool])]
    exact status_of_path_error (.applyTombstone id') hpath
  | ok path =>
    rw [run_applyTombstone files id' hpath]
    split
    · rename_i hdel
      split
      · rename_i hnamed
        rw [← hnamed.1.2, status_eq hpath]
        exact recordStatus_eq_deleted.mpr hdel
      · rfl
    · rw [status_insert _ hpath]
      by_cases hid : id = id'
      · rw [if_pos hid, if_pos ⟨⟨rfl, hid.symm⟩, rfl⟩]
        rfl
      · rw [if_neg hid, if_neg fun h => hid h.1.2.symm]

variable (uuid scope id files) in
/-- `is_tombstoned` fails or says whether the database is deleted, and reads only. -/
lemma run_isTombstoned_status :
    ((isTombstoned uuid noFaults scope id).run files).2 = files ∧
      Tells ((isTombstoned uuid noFaults scope id).run files).1 (files.status uuid scope id) := by
  cases hpath : catalogPath uuid scope with
  | error error =>
    rw [isTombstoned, run_of_path_error files hpath, status, hpath]
    exact ⟨rfl, by simp [Tells]⟩
  | ok path =>
    rw [run_isTombstoned files id hpath, status_eq hpath]
    refine ⟨rfl, ?_, fun _ h => by cases h⟩
    rw [recordStatus_eq_deleted]
    simp

variable (uuid scope id files) in
/-- `get` finds a database only when it is live, and reads only. -/
lemma run_get_status :
    ((get uuid noFaults scope id).run files).2 = files ∧
      ∀ resource, ((get uuid noFaults scope id).run files).1 = .ok (some resource) →
        files.status uuid scope id = .live := by
  cases hpath : catalogPath uuid scope with
  | error error =>
    rw [DatabaseCatalog.get, DatabaseCatalog.run_of_path_error files hpath]
    exact ⟨rfl, fun _ h => by cases h⟩
  | ok path =>
    rw [run_get files id hpath, status_eq hpath, recordStatus_eq_live]
    refine ⟨rfl, fun resource h => ?_⟩
    obtain ⟨_, hrec, -⟩ := Option.map_eq_some_iff.mp (ok.inj h)
    obtain ⟨hfound, hlive⟩ := Option.filter_eq_some_iff.mp hrec
    rw [hfound]
    exact hlive

/-- `contains` is true of the live databases. -/
lemma run_contains_status {text : String} (htext : uuid.parse text = some id) :
    ((contains uuid noFaults scope ⟨.database, text⟩).run files).1 = .ok true ↔
      files.status uuid scope id = .live := by
  cases hpath : catalogPath uuid scope with
  | error error =>
    rw [contains, if_neg (by simp), htext, status, hpath]
    simp [DatabaseCatalog.get, run_bind, Except.mapError, hpath]
  | ok path =>
    rw [run_contains files hpath, status_eq hpath, recordStatus_eq_live]
    simp [htext]

end

/-- Registering the database `other` moves the status of `key` from `A` to `B`. -/
def Registers (m : Moves) (A B : Status → Prop) (uuid : Uuid) (key other : Namespace × Id) :
    Prop :=
  ∀ files : Files, A (files.status uuid key.1 key.2) →
    m.rel (files.status uuid key.1 key.2) (status uuid key.1 key.2
      ((registerSelected uuid noFaults other.1 other.2).run files).2) ∧
    B (status uuid key.1 key.2
      ((registerSelected uuid noFaults other.1 other.2).run files).2)

section
variable {m : Moves} {A B : Status → Prop} {uuid : Uuid} {key other : Namespace × Id}

lemma registers_of_offers
    (hidle : ¬(other = key ∧ (catalogPath uuid key.1).isOk) → ∀ u, A u → B u)
    (hown : other = key → m.Offers false A B) : Registers m A B uuid key other := by
  intro files hfiles
  rw [status_registerSelected]
  split
  · rename_i hnamed
    exact hown (Prod.ext hnamed.1.1 hnamed.1.2) _ hfiles
  · rename_i hnot
    exact ⟨m.refl _, hidle (fun h => hnot ⟨Prod.ext_iff.mp h.1, h.2⟩) _ hfiles⟩

lemma registers_keep (h : other = key → A .absent → m.rel .absent .live ∧ A .live) :
    Registers m A A uuid key other :=
  registers_of_offers (fun _ _ hu => hu) fun hkey => Moves.offers_keep (h hkey)

end

/-! ## Calls of the database runtime -/

namespace DatabaseRuntime

/-- The catalog files stay as they are. -/
def SameFiles (d d' : Databases) : Prop := d'.files = d.files

lemma SameFiles.refl (d : Databases) : SameFiles d d := rfl

section
variable {α : Type} {call : ℕ} {host : Host} {scope scope' : Namespace} {id id' : Id}

variable (key : DatabaseKey)

lemma within_cache (handle : Option Handle) : (cache key handle).Within SameFiles :=
  .atomic fun _ => rfl

lemma within_kvCache (handle : Option Handle) : (kvCache key handle).Within SameFiles :=
  .atomic fun _ => rfl

variable {t : Runtime α} {A : Status → Prop} {P : Except IoError α → Status → Prop}

lemma within_withKv (ht : t.Within SameFiles) : (withKv call t).Within SameFiles :=
  .bind (.atomic fun _ => rfl) fun _ => .handle ht fun r =>
    .bind (.atomic fun _ => rfl) fun _ => .lift r

lemma within_evict : (evict call scope id).Within SameFiles :=
  .bind (within_cache _ _) fun _ => within_withKv (within_kvCache _ _)

lemma within_openCached : (openCached host scope id).Within SameFiles := by
  refine .bind (.read .refl _ _) fun handle => ?_
  cases handle with
  | some handle => exact .pure handle
  | none =>
    refine .bind (.lift _) fun path => .bind (.read .refl _ _) fun _ => ?_
    exact .bind (within_cache _ _) fun _ => .pure path

lemma within_openKvCached : (openKvCached host scope id).Within SameFiles := by
  refine .bind (.read .refl _ _) fun handle => ?_
  cases handle with
  | some handle => exact .pure handle
  | none =>
    refine .bind (.lift _) fun path => .bind (.read .refl _ _) fun _ => ?_
    exact .bind (within_kvCache _ _) fun _ => .pure _

variable {m : Moves} {d : Databases}

/-- The status of the database `(scope, id)` at one peer. -/
def status (host : Host) (scope : Namespace) (id : Id) (d : Databases) : Status :=
  d.files.status host.uuid scope id

/-- A call that leaves the files alone leads nowhere else. -/
lemma leads_sameFiles (hA : m.Stable A) (ht : t.Within SameFiles) :
    m.Leads (status host scope id) A t fun _ => A := by
  refine leads_of_neutral hA (ht.mono fun d d' h => ?_)
  show d'.files.status _ _ _ = d.files.status _ _ _
  rw [show d'.files = d.files from h]

/-- A step that touches a lock or a cache only. -/
lemma leads_local (hA : m.Stable A) {label : DatabaseCall}
    {f : Databases → Databases} (hf : ∀ d, (f d).files = d.files) :
    m.Leads (status host scope id) A (Task.atomic label fun d => (.ok (), f d) : Runtime Unit)
      fun r u => A u ∧ r = .ok () := by
  refine fun d hd => .atomic hA.contract (fun r => hA.contract.and_const _) hd fun d hd _ => ?_
  have hsame : status host scope id (f d) = status host scope id d := by
    rw [status, status, hf]
  refine ⟨?_, ?_, rfl⟩
  · show m.rel _ (status host scope id (f d))
    rw [hsame]
    exact m.refl _
  · rwa [hsame]

/-- A task between taking a lock and releasing it. -/
lemma leads_locked {lock unlock : DatabaseCall} {f g : Databases → Databases}
    (hf : ∀ d, (f d).files = d.files) (hg : ∀ d, (g d).files = d.files) (hA : m.Stable A)
    (hP : ∀ r, m.Stable (P r)) (ht : m.Leads (status host scope id) A t P) :
    m.Leads (status host scope id) A (.bracket (.atomic lock fun d => (.ok (), f d))
      (.atomic unlock fun d => (.ok (), g d)) t) P :=
  fun _ hd => .bracket (leads_local hA hf hd) (fun _ hd => ht hd) fun r _ hr =>
    leads_local (hP r) hg hr

/-- A catalog operation, by what it does to the status and what it returns. -/
lemma leads_catalog
    {operation : Task FsCall Files IoError α} (hA : m.Stable A) (hP : ∀ r, m.Stable (P r))
    (h : ∀ files : Files, A (files.status host.uuid scope id) →
      m.rel (files.status host.uuid scope id)
        (Files.status host.uuid scope id (operation.run files).2) ∧
      P (operation.run files).1 (Files.status host.uuid scope id (operation.run files).2)) :
    m.Leads (status host scope id) A (catalog operation) P :=
  fun _ hd => .atomic hA.contract (fun r => (hP r).contract) hd fun d hd _ => h d.files hd

/-! The calls of a host without faults, about the database `(scope, id)`. -/

variable (hhost : host.Reliable)
include hhost

/-- Registering a database, and opening it if that is done. -/
lemma leads_registered {A B : Status → Prop} (hA : m.Stable A) (hB : m.Stable B)
    (h : Registers m A B host.uuid (scope, id) (scope', id')) {body : Bool → Runtime α}
    (hbody : ∀ registered, (body registered).Within SameFiles) :
    m.Leads (status host scope id) A
      (catalog (registerSelected host.uuid host.faults scope' id') >>= body) fun _ => B := by
  rw [hhost.faults]
  exact fun d hd => .bind (leads_catalog hA (fun _ => hB) h hd)
    (fun registered d hd => leads_sameFiles hB (hbody registered) hd) (fun _ _ hd => hd)

/-- Opening a selected database registers it. -/
lemma leads_openSelected {A B : Status → Prop} (hA : m.Stable A) (hB : m.Stable B)
    (h : Registers m A B host.uuid (scope, id) (scope', id')) :
    m.Leads (status host scope id) A (openSelected host call scope' id') fun _ => B := by
  refine leads_locked (fun _ => by rfl) (fun _ => by rfl) hA (fun _ => hB)
    (leads_registered hhost hA hB h fun registered => ?_)
  split
  · exact .bind within_openCached fun _ => .pure _
  · exact .pure _

lemma leads_openKvSelected {A B : Status → Prop} (hA : m.Stable A) (hB : m.Stable B)
    (h : Registers m A B host.uuid (scope, id) (scope', id')) :
    m.Leads (status host scope id) A (openKvSelected host call scope' id') fun _ => B := by
  refine leads_locked (fun _ => by rfl) (fun _ => by rfl) hA (fun _ => hB)
    (leads_registered hhost hA hB h fun registered => ?_)
  split
  · exact .bind within_openKvCached fun _ => .pure _
  · exact .pure _

/-- `open` returns a database that is live. -/
lemma leads_open (hA : m.Stable A) (hlive : m.Stable (· = .live)) :
    m.Leads (status host scope id) A (DatabaseRuntime.open host call scope' id') fun r u =>
      A u ∧ ((scope' = scope ∧ id' = id) → ∀ handle, r = .ok (some handle) → u = .live) := by
  have hP : ∀ r : Except IoError (Option Handle), m.Stable fun u => A u ∧
      ((scope' = scope ∧ id' = id) → ∀ handle, r = .ok (some handle) → u = .live) :=
    fun r u v huv hu => ⟨hA u v huv hu.1, fun hkey handle hr => hlive u v huv (hu.2 hkey handle hr)⟩
  have hfound : m.Stable fun u => A u ∧ ((scope' = scope ∧ id' = id) → u = .live) :=
    fun u v huv hu => ⟨hA u v huv hu.1, fun hkey => hlive u v huv (hu.2 hkey)⟩
  refine leads_locked (fun _ => by rfl) (fun _ => by rfl) hA hP fun d hd => ?_
  rw [hhost.faults]
  refine .bind (P := fun r d => A (status host scope id d) ∧
    ((scope' = scope ∧ id' = id) → ∀ resource, r = .ok (some resource) →
      status host scope id d = .live)) ?_ ?_ ?_
  · refine leads_catalog (P := fun r u => A u ∧ ((scope' = scope ∧ id' = id) →
      ∀ resource, r = .ok (some resource) → u = .live)) hA ?_ (fun files hfiles => ?_) hd
    · exact fun r u v huv hu =>
        ⟨hA u v huv hu.1, fun hkey resource hr => hlive u v huv (hu.2 hkey resource hr)⟩
    · have hget := run_get_status host.uuid scope' id' files
      rw [hget.1]
      refine ⟨m.refl _, hfiles, ?_⟩
      rintro ⟨rfl, rfl⟩ resource hres
      exact hget.2 resource hres
  · rintro found d ⟨hd, hres⟩
    cases found with
    | none => exact .pure (hP _).contract ⟨hd, fun _ _ h => nomatch h⟩
    | some resource =>
      have hd' : A (status host scope id d) ∧ ((scope' = scope ∧ id' = id) →
          status host scope id d = .live) := ⟨hd, fun hkey => hres hkey resource rfl⟩
      refine .mono (fun r d h => ?_)
        (leads_sameFiles hfound (.bind within_openCached fun _ => .pure _) hd')
      exact ⟨h.1, fun hkey _ _ => h.2 hkey⟩
  · rintro e d ⟨hd, -⟩
    exact ⟨hd, fun _ _ h => nomatch h⟩

/-- `is_tombstoned` says whether the status is deleted. -/
lemma leads_isTombstoned (hA : m.Stable A) :
    m.Leads (status host scope id) A (DatabaseRuntime.isTombstoned host scope' id') fun r u =>
      A u ∧ ((scope' = scope ∧ id' = id) → ∃ u, A u ∧ Tells r u) := by
  have hP : ∀ r : Except IoError Bool, m.Stable fun u => A u ∧
      ((scope' = scope ∧ id' = id) → ∃ u, A u ∧ Tells r u) :=
    fun r u v huv hu => ⟨hA u v huv hu.1, hu.2⟩
  refine leads_catalog hA hP fun files hfiles => ?_
  rw [hhost.faults]
  have hread := run_isTombstoned_status host.uuid scope' id' files
  rw [hread.1]
  refine ⟨m.refl _, hfiles, ?_⟩
  rintro ⟨rfl, rfl⟩
  exact ⟨_, hfiles, hread.2⟩

/-- A tombstone moves `A` to `B`. -/
lemma leads_applyTombstone {A B : Status → Prop} (hA : m.Stable A) (hB : m.Stable B)
    (hidle : ¬((scope', id') = (scope, id) ∧ (catalogPath host.uuid scope).isOk) →
      ∀ u, A u → B u)
    (hown : (scope', id') = (scope, id) → m.Offers true A B) :
    m.Leads (status host scope id) A (DatabaseRuntime.applyTombstone host call scope' id')
      fun _ => B := by
  refine leads_locked (fun _ => by rfl) (fun _ => by rfl) hA (fun _ => hB) fun d hd => ?_
  rw [hhost.faults]
  refine .bind (leads_catalog hA (fun _ => hB) (fun files hfiles => ?_) hd) (fun _ d hd => ?_)
    (fun _ _ hd => hd)
  · rw [status_applyTombstone]
    split
    · rename_i hnamed
      exact hown (Prod.ext hnamed.1.1 hnamed.1.2) _ hfiles
    · rename_i hnot
      exact ⟨m.refl _, hidle (fun h => hnot ⟨mk.inj h.1, h.2⟩) _ hfiles⟩
  · exact leads_sameFiles hB within_evict hd

/-- The question for a tombstone is answered by the status. -/
lemma tells_isTombstoned (scope : Namespace) (id : Id) (d : Databases) :
    Tells ((DatabaseRuntime.isTombstoned host scope id).eval d) (status host scope id d) := by
  show Tells ((DatabaseCatalog.isTombstoned host.uuid host.faults scope id).run d.files).1 _
  rw [hhost.faults]
  exact (run_isTombstoned_status host.uuid scope id d.files).2

/-- A database is contained when it is live. -/
lemma eval_contains {text : String} (htext : host.uuid.parse text = some id) :
    (DatabaseRuntime.contains host scope ⟨.database, text⟩).eval d = .ok true ↔
      status host scope id d = .live := by
  show ((DatabaseCatalog.contains host.uuid host.faults scope ⟨.database, text⟩).run d.files).1 =
    .ok true ↔ _
  rw [hhost.faults]
  exact run_contains_status htext

end

end DatabaseRuntime

/-! ## Calls of the filesystem runtime -/

namespace FileSystemRuntime

section
variable {κ φ α : Type} {crate : FileSystemCrate κ φ} {call : ℕ} {scope scope' : Namespace}
  {id id' : Id}

/-- The catalogs stay as they are. -/
def SameCatalogs (s s' : FileSystems κ φ) : Prop := s'.catalogs = s.catalogs

lemma SameCatalogs.refl (s : FileSystems κ φ) : SameCatalogs s s := rfl

/-- The status of the filesystem `(scope, id)` at one peer. -/
def status (crate : FileSystemCrate κ φ) (scope : Namespace) (id : Id) (s : FileSystems κ φ) :
    Status :=
  match storageNamespaceId scope with
  | .error _ => .absent
  | .ok _ => crate.status (s.catalogs scope) id

/-- The status only depends on the catalogs. -/
lemma status_congr {s s' : FileSystems κ φ} (h : SameCatalogs s s') :
    status crate scope id s' = status crate scope id s := by
  rw [status, status, show s'.catalogs = s.catalogs from h]

/-- A look at the state keeps the status. -/
lemma within_read (label : FileSystemCall) (f : FileSystems κ φ → Except String α) :
    (Task.read label f).Within fun s s' => status crate scope id s' = status crate scope id s := by
  apply Task.Within.read
  intro s
  rfl

lemma within_catalog (hcrate : crate.Lawful) : (catalog crate scope).Within SameCatalogs := by
  refine .atomic fun s => ?_
  rw [hcrate.openCatalog]
  rfl

variable {t : Runtime κ φ α} {entries : List CatalogEntry} {selected : List (Namespace × Id)}
  {inUse : Namespace × Id → Bool}

lemma within_withResources (ht : t.Within SameCatalogs) :
    (withResources call t).Within SameCatalogs :=
  .bind (.atomic fun _ => rfl) fun _ => .handle ht fun r =>
    .bind (.atomic fun _ => rfl) fun _ => .lift r

lemma within_cache (key : Namespace × Id) (fileSystem : Option φ) :
    (cache key fileSystem : Runtime κ φ Unit).Within SameCatalogs :=
  .atomic fun _ => rfl

lemma within_openResource (hcrate : crate.Lawful) :
    (openResource crate call scope id).Within SameCatalogs := by
  refine .bind (.lift _) fun scope => within_withResources ?_
  refine .bind (.read .refl _ _) fun found => ?_
  cases found with
  | some fileSystem => exact .pure fileSystem
  | none =>
    refine .bind (within_catalog hcrate) fun _ => ?_
    refine .bind (.read .refl _ _) fun fileSystem => .bind (.lift _) fun _ => ?_
    exact .bind (within_cache _ _) fun _ => .pure fileSystem

variable {m : Moves} {s : FileSystems κ φ} {A B : Status → Prop}

/-- A call that leaves the catalogs alone leads nowhere else. -/
lemma leads_sameCatalogs (hA : m.Stable A) (ht : t.Within SameCatalogs) :
    m.Leads (status crate scope id) A t fun _ => A :=
  leads_of_neutral hA (ht.mono fun _ _ => status_congr)

/-- A write to a catalog, by what it does to the status. -/
lemma leads_update {label : FileSystemCall} {f : κ → Except FileSystemError α × κ}
    (hA : m.Stable A) (hB : m.Stable B)
    (hother : scope' ≠ scope → ∀ u, A u → B u)
    (hown : scope' = scope → ∀ c, A (crate.status c id) →
      m.rel (crate.status c id) (crate.status (f c).2 id) ∧ B (crate.status (f c).2 id))
    (hvalid : storageNamespaceId scope' = .ok scope') :
    m.Leads (status crate scope id) A
      ((update label scope' f).mapError (·.text) : Runtime κ φ α) fun _ => B := by
  refine fun _ hs => .mapError (.atomic hA.contract (fun _ => hB.contract) hs fun s hs _ => ?_)
  by_cases hscope : scope' = scope
  · subst hscope
    have hstat : ∀ s : FileSystems κ φ,
        status crate scope' id s = crate.status (s.catalogs scope') id := by
      intro s
      rw [status, hvalid]
    show m.rel (status crate scope' id s) (status crate scope' id _) ∧ B (status crate scope' id _)
    rw [hstat] at hs
    rw [hstat, hstat]
    show m.rel _ (crate.status (Function.update s.catalogs scope' _ scope') id) ∧
      B (crate.status (Function.update s.catalogs scope' _ scope') id)
    rw [update_self]
    exact hown rfl _ hs
  · have hsame : status crate scope id { s with
        catalogs := Function.update s.catalogs scope' (f (s.catalogs scope')).2 } =
        status crate scope id s := by
      simp only [status]
      rw [update_of_ne (Ne.symm hscope)]
    show m.rel (status crate scope id s) (status crate scope id _) ∧ B (status crate scope id _)
    rw [hsame]
    exact ⟨m.refl _, hother hscope _ hs⟩

/-- A write that touches no status. -/
lemma leads_mark {f : κ → Except FileSystemError Unit × κ}
    (hf : ∀ c other, crate.status (f c).2 other = crate.status c other) (hA : m.Stable A)
    (hvalid : storageNamespaceId scope' = .ok scope') :
    m.Leads (status crate scope id) A
      ((update .register scope' f).mapError (·.text) : Runtime κ φ Unit) fun _ => A := by
  refine leads_update hA hA (fun _ _ h => h) (fun _ c hc => ?_) hvalid
  rw [hf]
  exact ⟨m.refl _, hc⟩

lemma storageNamespaceId_eq {valid : Namespace} (h : storageNamespaceId scope = .ok valid) :
    valid = scope := by
  unfold storageNamespaceId at h
  split at h
  · cases h
  · split at h
    · cases h
    · exact (ok.inj h).symm

/-- Only filesystems of a valid namespace are known. -/
lemma storageNamespaceId_of_status (h : status crate scope id s ≠ .absent) :
    storageNamespaceId scope = .ok scope := by
  cases hvalid : storageNamespaceId scope with
  | error e =>
    rw [status, hvalid] at h
    exact absurd rfl h
  | ok valid => rw [storageNamespaceId_eq hvalid]

/-- A call stops at an invalid namespace, and otherwise has it as it is. -/
lemma under_scope {body : Namespace → Runtime κ φ α} {P : Except String α → Status → Prop}
    (hP : ∀ r, m.Stable (P r)) (herror : ∀ e, storageNamespaceId scope' = .error e →
      P (.error e) (status crate scope id s))
    (h : storageNamespaceId scope' = .ok scope' →
      (body scope').Under (m.contract (status crate scope id))
        (fun r s => P r (status crate scope id s)) s) :
    (Task.lift (storageNamespaceId scope') >>= body).Under (m.contract (status crate scope id))
      (fun r s => P r (status crate scope id s)) s := by
  cases hscope : storageNamespaceId scope' with
  | error e => exact .lift (hP _).contract (herror e hscope)
  | ok scope'' =>
    obtain rfl := storageNamespaceId_eq hscope
    exact h hscope

variable (hcrate : crate.Lawful)

/-- The status in a snapshot that was taken. -/
lemma status_of_snapshot {c : κ} (h : crate.snapshot c = .ok entries) :
    crate.status c id = match entries.find? fun entry => entry.resource.id == id with
      | none => .absent
      | some entry => if entry.deleted then .deleted else .live := by
  rw [FileSystemCrate.status]
  exact h ▸ rfl

include hcrate

lemma any_snapshot {c : κ} (h : crate.snapshot c = .ok entries) :
    (entries.any fun entry => entry.resource.id == id && entry.deleted) = true ↔
      crate.status c id = .deleted := by
  obtain ⟨_, hents', hnodup⟩ := hcrate.snapshot c
  obtain rfl := ok.inj (h.symm.trans hents')
  rw [status_of_snapshot h]
  cases hfind : entries.find? fun entry => entry.resource.id == id with
  | none =>
    refine iff_of_false (fun hany => ?_) nofun
    obtain ⟨entry, hmem, _⟩ := List.any_eq_true.mp hany
    simp_all
  | some entry =>
    have hid : entry.resource.id = id := by simpa using List.find?_some hfind
    have hmem := List.mem_of_find?_eq_some hfind
    cases hdel : entry.deleted with
    | true =>
      refine iff_of_true (List.any_eq_true.mpr ⟨entry, hmem, ?_⟩) (if_pos hdel)
      simp [hid, hdel]
    | false =>
      refine iff_of_false (fun hany => ?_) (by simp [hdel])
      obtain ⟨other, hother, hboth⟩ := List.any_eq_true.mp hany
      obtain ⟨hid', hdel'⟩ : other.resource.id = id ∧ other.deleted = true := by
        simpa using hboth
      -- ids are unique in a snapshot, so this is the entry that was found
      have hsame : other = entry :=
        List.inj_on_of_nodup_map hnodup hother hmem (hid'.trans hid.symm)
      rw [hsame, hdel] at hdel'
      cases hdel'

lemma leads_catalog (hA : m.Stable A) :
    m.Leads (status crate scope id) A (catalog crate scope') fun r u => A u ∧ r = .ok () := by
  refine fun _ hs => .atomic hA.contract (fun _ => hA.contract.and_const _) hs fun s hs _ => ?_
  rw [hcrate.openCatalog]
  exact ⟨m.refl _, hs, rfl⟩

/-- A look at the snapshot, for what the caller then does with it. -/
lemma leads_snapshot {P : List CatalogEntry → Status → Prop} (hA : m.Stable A)
    (hP : ∀ entries, m.Stable (P entries))
    (h : ∀ (s : FileSystems κ φ) entries, A (status crate scope id s) →
      crate.snapshot (s.catalogs scope') = .ok entries → P entries (status crate scope id s)) :
    m.Leads (status crate scope id) A
      (query .read scope' crate.snapshot : Runtime κ φ (List CatalogEntry))
      fun r u => ∃ entries, r = .ok entries ∧ P entries u := by
  refine fun _ hs => .read hA.contract ?_ hs fun s hs => ?_
  · rintro r s _ hrely ⟨entries, hr, hP'⟩
    exact ⟨entries, hr, hP entries _ _ hrely hP'⟩
  · obtain ⟨entries, hents, -⟩ := hcrate.snapshot (s.catalogs scope')
    refine ⟨m.refl _, entries, ?_, h s entries hs hents⟩
    rw [hents]
    rfl

/-- `is_tombstoned` says whether the status is deleted. -/
lemma leads_isTombstoned (hA : m.Stable A) :
    m.Leads (status crate scope id) A (isTombstoned crate scope' id') fun r u =>
      A u ∧ ((scope' = scope ∧ id' = id) → ∃ u, A u ∧ Tells r u) := by
  have hP : ∀ r : Except String Bool, m.Stable fun u => A u ∧
      ((scope' = scope ∧ id' = id) → ∃ u, A u ∧ Tells r u) :=
    fun r u v huv hu => ⟨hA u v huv hu.1, hu.2⟩
  intro s hs
  refine under_scope hP ?_ fun hvalid => ?_
  · intro e he
    refine ⟨hs, ?_⟩
    rintro ⟨rfl, rfl⟩
    refine ⟨_, hs, ?_⟩
    rw [status, he]
    simp [Tells]
  refine .bind (leads_catalog hcrate hA hs) ?_ (fun e s h => nomatch h.2)
  rintro - s ⟨hs, -⟩
  refine .bind (leads_snapshot hcrate hA
    (P := fun entries u => A u ∧ ((scope' = scope ∧ id' = id) → ∃ u, A u ∧
      ((entries.any fun entry => entry.resource.id == id' && entry.deleted) = true ↔
        u = .deleted))) ?_ ?_ hs) ?_ ?_
  · exact fun entries u v huv hu => ⟨hA u v huv hu.1, hu.2⟩
  · intro s entries hs hents
    refine ⟨hs, ?_⟩
    rintro ⟨rfl, rfl⟩
    refine ⟨_, hs, ?_⟩
    rw [status, hvalid]
    exact any_snapshot hcrate hents
  · rintro entries s ⟨_, hents, hs, hany⟩
    obtain rfl := ok.inj hents
    refine .pure (hP _).contract ⟨hs, fun hkey => ?_⟩
    obtain ⟨u, hu, hiff⟩ := hany hkey
    exact ⟨u, hu, by rw [← hiff]; simp, nofun⟩
  · rintro e s ⟨entries, hents, -⟩
    cases hents

/-- The question for a tombstone is answered by the status. -/
lemma tells_isTombstoned (scope : Namespace) (id : Id) (s : FileSystems κ φ) :
    Tells ((isTombstoned crate scope id).eval s) (status crate scope id s) := by
  have hasked : (isTombstoned crate scope id).Under (Moves.frozen.contract (status crate scope id))
      (fun r s' => status crate scope id s' = status crate scope id s ∧
        ((scope = scope ∧ id = id) → ∃ u, u = status crate scope id s ∧ Tells r u)) s :=
    leads_isTombstoned hcrate (Moves.frozen_stable (· = status crate scope id s)) rfl
  obtain ⟨u, rfl, htells⟩ := (hasked.run fun _ _ => trivial).2 ⟨rfl, rfl⟩
  exact htells

/-- A filesystem is contained when it is live. -/
lemma eval_contains {text : String} (htext : crate.parse text = some id) :
    (contains crate scope ⟨.fileSystem, text⟩).eval s = .ok true ↔
      status crate scope id s = .live := by
  cases hvalid : storageNamespaceId scope with
  | error e =>
    rw [status, hvalid, contains, if_neg (by simp), htext]
    rw [hvalid]
    exact iff_of_false nofun nofun
  | ok valid =>
    obtain rfl := storageNamespaceId_eq hvalid
    obtain ⟨resources, hress, hlive⟩ := hcrate.list (s.catalogs valid)
    have hany : (resources.any fun entry => entry.id == id) = true ↔
        ∃ resource ∈ resources, resource.id = id := by
      simp
    rw [status, hvalid, ← hlive, ← hany]
    have heval : (contains crate valid ⟨.fileSystem, text⟩).eval s =
        .ok (resources.any fun entry => entry.id == id) := by
      simp [contains, htext, hvalid, Task.eval, run_bind, catalog, query,
        hcrate.openCatalog, hress, Except.mapError]
    rw [heval]
    simp

/-- Registering a selected filesystem is the offer of a resource. -/
lemma leads_registerSelectedResource (hA : m.Stable A) (hB : m.Stable B)
    (hidle : ¬((scope', id') = (scope, id) ∧ (storageNamespaceId scope).isOk) →
      ∀ u, A u → B u)
    (hown : (scope', id') = (scope, id) → m.Offers false A B) :
    m.Leads (status crate scope id) A (registerSelectedResource crate scope' id') fun _ => B := by
  refine fun _ hs => under_scope (fun _ => hB) (fun e he => hidle ?_ _ hs) fun hvalid => ?_
  · rintro ⟨hkey, hvalid⟩
    rw [(mk.inj hkey).1] at he
    rw [he] at hvalid
    cases hvalid
  refine .bind (leads_catalog hcrate hA hs) ?_ (fun e s h => nomatch h.2)
  rintro - s ⟨hs, -⟩
  -- what is found is left alone, and if there is nothing the import makes an entry
  refine .bind (leads_snapshot hcrate hA (P := fun entries u => A u ∧
      ((entries.find? fun entry => entry.resource.id == id').isSome → B u)) ?_ ?_ hs) ?_ ?_
  · exact fun entries u v huv hu => ⟨hA u v huv hu.1, fun hfound => hB u v huv (hu.2 hfound)⟩
  · intro s entries hs hents
    refine ⟨hs, fun hfound => ?_⟩
    by_cases hkey : (scope', id') = (scope, id)
    · obtain ⟨rfl, rfl⟩ := mk.inj hkey
      obtain ⟨entry, hentry⟩ := Option.isSome_iff_exists.mp hfound
      have hoffer := (hown rfl _ hs).2
      rw [status, hvalid] at hoffer ⊢
      rw [status_of_snapshot hents, hentry] at hoffer ⊢
      cases hdel : entry.deleted <;> simpa [hdel, offer] using hoffer
    · exact hidle (fun h => hkey h.1) _ hs
  · rintro entries s ⟨_, hents, hs, hfound⟩
    obtain rfl := ok.inj hents
    split
    · rename_i entry hentry
      have hs := hfound (hentry ▸ rfl)
      split
      · exact .lift hB.contract hs
      · exact leads_mark (fun c => (hcrate.markProjectedSelected c id').2) hB hvalid hs
    · refine .bind (leads_update hA hB (fun hne => hidle fun h => hne (mk.inj h.1).1)
        (fun hscope c hc => ?_) hvalid hs)
        (fun _ s hs => leads_mark (fun c => (hcrate.markProjected c id').2) hB hvalid hs)
        (fun e s h => h)
      rw [(hcrate.importSnapshot c ⟨⟨id', none⟩, false⟩ rfl).2]
      by_cases hid : id = id'
      · subst hid
        have hoffer := hown (by rw [hscope]) _ hc
        cases hold : crate.status c id <;> simpa [hold, offer] using hoffer
      · rw [if_neg fun h => hid h.1]
        exact ⟨m.refl _, hidle (fun h => hid (mk.inj h.1).2.symm) _ hc⟩
  · rintro e s ⟨entries, hents, -⟩
    cases hents

/-- A tombstone moves `A` to `B`. -/
lemma leads_applyDeletionTombstone (hA : m.Stable A) (hB : m.Stable B)
    (hidle : ¬((scope', id') = (scope, id) ∧ (storageNamespaceId scope).isOk) →
      ∀ u, A u → B u)
    (hown : (scope', id') = (scope, id) → m.Offers true A B) :
    m.Leads (status crate scope id) A (applyDeletionTombstone crate call scope' id')
      fun _ => B := by
  refine fun s hs => under_scope (fun _ => hB) (fun e he => hidle ?_ _ hs) fun hvalid => ?_
  · rintro ⟨hkey, hvalid⟩
    rw [(mk.inj hkey).1] at he
    rw [he] at hvalid
    cases hvalid
  refine .bind (leads_catalog hcrate hA hs) ?_ (fun e s h => nomatch h.2)
  rintro - s ⟨hs, -⟩
  refine .bind (leads_update hA hB (fun hne => hidle fun h => hne (mk.inj h.1).1)
      (fun hscope c hc => ?_) hvalid hs)
    (fun _ s hs => leads_sameCatalogs hB (within_withResources (within_cache _ _)) hs)
    (fun e s h => h)
  by_cases hid : id' = id
  · subst hid
    rw [(hcrate.applyTombstone c id').2]
    exact hown (by rw [hscope]) _ hc
  · rw [hcrate.applyTombstone_frame c id' id (Ne.symm hid)]
    exact ⟨m.refl _, hidle (fun h => hid (mk.inj h.1).2) _ hc⟩

/-- One eviction leaves the status of selected filesystems alone. -/
lemma within_evictUnselected (hsel : (scope, id) ∈ selected) :
    (evictUnselected crate selected inUse scope' id').Within
      fun s s' => status crate scope id s' = status crate scope id s := by
  unfold evictUnselected
  split
  · exact .pure ()
  · rename_i hnot
    refine .bind (within_read _ _) fun fileSystem => ?_
    split
    · exact .pure ()
    · refine .bind ((within_cache _ _).mono fun s s' => status_congr) fun _ => ?_
      refine .mapError (.atomic fun s => ?_) _
      simp only [status]
      split
      · rfl
      by_cases hscope : scope = scope'
      · subst hscope
        have hid : id ≠ id' := fun h => hnot (h ▸ hsel)
        rw [update_self, hcrate.evictProjectedCopy_frame _ _ _ hid]
      · rw [update_of_ne hscope]

/-- The eviction leaves the status of selected filesystems alone. -/
lemma within_removeUnselectedProjectedResources (hsel : (scope, id) ∈ selected) :
    (removeUnselectedProjectedResources crate call selected inUse).Within
      fun s s' => status crate scope id s' = status crate scope id s := by
  refine .bind (within_read _ _) fun namespaces => ?_
  refine .bind (.forM fun scope _ => (within_catalog hcrate).mono fun _ _ => status_congr)
    fun _ => ?_
  refine .bind (.atomic fun _ => rfl) fun _ => .handle (.forM fun scope _ => ?_) fun r =>
    .bind (.atomic fun _ => rfl) fun _ => .lift r
  refine .bind (within_read _ _) fun projected => .forM fun id' _ => ?_
  exact within_evictUnselected hcrate hsel

end

end FileSystemRuntime

end LocalPlatform.Storage
