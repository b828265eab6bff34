import LocalPlatform.Lib.RelyGuarantee
import LocalPlatform.Storage.Reference

/-!
# Handles of deleted filesystems

`open_resource`, `delete_resource`, `apply_deletion_tombstone` and `register_selected_resource`
calls on one namespace, in any interleaving. Each call has a contract with the others about the
lock of the cache: while it holds the lock, nobody else touches the cache or adds a tombstone.
-/

namespace LocalPlatform.Storage

open Resumption Function Option

/-- A call on the filesystems of one namespace. -/
inductive ResourceCall where
  | openResource (id : Id)
  | deleteResource (id : Id)
  | applyDeletionTombstone (id : Id)
  | registerSelectedResource (id : Id)

/-- What a call returns. -/
inductive ResourceAnswer (φ : Type) where
  | handle (fileSystem : φ)
  | flag (deleted : Bool)
  | done

section
variable {κ φ : Type} (crate : FileSystemCrate κ φ) (scope : Namespace)

/-- The task of a call with its number. -/
def ResourceCall.task (number : ℕ) :
    ResourceCall → FileSystemRuntime.Runtime κ φ (ResourceAnswer φ)
  | openResource id => .handle <$> FileSystemRuntime.openResource crate number scope id
  | deleteResource id => .flag <$> FileSystemRuntime.deleteResource crate number scope id
  | applyDeletionTombstone id =>
    (fun _ => .done) <$> FileSystemRuntime.applyDeletionTombstone crate number scope id
  | registerSelectedResource id =>
    (fun _ => .done) <$> FileSystemRuntime.registerSelectedResource crate scope id

/-- The lock is taken only when it is free. -/
def Exclusive (label : FileSystemCall) (s : FileSystems κ φ) : Prop :=
  label = .lock → s.lock = none

instance (label : FileSystemCall) (s : FileSystems κ φ) : Decidable (Exclusive label s) :=
  inferInstanceAs (Decidable (label = .lock → s.lock = none))

/-- The filesystem whose tombstone a peer's message records in this step. -/
def FileSystemCall.tombstoned : FileSystemCall → Option (Namespace × Id)
  | .tombstone scope id => some (scope, id)
  | _ => none

/-- In addition, a peer's tombstone is recorded only while the lock is free and the filesystem is
not in the cache. -/
def ExclusiveAndUncached (label : FileSystemCall) (s : FileSystems κ φ) : Prop :=
  Exclusive label s ∧ ∀ key ∈ label.tombstoned, s.lock = none ∧ s.resources key = none

instance (label : FileSystemCall) (s : FileSystems κ φ) :
    Decidable (ExclusiveAndUncached label s) :=
  inferInstanceAs (Decidable (_ ∧ ∀ key ∈ label.tombstoned, _))

/-- The tombstone of a filesystem is recorded. -/
def Dead (s : FileSystems κ φ) (id : Id) : Prop := crate.status (s.catalogs scope) id = .deleted

instance (s : FileSystems κ φ) (id : Id) : Decidable (Dead crate scope s id) :=
  inferInstanceAs (Decidable (_ = Status.deleted))

/-- No deleted filesystem is in the cache. -/
def Clean (s : FileSystems κ φ) : Prop :=
  ∀ id, Dead crate scope s id → s.resources (scope, id) = none

/-- What call `number` relies on when the state goes from `s` to `s'`. -/
structure Rely (number : ℕ) (s s' : FileSystems κ φ) : Prop where
  clean : (s.lock = none → Clean crate scope s) → s'.lock = none → Clean crate scope s'
  dead : ∀ id, Dead crate scope s id → Dead crate scope s' id
  held : s.lock = some number → s'.lock = some number ∧ s'.resources = s.resources ∧
    ∀ id, Dead crate scope s' id → Dead crate scope s id
  free : s.lock ≠ some number → s'.lock ≠ some number

variable (number : ℕ)

lemma Rely.refl (s : FileSystems κ φ) : Rely crate scope number s s :=
  ⟨id, fun _ => id, fun h => ⟨h, rfl, fun _ => id⟩, id⟩

variable {crate scope}

lemma Rely.trans {number : ℕ} {a b c : FileSystems κ φ} (hab : Rely crate scope number a b)
    (hbc : Rely crate scope number b c) : Rely crate scope number a c where
  clean h := hbc.clean (hab.clean h)
  dead id h := hbc.dead id (hab.dead id h)
  held h := by
    obtain ⟨hlock, hress, hdead⟩ := hab.held h
    obtain ⟨hlock', hress', hdead'⟩ := hbc.held hlock
    exact ⟨hlock', hress'.trans hress, fun id hid => hdead id (hdead' id hid)⟩
  free h := hbc.free (hab.free h)

variable (crate scope) in
/-- The contract of call `number`: its steps are ones all others rely on. -/
def contract (number : ℕ) : Contract FileSystemCall (FileSystems κ φ) where
  rely := Rely crate scope number
  guarantee s s' := ∀ other, other ≠ number → Rely crate scope other s s'
  guard := ExclusiveAndUncached
  refl := Rely.refl crate scope number
  trans := Rely.trans

/-! ## Steps the others rely on -/

section
variable {number other : ℕ} {s s' : FileSystems κ φ}

lemma rely_of_same (hlock : s'.lock = s.lock) (hress : s'.resources = s.resources)
    (hdead : ∀ id, Dead crate scope s' id ↔ Dead crate scope s id) :
    Rely crate scope other s s' where
  clean h hfree id hid := by
    rw [hress]
    exact h (hlock ▸ hfree) id ((hdead id).mp hid)
  dead id := (hdead id).mpr
  held h := ⟨hlock.trans h, hress, fun id => (hdead id).mp⟩
  free h := hlock ▸ h

/-- The holder of the lock may do what keeps tombstones. -/
lemma rely_of_held (hlock : s.lock = some number) (hlock' : s'.lock = some number)
    (hdead : ∀ id, Dead crate scope s id → Dead crate scope s' id) (hne : other ≠ number) :
    Rely crate scope other s s' where
  clean _ hfree := by
    rw [hlock'] at hfree
    cases hfree
  dead := hdead
  held h := by
    rw [hlock] at h
    exact absurd (some.inj h).symm hne
  free _ h := by
    rw [hlock'] at h
    exact hne (some.inj h).symm

/-- Taking the free lock is something others expect. -/
lemma rely_lock (hfree : s.lock = none) (hne : other ≠ number) :
    Rely crate scope other s { s with lock := some number } where
  clean _ h := by cases h
  dead _ := id
  held h := by
    rw [hfree] at h
    cases h
  free _ h := hne (some.inj h).symm

/-- So is giving it back over a clean cache. -/
lemma rely_unlock (hlock : s.lock = some number) (hclean : Clean crate scope s)
    (hne : other ≠ number) : Rely crate scope other s { s with lock := none } where
  clean _ _ := hclean
  dead _ := id
  held h := by
    rw [hlock] at h
    exact absurd (some.inj h).symm hne
  free _ h := by cases h

/-- A tombstone may be added while the lock is free and its filesystem is not cached. -/
lemma rely_tombstone {id : Id} {catalog : κ} (hfree : s.lock = none)
    (hcached : s.resources (scope, id) = none)
    (hdead : ∀ other, crate.status catalog other = .deleted ↔
      other = id ∨ Dead crate scope s other) :
    Rely crate scope other s { s with catalogs := update s.catalogs scope catalog } where
  clean h _ other hother := by
    have hstat : crate.status catalog other = .deleted := by
      simpa [Dead] using hother
    rcases (hdead other).mp hstat with rfl | hother
    · exact hcached
    · exact h hfree other hother
  dead other hother := by
    show crate.status (update s.catalogs scope catalog scope) other = .deleted
    rw [update_self]
    exact (hdead other).mpr (.inr hother)
  held h := by
    rw [hfree] at h
    cases h
  free h := h

end

/-! ## Assertions the others keep -/

variable (crate scope) in
/-- The call is outside the lock, and the cache is clean whenever the lock is free. -/
def Outside (number : ℕ) (s : FileSystems κ φ) : Prop :=
  s.lock ≠ some number ∧ (s.lock = none → Clean crate scope s)

variable (crate scope) in
/-- The call has the lock, and the cache is clean but for the filesystem `dirty`. -/
def Inside (number : ℕ) (dirty : Option Id) (s : FileSystems κ φ) : Prop :=
  s.lock = some number ∧
    ∀ id, some id ≠ dirty → Dead crate scope s id → s.resources (scope, id) = none

lemma stable_outside : (contract crate scope number).Stable (Outside crate scope number) := by
  intro s s' hrely h
  exact ⟨hrely.free h.1, hrely.clean h.2⟩

/-- Inside the lock no other call interferes. -/
lemma stable_inside (dirty : Option Id) :
    (contract crate scope number).Stable (Inside crate scope number dirty) := by
  intro s s' hrely h
  obtain ⟨hlock, hress, hdead⟩ := hrely.held h.1
  refine ⟨hlock, fun id hid hid' => ?_⟩
  rw [hress]
  exact h.2 id hid (hdead id hid')

/-- While the call has the lock, a filesystem that is not deleted stays so. -/
lemma stable_alive (id : Id) : (contract crate scope number).Stable fun s =>
      Inside crate scope number none s ∧ ¬Dead crate scope s id := by
  intro s s' hrely h
  exact ⟨stable_inside number none s s' hrely h.1,
    fun hdead => h.2 ((hrely.held h.1.1).2.2 id hdead)⟩

/-- After a write to the catalog, its new content says what is deleted. -/
lemma dead_update {s : FileSystems κ φ} {catalog : κ} {id : Id} :
    Dead crate scope { s with catalogs := update s.catalogs scope catalog } id ↔
      crate.status catalog id = .deleted := by
  show crate.status (update s.catalogs scope catalog scope) id = .deleted ↔ _
  rw [update_self]

/-! ## The calls -/

section
variable (hcrate : crate.Lawful) {number : ℕ} {s : FileSystems κ φ} {α : Type}

open FileSystemRuntime

variable {A : FileSystems κ φ → Prop} {body : Namespace → Runtime κ φ α} {id : Id} {fileSystem : φ}

/-- Between its lock and its unlock a call finds and leaves a clean cache. -/
lemma under_withResources {t : Runtime κ φ α} {P : Except String α → Prop}
    (hA : (contract crate scope number).Stable A)
    (hlock : ∀ s lock, A s → A { s with lock := lock })
    (hs : Outside crate scope number s ∧ A s)
    (ht : ∀ s, Inside crate scope number none s ∧ A s → t.Under (contract crate scope number)
        (fun r s => Inside crate scope number none s ∧ P r) s) :
    (withResources number t).Under (contract crate scope number)
      (fun r s => Outside crate scope number s ∧ P r) s := by
  refine .bracket ?_ ht ?_
  · refine .atomic ((stable_outside number).and hA)
      (fun r => ((stable_inside number none).and hA).and_const _) hs ?_
    intro s hs hguard
    have hfree : s.lock = none := hguard.1 rfl
    refine ⟨fun other hne => rely_lock hfree hne, ⟨⟨rfl, ?_⟩, hlock _ _ hs.2⟩, rfl⟩
    exact fun id _ hid => hs.1.2 hfree id hid
  · intro r s hr
    refine .atomic ((stable_inside number none).and_const _)
      (fun x => ((stable_outside number).and_const _).and_const _) hr ?_
    intro s hs _
    have hclean : Clean crate scope s := fun id hid => hs.1.2 id (by simp) hid
    exact ⟨fun other hne => rely_unlock hs.1.1 hclean hne, ⟨⟨nofun, fun _ => hclean⟩, hs.2⟩, rfl⟩

include hcrate in
/-- Opening the catalog changes nothing an assertion reads. -/
lemma under_catalog (hA : (contract crate scope number).Stable A)
    (honDisk : ∀ s onDisk, A s → A { s with onDisk := onDisk }) (hs : A s) :
    (catalog crate scope).Under (contract crate scope number) (fun r s => A s ∧ r = .ok ()) s := by
  refine .atomic hA (fun r => hA.and_const _) hs ?_
  intro s hs _
  rw [hcrate.openCatalog]
  exact ⟨fun other _ => rely_of_same rfl rfl fun _ => .rfl, honDisk s _ hs, rfl⟩

/-- A call that stops at an invalid namespace does nothing, and otherwise has it as it is. -/
lemma under_scope {P : Except String α → FileSystems κ φ → Prop}
    (hP : ∀ r, (contract crate scope number).Stable (P r)) (herror : ∀ e, P (.error e) s)
    (h : (body scope).Under (contract crate scope number) P s) :
    (Task.lift (storageNamespaceId scope) >>= body).Under (contract crate scope number) P s := by
  unfold storageNamespaceId
  split
  · exact .lift (hP _) (herror _)
  · split
    · exact .lift (hP _) (herror _)
    · exact h

include hcrate in
/-- What can be opened has no tombstone. -/
lemma not_dead_of_openFilesystem
    (h : (crate.openFilesystem id (s.catalogs scope)).mapError (·.text) = .ok fileSystem) :
    ¬Dead crate scope s id := by
  intro hdead
  have hlive : crate.status (s.catalogs scope) id = .live :=
    (hcrate.openFilesystem _ _).mp ⟨fileSystem, except_mapError_ok.mp h⟩
  rw [Dead, hlive] at hdead
  cases hdead

/-- A live filesystem is cached and returned. -/
lemma under_cacheOpened {P : Except String φ → Prop}
    (hs : Inside crate scope number none s ∧ ¬Dead crate scope s id) (hP : P (.ok fileSystem)) :
    ((cache (scope, id) (some fileSystem) : Runtime κ φ Unit) >>= fun _ =>
      pure fileSystem).Under (contract crate scope number)
        (fun r s => Inside crate scope number none s ∧ P r) s := by
  have hstab : (contract crate scope number).Stable (Inside crate scope number none) :=
    stable_inside number none
  refine .bind (P := fun r s => Inside crate scope number none s ∧ r = .ok ()) ?_ ?_ (by simp)
  · refine .atomic (stable_alive number id) (fun r => hstab.and_const _) hs ?_
    rintro s ⟨hs, halive⟩ -
    refine ⟨fun other hne => rely_of_held hs.1 hs.1 (fun _ h => h) hne, ⟨hs.1, ?_⟩, rfl⟩
    intro other _ hother
    have hne : (scope, other) ≠ (scope, id) := by
      intro h
      have hid : other = id := (Prod.ext_iff.mp h).2
      exact halive (hid ▸ hother)
    show update s.resources (scope, id) (some fileSystem) (scope, other) = none
    rw [update_of_ne hne]
    exact hs.2 other (by simp) hother
  · rintro - s ⟨hs, -⟩
    exact .pure (hstab.and_const _) ⟨hs, hP⟩

include hcrate in
/-- `open_resource` keeps the contract, and returns no filesystem that was deleted when it
started. -/
lemma under_openResource (id : Id) (d : Prop)
    (hs : Outside crate scope number s ∧ (d → Dead crate scope s id)) :
    (openResource crate number scope id).Under (contract crate scope number)
      (fun r s => Outside crate scope number s ∧ (d → ∀ fileSystem, r ≠ .ok fileSystem)) s := by
  have hstab : (contract crate scope number).Stable (Inside crate scope number none) :=
    stable_inside number none
  have hdead : (contract crate scope number).Stable fun s => d → Dead crate scope s id :=
    fun _ _ hrely h hd => hrely.dead id (h hd)
  refine under_scope (fun r => (stable_outside number).and_const _) (fun e => ⟨hs.1, nofun⟩) ?_
  refine under_withResources hdead (fun s lock h => h) hs fun s hs => ?_
  -- the cache is clean, so a deleted filesystem is not found there
  refine .bind (P := fun r s => (Inside crate scope number none s ∧
    (d → Dead crate scope s id)) ∧ ∃ found, r = .ok found ∧ (d → found = none)) ?_ ?_ ?_
  · refine .read (hstab.and hdead) (fun r => (hstab.and hdead).and_const _) hs ?_
    intro s hs
    exact ⟨fun other _ => .refl crate scope other s, hs, _, rfl,
      fun hd => hs.1.2 id (by simp) (hs.2 hd)⟩
  · rintro found s ⟨hs, _, hfound, hnone⟩
    obtain rfl := Except.ok.inj hfound
    cases found with
    | some fileSystem =>
      exact .pure (hstab.and_const _) ⟨hs.1, fun hd => nomatch hnone hd⟩
    | none =>
      refine .bind (under_catalog hcrate (hstab.and hdead) (fun s onDisk h => h) hs) ?_ (by simp)
      rintro - s ⟨hs, -⟩
      -- the filesystem is live when it opens, and nobody deletes it before the lock is free
      refine .bind (P := fun r s => Inside crate scope number none s ∧
        ((∃ fileSystem, r = .ok fileSystem) → ¬d ∧ ¬Dead crate scope s id)) ?_ ?_ ?_
      · refine .read (hstab.and hdead) ?_ hs ?_
        · intro r s s' hrely h
          refine ⟨hstab s s' hrely h.1, fun hopen => ⟨(h.2 hopen).1, ?_⟩⟩
          exact (stable_alive number id s s' hrely ⟨h.1, (h.2 hopen).2⟩).2
        · intro s hs
          refine ⟨fun other _ => .refl crate scope other s, hs.1, ?_⟩
          rintro ⟨fileSystem, hopen⟩
          have halive : ¬Dead crate scope s id := not_dead_of_openFilesystem hcrate hopen
          exact ⟨fun hd => halive (hs.2 hd), halive⟩
      · rintro fileSystem s ⟨hs, hopen⟩
        obtain ⟨hd, halive⟩ := hopen ⟨fileSystem, rfl⟩
        rw [hcrate.setResidency]
        exact under_cacheOpened ⟨hs, halive⟩ (fun h => absurd h hd)
      · rintro e s ⟨hs, -⟩
        exact ⟨hs, nofun⟩
  · rintro e s ⟨-, found, hfound, -⟩
    cases hfound

/-- Emptying the dirty place of the cache makes it clean. -/
lemma under_uncache (hs : Inside crate scope number (some id) s) :
    (cache (scope, id) none : Runtime κ φ Unit).Under (contract crate scope number)
      (fun r s => Inside crate scope number none s ∧ r = .ok ()) s := by
  refine .atomic (stable_inside number _) (fun r => (stable_inside number _).and_const _) hs ?_
  intro s hs _
  refine ⟨fun other hne => rely_of_held hs.1 hs.1 (fun _ h => h) hne, ⟨hs.1, ?_⟩, rfl⟩
  intro other _ hother
  show update s.resources (scope, id) none (scope, other) = none
  by_cases hid : other = id
  · rw [hid, update_self]
  · have hne : (scope, other) ≠ (scope, id) := fun h => hid (Prod.ext_iff.mp h).2
    rw [update_of_ne hne]
    exact hs.2 other (fun h => hid (some.inj h)) hother

include hcrate in
/-- `delete` records a tombstone for its filesystem if that is live, and nothing else. -/
lemma status_delete (catalog : κ) (id other : Id) :
    crate.status (crate.delete id catalog).2 other = .deleted ↔
      crate.status catalog other = .deleted ∨ other = id ∧ (crate.delete id catalog).1 = .ok () := by
  by_cases hlive : crate.status catalog id = .live
  · obtain ⟨hok, hdel⟩ := hcrate.delete_live catalog id hlive
    by_cases hother : other = id
    · subst hother
      simp [hok, hdel]
    · rw [hcrate.delete_frame catalog id other hother]
      simp [hother]
  · rw [hcrate.delete_of_ne_live catalog id hlive]
    simp

include hcrate in
/-- `delete_resource` empties its place in the cache before it lets the lock go. -/
lemma under_deleteResource (id : Id) (hs : Outside crate scope number s) :
    (deleteResource crate number scope id).Under (contract crate scope number)
      (fun _ s => Outside crate scope number s) s := by
  have hstab : (contract crate scope number).Stable (Inside crate scope number none) :=
    stable_inside number none
  refine under_scope (fun r => stable_outside number) (fun e => hs) ?_
  refine .mono (fun r s h => h.1) (under_withResources (P := fun _ => True) (fun _ _ _ _ => trivial)
      (fun _ _ _ => trivial) ⟨hs, trivial⟩ fun s hs => ?_)
  refine .bind (under_catalog hcrate hstab (fun s onDisk h => h) hs.1) ?_ (by simp)
  rintro - s ⟨hs, -⟩
  refine .handle (P := fun r s =>
    (r = .ok () → Inside crate scope number (some id) s) ∧
    (r ≠ .ok () → Inside crate scope number none s)) ?_ ?_
  · refine .atomic hstab (fun r => ((stable_inside number _).imp _).and (hstab.imp _)) hs ?_
    intro s hs _
    have hstat := status_delete hcrate (s.catalogs scope) id
    refine ⟨fun other hne => rely_of_held hs.1 hs.1 ?_ hne, fun hok => ⟨hs.1, ?_⟩,
      fun herror => ⟨hs.1, ?_⟩⟩
    · intro other hother
      exact dead_update.mpr ((hstat other).mpr (.inl hother))
    · intro other hne hother
      rcases (hstat other).mp (dead_update.mp hother) with hother | ⟨rfl, -⟩
      · exact hs.2 other nofun hother
      · exact absurd rfl hne
    · intro other _ hother
      rcases (hstat other).mp (dead_update.mp hother) with hother | ⟨-, hok⟩
      · exact hs.2 other nofun hother
      · exact absurd hok herror
  · intro r s hr
    match r with
    | .ok () =>
      refine .bind (under_uncache (hr.1 rfl)) ?_ (by simp)
      rintro - s ⟨hs, -⟩
      exact .pure (hstab.and_const _) ⟨hs, trivial⟩
    | .error .notFound =>
      exact .pure (hstab.and_const _) ⟨hr.2 nofun, trivial⟩
    | .error (.other message) =>
      exact .lift (hstab.and_const _) ⟨hr.2 nofun, trivial⟩

include hcrate in
/-- A call that opens the catalog of its namespace before it does anything else. -/
lemma under_onCatalog (hs : Outside crate scope number s)
    (hbody : ∀ s, Outside crate scope number s → (body scope).Under (contract crate scope number)
      (fun _ s => Outside crate scope number s) s) :
    (Task.lift (storageNamespaceId scope) >>= fun id => catalog crate id >>= fun _ =>
      body id).Under (contract crate scope number) (fun _ s => Outside crate scope number s) s := by
  have hstab : (contract crate scope number).Stable (Outside crate scope number) :=
    stable_outside number
  refine under_scope (fun r => hstab) (fun e => hs) ?_
  refine .bind (under_catalog hcrate hstab (fun s onDisk h => h) hs) ?_ (fun e s h => h.1)
  rintro - s ⟨hs, -⟩
  exact hbody s hs

include hcrate in
/-- `apply_deletion_tombstone` keeps the contract where its tombstone meets the guard. -/
lemma under_applyDeletionTombstone (id : Id) (hs : Outside crate scope number s) :
    (applyDeletionTombstone crate number scope id).Under (contract crate scope number)
      (fun _ s => Outside crate scope number s) s := by
  have hstab : (contract crate scope number).Stable (Outside crate scope number) :=
    stable_outside number
  refine under_onCatalog hcrate hs fun s hs => ?_
  refine .bind (P := fun r s => Outside crate scope number s) ?_ ?_ (fun e s h => h)
  · refine .mapError (.atomic hstab (fun r => hstab) hs ?_)
    intro s hs hguard
    obtain ⟨hfree, hcached⟩ := hguard.2 (scope, id) rfl
    have hstat : ∀ other, crate.status (crate.applyTombstone id (s.catalogs scope)).2 other =
        .deleted ↔ other = id ∨ Dead crate scope s other := by
      intro other
      by_cases hother : other = id
      · subst hother
        simp [(hcrate.applyTombstone _ _).2]
      · rw [hcrate.applyTombstone_frame _ _ _ hother]
        simp [hother, Dead]
    have hrely : ∀ other, Rely crate scope other s _ := fun other =>
      rely_tombstone hfree hcached hstat
    exact ⟨fun other _ => hrely other, hstab _ _ (hrely number) hs⟩
  · intro _ s hs
    refine .mono (fun r s h => h.1) (under_withResources (P := fun r => r = .ok ())
        (fun _ _ _ _ => trivial) (fun _ _ _ => trivial) ⟨hs, trivial⟩ fun s hs => ?_)
    exact under_uncache ⟨hs.1.1, fun id _ => hs.1.2 id nofun⟩

/-- A write that leaves the deleted filesystems as they are. -/
lemma under_register {f : κ → Except FileSystemError Unit × κ}
    (hf : ∀ c id, crate.status (f c).2 id = .deleted ↔ crate.status c id = .deleted)
    (hs : Outside crate scope number s) :
    ((update .register scope f).mapError (·.text) : Runtime κ φ Unit).Under
      (contract crate scope number) (fun _ s => Outside crate scope number s) s := by
  have hstab : (contract crate scope number).Stable (Outside crate scope number) :=
    stable_outside number
  refine .mapError (.atomic hstab (fun r => hstab) hs ?_)
  intro s hs _
  have hrely : ∀ other, Rely crate scope other s
      { s with catalogs := update s.catalogs scope (f (s.catalogs scope)).2 } :=
    fun other => rely_of_same rfl rfl fun id => dead_update.trans (hf _ id)
  exact ⟨fun other _ => hrely other, hstab _ _ (hrely number) hs⟩

include hcrate in
/-- `register_selected_resource` never writes or takes back a tombstone. -/
lemma under_registerSelectedResource (id : Id) (hs : Outside crate scope number s) :
    (registerSelectedResource crate scope id).Under (contract crate scope number)
      (fun _ s => Outside crate scope number s) s := by
  have hstab : (contract crate scope number).Stable (Outside crate scope number) :=
    stable_outside number
  refine under_onCatalog hcrate hs fun s hs => ?_
  refine .bind (P := fun _ s => Outside crate scope number s) ?_ ?_ (fun e s h => h)
  · refine .read hstab (fun r => hstab) hs fun s hs => ?_
    exact ⟨fun other _ => .refl crate scope other s, hs⟩
  · intro entries s hs
    split
    · split
      · exact .lift hstab hs
      · exact under_register (fun c other => by rw [(hcrate.markProjectedSelected c id).2]) hs
    · refine .bind (under_register ?_ hs) ?_ (fun e s h => h)
      · intro c other
        rw [(hcrate.importSnapshot c ⟨⟨id, none⟩, false⟩ rfl).2]
        split
        · rename_i h
          rw [h.2]
          simp
        · rfl
      · intro _ s hs
        exact under_register (fun c other => by rw [(hcrate.markProjected c id).2]) hs

include hcrate in
/-- Every call keeps its contract. -/
lemma ResourceCall.under (call : ResourceCall) (hs : Outside crate scope number s) :
    (call.task crate scope number).Under (contract crate scope number)
      (fun _ s => Outside crate scope number s) s := by
  cases call with
  | openResource id =>
    refine .map _ ?_
    exact .mono (fun r s h => h.1) (under_openResource hcrate id False ⟨hs, fun h => h.elim⟩)
  | deleteResource id =>
    exact .map _ (under_deleteResource hcrate id hs)
  | applyDeletionTombstone id =>
    exact .map _ (under_applyDeletionTombstone hcrate id hs)
  | registerSelectedResource id =>
    exact .map _ (under_registerSelectedResource hcrate id hs)

end

/-! ## Interleavings -/

/-- Any number of calls on one namespace, each with a number of its own. -/
abbrev Calls (κ φ : Type) :=
  Config ℕ FileSystemCall (FileSystems κ φ) (Except String (ResourceAnswer φ))

/-- One step of one call, where the guard lets it through. -/
abbrev Calls.Step (guard : FileSystemCall → FileSystems κ φ → Prop) :
    Calls κ φ → Calls κ φ → Prop :=
  Config.Step (fun _ _ => False) guard

variable (crate scope) in
/-- No call has started: the lock is free and no deleted filesystem is in the cache. -/
structure Calls.Initial (calls : ℕ → ResourceCall) (c : Calls κ φ) : Prop where
  threads : ∀ i, c.threads i = ((calls i).task crate scope i).prog
  lock : c.shared.lock = none
  clean : Clean crate scope c.shared

/-- The result of a call is not a handle. -/
def NoHandle (r : Except String (ResourceAnswer φ)) : Prop :=
  ∀ fileSystem, r ≠ .ok (.handle fileSystem)

/-- When peers' tombstones are recorded only while the lock is free and their filesystem is not
cached, no `open_resource` that starts after the tombstone returns a handle. -/
theorem openResource_of_tombstone (hcrate : crate.Lawful) {calls : ℕ → ResourceCall}
    {c₀ c c' : Calls κ φ} (hinitial : Calls.Initial crate scope calls c₀)
    (hrun : Relation.ReflTransGen (Calls.Step ExclusiveAndUncached) c₀ c) {i : ℕ} {id : Id}
    (hcall : calls i = .openResource id) (hnew : c.threads i = c₀.threads i)
    (hdead : Dead crate scope c.shared id)
    (hlater : Relation.ReflTransGen (Calls.Step ExclusiveAndUncached) c c') (fileSystem : φ) :
    c'.threads i ≠ .done (.ok (.handle fileSystem)) := by
  have hcomp : Compatible (contract crate scope) (fun _ _ => False) ExclusiveAndUncached :=
    ⟨fun _ _ _ h => h.elim, fun _ _ _ h => h, fun _ j _ _ hne h => h j hne⟩
  have houtside : ∀ j, Outside crate scope j c₀.shared :=
    fun j => ⟨by rw [hinitial.lock]; nofun, fun _ => hinitial.clean⟩
  have hstart : c₀.Under (contract crate scope) fun j _ s => Outside crate scope j s := by
    intro j
    rw [hinitial.threads j]
    exact ((calls j).under hcrate (houtside j)).steps
  -- the call has taken no step up to `c`, so it is still outside the lock
  have hfree : Outside crate scope i c.shared :=
    hstart.unstarted hcomp (stable_outside i) hrun (houtside i) hnew
  -- from `c` on, the same contracts hold with the result of this call in view
  have hthen : c.Under (contract crate scope) fun j r _ => j = i → NoHandle r := by
    intro j
    by_cases hj : j = i
    · subst hj
      have hmap : (.handle <$> FileSystemRuntime.openResource crate j scope id).Under
          (contract crate scope j) (fun r _ => NoHandle r) c.shared := by
        refine .map _ ?_
        refine .mono ?_ (under_openResource hcrate id True ⟨hfree, fun _ => hdead⟩)
        rintro (- | opened) s ⟨-, hr⟩
        · nofun
        · exact absurd rfl (hr trivial opened)
      rw [hnew, hinitial.threads j, hcall]
      exact hmap.steps.mono fun r s h _ => h
    · have hother := hstart.run hcomp hrun j
      exact hother.mono fun _ _ _ h => absurd h hj
  intro hdone
  have hout := hthen.run hcomp hlater i
  rw [hdone] at hout
  exact hout.result rfl fileSystem rfl

end

/-! ## Runs on a concrete catalog -/

namespace Reference

/-- Call `1` applies a peer's tombstone to filesystem `2`, and all others open it. -/
def calls : ℕ → ResourceCall
  | 1 => .applyDeletionTombstone 2
  | _ => .openResource 2

/-- Filesystem `2` is live and nothing is open. -/
def idle : Calls Entries Id where
  shared :=
    { onDisk := [scope]
      catalogs := fun _ => (∅ : Entries).insert 2 false
      resources := fun _ => none
      lock := none }
  threads i := ((calls i).task crate scope i).prog

lemma idle_initial : Calls.Initial crate scope calls idle :=
  ⟨fun _ => rfl, rfl, fun _ _ => rfl⟩

/-- Call `0` has opened the filesystem, and call `1` has recorded the tombstone. -/
def recorded : Calls Entries Id := idle.schedule [0, 0, 0, 0, 0, 0, 1, 1]

end Reference

open Reference

/-- `apply_deletion_tombstone` has recorded the tombstone and waits for the lock, and an
`open_resource` that starts now returns the cached filesystem. -/
theorem openResource_returns_deleted :
    ∃ c c' : Calls Reference.Entries Id,
      Calls.Initial crate scope calls idle ∧
      Relation.ReflTransGen (Calls.Step Exclusive) idle c ∧
      calls 2 = .openResource 2 ∧ c.threads 2 = idle.threads 2 ∧
      Dead crate scope c.shared 2 ∧
      Relation.ReflTransGen (Calls.Step Exclusive) c c' ∧
      c'.threads 2 = .done (.ok (.handle 2)) := by
  refine ⟨recorded, recorded.schedule [2, 2, 2], idle_initial,
    Config.schedule_reachable _ (by decide +kernel), rfl, rfl, by decide +kernel,
    Config.schedule_reachable _ (by decide +kernel), ?_⟩
  rfl

/-- A tombstone that is recorded while nothing is open keeps a later call from a handle. -/
theorem openResource_of_tombstone_reference :
    Dead crate scope (idle.schedule [1, 1]).shared 2 ∧
      ∀ fileSystem, ((idle.schedule [1, 1]).schedule [0, 0, 0, 0, 0]).threads 0 ≠
        .done (.ok (.handle fileSystem)) :=
  ⟨by decide +kernel, openResource_of_tombstone crate_lawful idle_initial
    (Config.schedule_reachable _ (by decide +kernel)) rfl rfl (by decide +kernel)
    (Config.schedule_reachable _ (by decide +kernel))⟩

end LocalPlatform.Storage
