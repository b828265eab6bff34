import LocalPlatform.Storage.StorageProtocolTheorems

/-!
# Convergence of two peers

Rounds and ticks of both protocols at once. A round makes the acceptor agree with the initiator,
and only the peer with the smaller public key initiates. So a tombstone or a resource gets to the
other peer exactly when the peer that has it is the one that initiates.
-/

namespace LocalPlatform.Storage

open Resumption List

section
variable {κ φ : Type} (P : Platform κ φ)

/-- The name of a kind in a selection. -/
def kindName : ResourceKind → String
  | .database => "database"
  | .fileSystem => "filesystem"

/-- The namespace and the id that a descriptor of the given kind names. -/
def keyOf (kind : ResourceKind) (resource : Descriptor) : Option (Namespace × Id) :=
  match kind with
  | .database => DatabaseProtocol.key P resource
  | .fileSystem => StorageProtocol.key P resource

/-- `authorize` of the handler for a kind. -/
def authorized (kind : ResourceKind) (source target : String) (resource : Descriptor) : Bool :=
  match kind with
  | .database => DatabaseProtocol.authorize P source target resource
  | .fileSystem => StorageProtocol.authorize P source target resource

/-- The answer of a peer's catalog to the question for a tombstone. -/
def isTombstoned (key : ResourceKey) (peer : Peer κ φ) : Except String Bool :=
  match key.kind with
  | .database => ((DatabaseRuntime.isTombstoned P.host key.scope key.id).eval
      peer.databases).mapError (·.message)
  | .fileSystem =>
    (FileSystemRuntime.isTombstoned P.crate key.scope key.id).eval peer.fileSystems

/-- The answer of a peer's catalog to the question whether it contains a resource, which is given
by the text of its id. -/
def contains (kind : ResourceKind) (scope : Namespace) (text : String) (peer : Peer κ φ) :
    Except String Bool :=
  match kind with
  | .database => (DatabaseRuntime.contains P.host scope ⟨.database, text⟩).eval peer.databases
  | .fileSystem =>
    (FileSystemRuntime.contains P.crate scope ⟨.fileSystem, text⟩).eval peer.fileSystems

/-- A round about the resource gets through to the acceptor. -/
def Delivers (key : ResourceKey) (initiator acceptor : String) (resource : Descriptor)
    (deleted : Bool) : Prop :=
  match key.kind with
  | .database => DatabaseProtocol.Delivers P key initiator acceptor resource deleted
  | .fileSystem => StorageProtocol.Delivers P key initiator acceptor resource

variable {P} {key : ResourceKey} {m : String → Moves} {A B : String → Status → Prop}
  {s : Network κ φ} (call : ℕ) {initiator acceptor : String} {resource : Descriptor}

/-! ## What the catalogs answer -/

lemma parse_of_key {parse : String → Option Id} {scope : Namespace} {id : Id}
    (h : resource.key P parse = some (scope, id)) : parse resource.resourceId = some id := by
  obtain ⟨_, -, h⟩ := Option.bind_eq_some_iff.mp h
  obtain ⟨_, hid, h⟩ := Option.bind_eq_some_iff.mp h
  have hsame := (Prod.ext_iff.mp (Option.some.inj h)).2
  rw [hid]
  exact congrArg some hsame

section
variable (hhost : P.host.Reliable) (hcrate : P.crate.Lawful)
include hhost hcrate

/-- A peer knows a tombstone when its status is deleted. -/
lemma isTombstoned_iff (peer : Peer κ φ) :
    isTombstoned P key peer = .ok true ↔ peer.status P key = .deleted := by
  unfold isTombstoned Peer.status
  cases key.kind with
  | database =>
    rw [← (DatabaseRuntime.tells_isTombstoned hhost key.scope key.id peer.databases).1]
    cases (DatabaseRuntime.isTombstoned P.host key.scope key.id).eval peer.databases with
    | error e => exact iff_of_false nofun nofun
    | ok deleted => simp [Except.mapError]
  | fileSystem =>
    exact (FileSystemRuntime.tells_isTombstoned hcrate key.scope key.id peer.fileSystems).1

/-- A peer contains the resource when its status is live. -/
lemma contains_iff (hkey : keyOf P key.kind resource = some (key.scope, key.id)) (peer : Peer κ φ) :
    contains P key.kind key.scope resource.resourceId peer = .ok true ↔
      peer.status P key = .live := by
  unfold contains Peer.status
  cases hkind : key.kind with
  | database =>
    rw [hkind] at hkey
    exact DatabaseRuntime.eval_contains hhost (parse_of_key hkey)
  | fileSystem =>
    rw [hkind] at hkey
    exact FileSystemRuntime.eval_contains hcrate (parse_of_key hkey)

/-! ## One round -/

/-- A round that delivers nothing new. -/
lemma takes_keep (h : Keeps (Delivers P key initiator acceptor resource) m A initiator acceptor) :
    Takes P key m A A (synchronizePeer P call key.kind initiator acceptor resource) := by
  unfold Delivers at h
  cases hkind : key.kind with
  | database =>
    rw [hkind] at h
    exact fun s hs => .mapError (DatabaseProtocol.takes_round hkind hhost h.round hs)
  | fileSystem =>
    rw [hkind] at h
    exact StorageProtocol.takes_round hkind hcrate h.round

/-- A round that delivers what the initiator knows. -/
lemma takes_bring (h : Brings m A B initiator acceptor)
    (hconn : P.connect initiator acceptor = .ok ())
    (hdeliv : ∀ deleted u, (deleted = true ↔ u = .deleted) → A initiator u →
      Delivers P key initiator acceptor resource deleted) :
    Takes P key m A B (synchronizePeer P call key.kind initiator acceptor resource) := by
  have hround := h.round hconn hdeliv
  unfold Delivers at hround
  cases hkind : key.kind with
  | database =>
    rw [hkind] at hround
    exact fun s hs => .mapError (DatabaseProtocol.takes_round hkind hhost hround hs)
  | fileSystem =>
    rw [hkind] at hround
    exact StorageProtocol.takes_round hkind hcrate hround

end

/-- The conditions that `a` has status `u` and `b` has status `v`. -/
def Between (a b : String) (u v : Status) (y : String) (w : Status) : Prop :=
  (y = a → w = u) ∧ (y = b → w = v)

/-- Only tombstones come to be. -/
def Moves.burial : Moves where
  rel u v := u = v ∨ v = .deleted
  refl _ := .inl rfl
  trans := by
    rintro u v w (rfl | rfl) (rfl | rfl)
    · exact .inl rfl
    · exact .inr rfl
    · exact .inr rfl
    · exact .inr rfl

/-- A round whose initiator has a tombstone buries the resource at the acceptor. -/
lemma brings_tombstone (hne : initiator ≠ acceptor) :
    Brings (fun y => if y = acceptor then Moves.burial else Moves.frozen)
      (fun y u => y = initiator → u = .deleted) (Between initiator acceptor .deleted .deleted)
      initiator acceptor where
  ne := hne
  stable y u v huv hu hy := by
    subst hy
    rw [if_neg hne] at huv
    exact huv ▸ hu rfl
  stable' y u v huv hu := by
    by_cases hy : y = acceptor
    · have hdel : v = .deleted := by
        rw [if_pos hy] at huv
        exact huv.elim (fun h => h ▸ hu.2 hy) id
      exact ⟨fun _ => hdel, fun _ => hdel⟩
    · rw [if_neg hy] at huv
      exact huv ▸ hu
  elsewhere y hy u hu := ⟨hu, fun h => absurd h hy⟩
  live := by
    simpa only [if_neg hne] using Moves.frozen_stable _
  known h := nomatch h rfl
  offered deleted u v hflag hu _ := by
    rw [hflag.mpr (hu rfl)]
    refine ⟨?_, fun _ => rfl, fun _ => rfl⟩
    rw [if_pos rfl]
    exact .inr rfl
  accepts h := nomatch h.2 rfl
  undeleted u hu hlive := absurd (hu rfl) hlive

/-- A round that delivers no tombstone to an acceptor that knows the resource changes nothing. -/
lemma keeps_between {delivers : Bool → Prop} {u v : Status} (hv : v ≠ .absent)
    (hu : delivers true → u ≠ .deleted) :
    Keeps delivers (fun _ => Moves.frozen) (Between initiator acceptor u v) initiator acceptor where
  stable _ := Moves.frozen_stable _
  live := Moves.frozen_stable _
  tombstone h hdel := hu h (hdel.1 rfl).symm
  accepts _ habs := absurd (habs.2 rfl).symm hv

/-- The round of an authorized resource delivers what fits into a handshake. -/
lemma delivers_of_authorized (hkey : keyOf P key.kind resource = some (key.scope, key.id))
    (hini : authorized P key.kind initiator acceptor resource = true)
    (hacr : authorized P key.kind acceptor initiator resource = true) (deleted : Bool) :
    Delivers P key initiator acceptor resource deleted ↔
      (key.kind = .database → P.handshakeLength resource deleted ≤ maxHandshakeBytes) := by
  unfold Delivers
  cases hkind : key.kind with
  | database =>
    rw [hkind] at hkey hini hacr
    exact ⟨fun h _ => h.2.2.2, fun h => ⟨hkey, hini, hacr, h rfl⟩⟩
  | fileSystem =>
    rw [hkind] at hkey hini hacr
    exact ⟨fun _ => nofun, fun _ => ⟨hkey, hini, hacr⟩⟩

end

/-! ## Two concrete peers -/

namespace Reference

/-- Peers that all select a database and a filesystem, and are always admitted. -/
def platform : Platform Entries Id where
  host := host
  crate := crate
  peers _ := ["a", "b"]
  connect _ _ := .ok ()
  selectedResources _ :=
    .ok [⟨"owner", "1", "database", "11"⟩, ⟨"owner", "1", "filesystem", "11"⟩]
  admitPeerReplication _ _ _ _ _ := .ok ()
  handshakeLength resource _ := resource.ownerSubject.length
  inUse _ _ := false

/-- A peer that does not know resource `2`, or knows it with the given flag. -/
def peer (deleted : Option Bool) : Peer Entries Id where
  databases :=
    { files := fun _ => some ⟨deleted.elim ∅ fun deleted =>
        (∅ : Std.TreeMap Id CatalogRecord).insert 2 ⟨⟨2, none⟩, deleted⟩⟩
      opened := fun _ => none
      kvOpened := fun _ => none
      openLock := none
      kvLock := none }
  fileSystems :=
    { onDisk := [scope]
      catalogs := fun _ => deleted.elim ∅ ((∅ : Entries).insert 2)
      resources := fun _ => none
      lock := none }

/-- Two peers that hold the resource, hold its tombstone or do not know it. -/
def network (a b : Option Bool) : Network Entries Id :=
  fun name => if name = "a" then peer a else peer b

/-- The resource that all peers select, of either kind. -/
def key (kind : ResourceKind) : ResourceKey := ⟨kind, scope, 2⟩

/-- The resource both peers select. -/
def selectedResource (kind : ResourceKind) : SelectedResource :=
  ⟨"owner", "1", kindName kind, "11"⟩

end Reference

/-- A round with authorization on both sides, when one peer has a tombstone of the resource and
the other has it live: both have the tombstone afterwards exactly if it was the initiator's and,
for a database, its handshake fits into a frame. -/
theorem synchronizePeer_tombstones {κ φ : Type} {P : Platform κ φ} (hhost : P.host.Reliable)
    (hcrate : P.crate.Lawful) {key : ResourceKey} {resource : Descriptor}
    (hkey : keyOf P key.kind resource = some (key.scope, key.id)) {initiator acceptor : String}
    (hne : initiator ≠ acceptor) (hconnect : P.connect initiator acceptor = .ok ())
    (hinitiator : authorized P key.kind initiator acceptor resource = true)
    (hacceptor : authorized P key.kind acceptor initiator resource = true) (call : ℕ)
    {s s' : Network κ φ}
    (hs : (isTombstoned P key (s initiator) = .ok true ∧
        contains P key.kind key.scope resource.resourceId (s acceptor) = .ok true) ∨
      (contains P key.kind key.scope resource.resourceId (s initiator) = .ok true ∧
        isTombstoned P key (s acceptor) = .ok true))
    (hrun : ((synchronizePeer P call key.kind initiator acceptor resource).run s).2 = s') :
    (isTombstoned P key (s' initiator) = .ok true ∧ isTombstoned P key (s' acceptor) = .ok true) ↔
      isTombstoned P key (s initiator) = .ok true ∧
        (key.kind = .database → P.handshakeLength resource true ≤ maxHandshakeBytes) := by
  simp only [isTombstoned_iff hhost hcrate, contains_iff hhost hcrate hkey] at hs ⊢
  rw [← delivers_of_authorized hkey hinitiator hacceptor true]
  have hkept : ∀ {u v : Status}, (s initiator).status P key = u → (s acceptor).status P key = v →
      v ≠ .absent → (Delivers P key initiator acceptor resource true → u ≠ .deleted) →
      (s' initiator).status P key = u ∧ (s' acceptor).status P key = v := by
    intro u v hu hv hknown hdeliv
    have hround := takes_keep call hhost hcrate (keeps_between hknown hdeliv)
      (show Everywhere P key (Between initiator acceptor u v) s from
        fun y => ⟨fun hy => hy ▸ hu, fun hy => hy ▸ hv⟩)
    have hafter := hround.run fun _ _ => trivial
    rw [hrun] at hafter
    exact ⟨(hafter initiator).1 rfl, (hafter acceptor).2 rfl⟩
  -- the handshake tells the acceptor of a tombstone, and nothing tells the initiator
  rcases hs with ⟨hdel, hlive⟩ | ⟨hlive, hdel⟩
  · by_cases hdeliv : Delivers P key initiator acceptor resource true
    · have hround := takes_bring call hhost hcrate (brings_tombstone hne) hconnect
        (fun deleted u hflag hu => hflag.mpr (hu rfl) ▸ hdeliv)
        (show Everywhere P key (fun y u => y = initiator → u = .deleted) s from
          fun y hy => hy ▸ hdel)
      have hafter := hround.run fun _ _ => trivial
      rw [hrun] at hafter
      exact iff_of_true ⟨(hafter initiator).1 rfl, (hafter acceptor).2 rfl⟩ ⟨hdel, hdeliv⟩
    · obtain ⟨-, hacceptor⟩ := hkept hdel hlive nofun fun h => absurd h hdeliv
      rw [hacceptor]
      exact iff_of_false (fun h => nomatch h.2) fun h => hdeliv h.2
  · obtain ⟨hinitiator, -⟩ := hkept hlive hdel nofun fun _ => nofun
    rw [hinitiator, hlive]
    exact iff_of_false (fun h => nomatch h.1) fun h => nomatch h.1

open Reference

/-- Both peers have the tombstone after the round of a peer that deleted the resource. -/
theorem synchronizePeer_tombstones_reference :
    let final := ((synchronizePeer platform 0 .database "a" "b"
      (descriptor (selectedResource .database))).run (network (some true) (some false))).2
    (isTombstoned platform (key .database) (final "a") = .ok true ∧
      isTombstoned platform (key .database) (final "b") = .ok true) ↔
    isTombstoned platform (key .database) (network (some true) (some false) "a") = .ok true ∧
      ((key .database).kind = .database → platform.handshakeLength
          (descriptor (selectedResource .database)) true ≤ maxHandshakeBytes) :=
  synchronizePeer_tombstones host_reliable crate_lawful
    (by decide +kernel) (by decide) rfl (by decide +kernel) (by decide +kernel) 0
    (.inl ⟨by decide +kernel, by decide +kernel⟩) rfl

/-- A round of a peer with a live resource, of either kind, leaves it live, although the acceptor
has a tombstone. -/
theorem synchronizePeer_ignores_tombstone : [ResourceKind.database, .fileSystem].Forall fun kind =>
    let resource := descriptor (selectedResource kind)
    let s := network (some false) (some true)
    let final := ((synchronizePeer platform 0 kind "a" "b" resource).run s).2
    keyOf platform kind resource = some (scope, 2) ∧
    platform.connect "a" "b" = .ok () ∧
    authorized platform kind "a" "b" resource = true ∧
    authorized platform kind "b" "a" resource = true ∧
    platform.handshakeLength resource true ≤ maxHandshakeBytes ∧
    contains platform kind scope resource.resourceId (s "a") = .ok true ∧
    isTombstoned platform (key kind) (s "b") = .ok true ∧
    isTombstoned platform (key kind) (final "a") = .ok false := by
  decide +kernel

/-! ## One tick -/

section
variable {κ φ : Type} {P : Platform κ φ} {key : ResourceKey} {m : String → Moves}
  {A B : String → Status → Prop} {s : Network κ φ} (call : ℕ) {x : String}

section
variable {ℓ σ ε ε' : Type} {C : Contract ℓ σ} {K L : σ → Prop} {s : σ} {peers : List String}
  {resources : List SelectedResource} {round : String → SelectedResource → Task ℓ σ ε Unit}

/-- The rounds of a tick with one peer keep what each round keeps. -/
lemma under_remote (hK : C.Stable K) (hround : ∀ remote ∈ peers, x < remote →
      ∀ resource ∈ resources, ∀ ⦃s⦄, K s → (round remote resource).Under C (fun _ => K) s)
    (remote : String) (hrem : remote ∈ peers) (s : σ) (hs : K s) :
    (if x ≥ remote then pure ()
      else resources.forM fun resource => (round remote resource).ignore :
        Task ℓ σ ε' PUnit).Under C (fun r s => K s ∧ r = .ok ()) s := by
  split
  · exact .pure (hK.and_const _) ⟨hs, rfl⟩
  · rename_i hlt
    exact .forM hK (fun resource hres s hs => .ignore
      (hround remote hrem (String.not_le.mp hlt) resource hres hs)) hs

/-- One of the rounds of a tick brings about what all rounds keep. -/
lemma under_rounds_achieve (hK : C.Stable K) (hL : C.Stable L)
    (hkeepK : ∀ remote ∈ peers, x < remote → ∀ resource ∈ resources, ∀ ⦃s⦄,
      K s → (round remote resource).Under C (fun _ => K) s)
    (hkeepL : ∀ remote ∈ peers, x < remote → ∀ resource ∈ resources, ∀ ⦃s⦄,
      L s → (round remote resource).Under C (fun _ => L) s)
    {remote : String} (hrem : remote ∈ peers) (hlt : x < remote)
    {resource : SelectedResource} (hres : resource ∈ resources)
    (hbring : ∀ ⦃s⦄, K s → (round remote resource).Under C (fun _ => L) s) (hs : K s) :
    (peers.forM fun remote =>
      if x ≥ remote then pure ()
      else resources.forM fun resource => (round remote resource).ignore :
        Task ℓ σ ε' PUnit).Under C (fun r s => L s ∧ r = .ok ()) s := by
  refine .forM_achieves hL hrem (under_remote hK hkeepK) (under_remote hL hkeepL)
    (fun s hs => ?_) hs
  rw [if_neg (String.not_le.mpr hlt)]
  exact .forM_achieves hL hres (fun r hr s hs => .ignore (hkeepK remote hrem hlt r hr hs))
    (fun r hr s hs => .ignore (hkeepL remote hrem hlt r hr hs))
    (fun s hs => .ignore (hbring hs)) hs

end

/-- Rounds about databases do not touch filesystems. -/
lemma DatabaseProtocol.within_synchronizeSelectedPeers (hkind : key.kind = .fileSystem) :
    (DatabaseProtocol.synchronizeSelectedPeers P call x).Within (SameStatus P key) := by
  unfold DatabaseProtocol.synchronizeSelectedPeers
  split
  · exact .pure ()
  refine .forM fun remote _ => ?_
  split
  · exact .pure ()
  refine .forM fun resource _ => .handle ?_ fun _ => .pure ()
  refine .bind (.lift _) fun _ => .bind (.failIf _ _) fun _ => .bind (.okOr _ _) fun named => ?_
  refine .bind (within_onDatabases hkind _) fun deleted => .bind (.failIf _ _) fun _ => ?_
  refine .bind ?_ fun acknowledged => .bind (.failIf _ _) fun _ => ?_
  · unfold acceptStream
    split
    · exact .pure _
    split
    · exact .pure _
    split
    · refine .handle (within_onDatabases hkind _) fun r => ?_
      split
      · exact .pure _
      · exact .pure _
    · refine .handle (within_onDatabases hkind _) fun r => ?_
      split
      · refine .handle (within_onDatabases hkind _) fun r => ?_
        split
        · exact .pure _
        · exact .pure _
      · exact .pure _
  · split
    · exact .pure ()
    · refine .bind (.mapError (within_onDatabases hkind _) _) fun _ => .bind (.okOr _ _) fun _ => ?_
      exact .bind (.mapError (within_onDatabases hkind _) _) fun _ => .bind (.okOr _ _) fun _ =>
        .pure ()

/-- Rounds about filesystems do not touch databases. -/
lemma StorageProtocol.within_synchronizeSelectedPeers (hkind : key.kind = .database) :
    (StorageProtocol.synchronizeSelectedPeers P call x).Within (SameStatus P key) := by
  unfold StorageProtocol.synchronizeSelectedPeers
  split
  · exact .pure ()
  refine .bind (.handle (within_onFileSystems hkind _) fun _ => .pure ()) fun _ => ?_
  refine .forM fun remote _ => ?_
  split
  · exact .pure ()
  refine .forM fun resource _ => .handle ?_ fun _ => .pure ()
  refine .bind (.okOr _ _) fun named => .bind (within_onFileSystems hkind _) fun deleted => ?_
  refine .bind (.lift _) fun _ => .bind (.failIf _ _) fun _ => ?_
  refine .bind ?_ fun accepted => .bind (.failIf _ _) fun _ => ?_
  · unfold acceptStream
    split
    · exact .pure _
    split
    · exact .pure _
    split
    · exact .handle (within_onFileSystems hkind _) fun _ => .pure _
    · refine .handle (within_onFileSystems hkind _) fun r => ?_
      split
      · exact .pure _
      · exact .handle (within_onFileSystems hkind _) fun _ => .pure _
  · split
    · exact .pure ()
    · exact .bind (within_onFileSystems hkind _) fun _ => .pure ()

/-- Every round that the tick of `x` opens about the resource delivers nothing new. -/
def TickKeeps (P : Platform κ φ) (key : ResourceKey) (m : String → Moves)
    (A : String → Status → Prop) (x : String) : Prop :=
  ∀ selected, P.selectedResources x = .ok selected → ∀ remote, x < remote →
    ∀ resource ∈ selected, resource.kind = kindName key.kind →
      Keeps (Delivers P key x remote (descriptor resource)) m A x remote

/-- A peer that replicates a filesystem selects it, so the eviction spares it. -/
def Spared (P : Platform κ φ) (key : ResourceKey) (x : String) : Prop :=
  key.kind = .fileSystem → ∀ selected, P.selectedResources x = .ok selected →
    (key.scope, key.id) ∈ StorageProtocol.selectedFilesystems P selected

/-- One of the rounds that the tick of `x` opens delivers the resource. -/
structure TickBrings (P : Platform κ φ) (key : ResourceKey) (m : String → Moves)
    (A B : String → Status → Prop) (x acceptor : String) : Prop where
  keeps : TickKeeps P key m A x
  keeps' : TickKeeps P key m B x
  brings : Brings m A B x acceptor
  connect : P.connect x acceptor = .ok ()
  peers : acceptor ∈ P.peers x
  lt : x < acceptor
  delivers : ∃ selected, P.selectedResources x = .ok selected ∧ ∃ resource ∈ selected,
    resource.kind = kindName key.kind ∧ ∀ deleted u, (deleted = true ↔ u = .deleted) → A x u →
      Delivers P key x acceptor (descriptor resource) deleted

variable (hhost : P.host.Reliable) (hcrate : P.crate.Lawful)

/-- A tick changes the status of a database by its database rounds, and of a filesystem by its
filesystem rounds. -/
lemma takes_tick (hB : ∀ y, (m y).Stable (B y)) (hA : ∀ y, (m y).Stable (A y))
    (hdatabase : key.kind = .database →
      Takes P key m A B (DatabaseProtocol.synchronizeSelectedPeers P call x))
    (hfileSystem : key.kind = .fileSystem →
      Takes P key m A B (StorageProtocol.synchronizeSelectedPeers P call x)) :
    Takes P key m A B (synchronizeSelectedPeers P call x) := by
  intro s hs
  cases hkind : key.kind with
  | database =>
    refine .bind (.ignore (hdatabase hkind hs)) (fun _ s h => ?_) (fun e s h => h.1)
    have hother := takes_of_sameStatus hB
      (StorageProtocol.within_synchronizeSelectedPeers (x := x) call hkind) h.1
    exact .mono (fun r s h => h.1) (.ignore hother)
  | fileSystem =>
    have hother := takes_of_sameStatus hA
      (DatabaseProtocol.within_synchronizeSelectedPeers (x := x) call hkind) hs
    refine .bind (.ignore hother) (fun _ s h => ?_) (fun e s h => nomatch h.2)
    exact .mono (fun r s h => h.1) (.ignore (hfileSystem hkind h.1))

lemma delivers_database (hkind : key.kind = .database) (acceptor : String) (resource : Descriptor) :
    Delivers P key x acceptor resource = DatabaseProtocol.Delivers P key x acceptor resource := by
  funext deleted
  rw [Delivers, hkind]

lemma delivers_fileSystem (hkind : key.kind = .fileSystem) (acceptor : String)
    (resource : Descriptor) :
    Delivers P key x acceptor resource =
      fun _ => StorageProtocol.Delivers P key x acceptor resource := by
  funext deleted
  rw [Delivers, hkind]

section
variable {selected : List SelectedResource} (hselected : P.selectedResources x = .ok selected)
include hselected

include hhost in
/-- A tick of the database protocol, resource by resource. -/
lemma DatabaseProtocol.takes_rounds (hkind : key.kind = .database)
    (hkeeps : TickKeeps P key m A x) (remote : String) (_ : remote ∈ P.peers x)
    (hlt : x < remote) (resource : SelectedResource)
    (hres : resource ∈ selected.filter (·.kind == "database")) :
    Takes P key m A A (DatabaseProtocol.synchronizePeer P call x remote (descriptor resource)) := by
  obtain ⟨hmem, hname⟩ := mem_filter.mp hres
  refine DatabaseProtocol.takes_round hkind hhost (Keeps.round ?_)
  rw [← delivers_database hkind]
  refine hkeeps selected hselected remote hlt resource hmem ?_
  rw [hkind]
  exact eq_of_beq hname

include hcrate in
/-- A tick of the storage protocol, resource by resource. -/
lemma StorageProtocol.takes_rounds (hkind : key.kind = .fileSystem)
    (hkeeps : TickKeeps P key m A x) (remote : String) (_ : remote ∈ P.peers x)
    (hlt : x < remote) (resource : SelectedResource)
    (hres : resource ∈ selected.filter (·.kind == "filesystem")) :
    Takes P key m A A (StorageProtocol.synchronizePeer P call x remote (descriptor resource)) := by
  obtain ⟨hmem, hname⟩ := mem_filter.mp hres
  refine StorageProtocol.takes_round hkind hcrate (Keeps.round ?_)
  rw [← delivers_fileSystem hkind]
  refine hkeeps selected hselected remote hlt resource hmem ?_
  rw [hkind]
  exact eq_of_beq hname

include hcrate in
/-- The eviction at the start of a tick. -/
lemma StorageProtocol.takes_eviction (hkind : key.kind = .fileSystem)
    (hA : ∀ y, (m y).Stable (A y)) (hspared : Spared P key x) :
    Takes P key m A A (onFileSystems x (FileSystemRuntime.removeUnselectedProjectedResources
      P.crate call (selectedFilesystems P selected) (P.inUse x))) :=
  (holds_fileSystems hkind x).takes_call hA (fun _ _ _ h => h) (leads_of_neutral (hA x)
    (FileSystemRuntime.within_removeUnselectedProjectedResources hcrate
      (hspared hkind selected hselected)))

end

include hhost hcrate

/-- A tick that delivers nothing new. -/
lemma takes_tick_keep (hA : ∀ y, (m y).Stable (A y)) (hkeeps : TickKeeps P key m A x)
    (hspared : Spared P key x) : Takes P key m A A (synchronizeSelectedPeers P call x) := by
  have hstab : (networkContract P key m).Stable (Everywhere P key A) := stable_everywhere hA
  refine takes_tick call hA hA (fun hkind s hs => ?_) (fun hkind s hs => ?_)
  · unfold DatabaseProtocol.synchronizeSelectedPeers
    split
    · exact .pure hstab hs
    · rename_i selected hselected
      exact .mono (fun r s h => h.1) (.forM hstab (under_remote hstab
        (DatabaseProtocol.takes_rounds call hhost hselected hkind hkeeps)) hs)
  · unfold StorageProtocol.synchronizeSelectedPeers
    split
    · exact .pure hstab hs
    · rename_i selected hselected
      refine .bind (.ignore
        (StorageProtocol.takes_eviction call hcrate hselected hkind hA hspared hs))
        (fun _ s h => ?_) (fun e s h => h.1)
      exact .mono (fun r s h => h.1) (.forM hstab (under_remote hstab
        (StorageProtocol.takes_rounds call hcrate hselected hkind hkeeps)) h.1)

/-- A tick that delivers the resource. -/
lemma takes_tick_bring {acceptor : String} (h : TickBrings P key m A B x acceptor)
    (hspared : Spared P key x) : Takes P key m A B (synchronizeSelectedPeers P call x) := by
  have hA : (networkContract P key m).Stable (Everywhere P key A) :=
    stable_everywhere h.brings.stable
  have hB : (networkContract P key m).Stable (Everywhere P key B) :=
    stable_everywhere h.brings.stable'
  obtain ⟨_, hselected, _, hres, hname, hdeliv⟩ := h.delivers
  have hround := h.brings.round h.connect hdeliv
  -- the one round about this entry delivers, and the others keep what holds before and after it
  refine takes_tick call h.brings.stable' h.brings.stable (fun hkind s hs => ?_)
    (fun hkind s hs => ?_)
  · rw [hkind] at hname
    simp only [delivers_database hkind] at hround
    unfold DatabaseProtocol.synchronizeSelectedPeers
    rw [hselected]
    refine .mono (fun r s h => h.1) (under_rounds_achieve hA hB
      (DatabaseProtocol.takes_rounds call hhost hselected hkind h.keeps)
      (DatabaseProtocol.takes_rounds call hhost hselected hkind h.keeps') h.peers h.lt
      (mem_filter.mpr ⟨hres, beq_iff_eq.mpr hname⟩)
      (DatabaseProtocol.takes_round hkind hhost hround) hs)
  · rw [hkind] at hname
    simp only [delivers_fileSystem hkind] at hround
    unfold StorageProtocol.synchronizeSelectedPeers
    rw [hselected]
    refine .bind (.ignore
      (StorageProtocol.takes_eviction call hcrate hselected hkind h.brings.stable hspared hs))
      (fun _ s hs => ?_) (fun e s h => nomatch h.2)
    refine .mono (fun r s h => h.1) (under_rounds_achieve hA hB
      (StorageProtocol.takes_rounds call hcrate hselected hkind h.keeps)
      (StorageProtocol.takes_rounds call hcrate hselected hkind h.keeps') h.peers h.lt
      (mem_filter.mpr ⟨hres, beq_iff_eq.mpr hname⟩)
      (StorageProtocol.takes_round hkind hcrate hround) hs.1)

end

/-! ## Two ticks -/

section
variable {κ φ : Type} {P : Platform κ φ}

/-- Two approved peers that select the same resource and reach each other. -/
structure Linked (P : Platform κ φ) (key : ResourceKey) (a b : String)
    (resource : SelectedResource) : Prop where
  ne : a ≠ b
  kind : resource.kind = kindName key.kind
  named : keyOf P key.kind (descriptor resource) = some (key.scope, key.id)
  selected : ∃ selected, P.selectedResources a = .ok selected ∧ resource ∈ selected
  selected' : ∃ selected, P.selectedResources b = .ok selected ∧ resource ∈ selected
  peers : b ∈ P.peers a
  peers' : a ∈ P.peers b
  connect : P.connect a b = .ok ()
  connect' : P.connect b a = .ok ()
  authorizes : authorized P key.kind a b (descriptor resource) = true
  authorizes' : authorized P key.kind b a (descriptor resource) = true

/-- The ticks of two peers, at any point of an interleaving of their steps. -/
abbrev Ticks (κ φ : Type) := Config Bool NetworkCall (Network κ φ) (Except String Unit)

/-- Any of the two takes a step. -/
def Ticks.Step : Ticks κ φ → Ticks κ φ → Prop := Config.Step (fun _ _ => False) fun _ _ => True

/-- Both peers are about to run `synchronize_selected_peers`. -/
def Ticks.Initial (P : Platform κ φ) (call : Bool → ℕ) (a b : String) (c : Ticks κ φ) : Prop :=
  ∀ i, c.threads i = (synchronizeSelectedPeers P (call i) (if i then a else b)).prog

/-- Both peers have run. -/
def Ticks.Done (c : Ticks κ φ) : Prop := ∀ i, ∃ r, c.threads i = .done r

/-- An entry that `a` selects names the resource, both sides authorize it, and its handshake
fits. -/
def Offered (P : Platform κ φ) (key : ResourceKey) (a b : String) : Prop :=
  ∃ selected, P.selectedResources a = .ok selected ∧ ∃ resource ∈ selected,
    resource.kind = kindName key.kind ∧ Delivers P key a b (descriptor resource) false

variable {key : ResourceKey} {m : String → Moves} {a b : String} {resource : SelectedResource}
  {call : Bool → ℕ} {c c' : Ticks κ φ}

section
variable (h : Linked P key a b resource)
include h

lemma Linked.spared : Spared P key a := by
  intro hkind selected hselected
  obtain ⟨_, hsel', hmem⟩ := h.selected
  obtain rfl := Except.ok.inj (hselected.symm.trans hsel')
  have hname : resource.kind = "filesystem" := by
    rw [h.kind, hkind]
    rfl
  have hkey : StorageProtocol.key P (descriptor resource) = some (key.scope, key.id) := by
    have hnamed := h.named
    rwa [hkind] at hnamed
  exact mem_filterMap.mpr ⟨resource, mem_filter.mpr ⟨hmem, beq_iff_eq.mpr hname⟩, hkey⟩

/-- Being linked is symmetric. -/
lemma Linked.symm : Linked P key b a resource :=
  ⟨h.ne.symm, h.kind, h.named, h.selected', h.selected, h.peers', h.peers, h.connect', h.connect,
    h.authorizes', h.authorizes⟩

/-- Filesystems have no handshake that might not fit. -/
lemma Linked.offered (hkind : key.kind = .fileSystem) :
    Offered P key a b := by
  obtain ⟨selected, hselected, hmem⟩ := h.selected
  refine ⟨selected, hselected, resource, hmem, h.kind, ?_⟩
  rw [delivers_of_authorized h.named h.authorizes h.authorizes', hkind]
  nofun

end

/-- What each tick guarantees holds when both have run. -/
lemma Ticks.run {Q : Bool → Network κ φ → Prop} (hinit : Ticks.Initial P call a b c)
    (htick : ∀ i, (synchronizeSelectedPeers P (call i) (if i then a else b)).Under
      (networkContract P key m) (fun _ => Q i) c.shared)
    (hrun : Relation.ReflTransGen Ticks.Step c c') (hdone : c'.Done) (i : Bool) :
    Q i c'.shared := by
  have hunder : c.Under (fun _ => networkContract P key m) fun i _ => Q i := by
    intro i
    rw [hinit i]
    exact (htick i).steps
  have hafter := hunder.run ⟨nofun, fun _ _ _ _ => trivial, fun _ _ _ _ _ h => h⟩ hrun i
  obtain ⟨r, hr⟩ := hdone i
  rw [hr] at hafter
  exact hafter.result

/-- Any move. -/
def Moves.free : Moves := ⟨fun _ _ => True, fun _ => trivial, fun _ _ => trivial⟩

/-- Neither of the two peers' status changes. -/
def still (a b : String) (y : String) : Moves := if y = a ∨ y = b then .frozen else .free

lemma stable_still (y : String) : (still a b y).Stable (Between a b .live .absent y) := by
  intro u v huv hu
  by_cases hy : y = a ∨ y = b
  · rw [still, if_pos hy] at huv
    exact huv ▸ hu
  · exact ⟨fun h => absurd (.inl h) hy, fun h => absurd (.inr h) hy⟩

variable {x : String}

/-- As long as nothing is delivered from `a` to `b`, the ticks of both leave a resource of `a`
unknown at `b`. -/
lemma tickKeeps_still (hblk : a < b → ¬Offered P key a b)
    (hx : x = a ∨ x = b) : TickKeeps P key (still a b) (Between a b .live .absent) x := by
  intro selected hselected remote hlt resource hres hname
  refine ⟨stable_still, ?_, ?_, ?_⟩
  · rw [still, if_pos hx]
    exact Moves.frozen_stable _
  · rintro - ⟨hdel, hdel'⟩
    rcases hx with rfl | rfl
    · nomatch hdel rfl
    · nomatch hdel' rfl
  · intro hdeliv habs
    by_cases ha : remote = a
    · nomatch habs.1 ha
    by_cases hb : remote = b
    · subst hb
      rcases hx with rfl | rfl
      · exact absurd ⟨selected, hselected, resource, hres, hname, hdeliv⟩ (hblk hlt)
      · exact absurd hlt (String.lt_irrefl _)
    · rw [still, if_neg (by simp [ha, hb])]
      exact ⟨trivial, fun h => absurd h ha, fun h => absurd h hb⟩

/-- A resource that is not deleted may become live. -/
def Moves.selecting : Moves where
  rel u v := (u ≠ .deleted → v ≠ .deleted) ∧ (u = .live → v = .live)
  refl _ := ⟨id, id⟩
  trans h h' := ⟨h'.1 ∘ h.1, h'.2 ∘ h.2⟩

/-- `a` keeps its status while `b` may select the resource. -/
def receiving (a b : String) (y : String) : Moves :=
  if y = a then .frozen else if y = b then .selecting else .free

/-- `a` has the resource, and `b` has no tombstone of it. -/
def Receivable (a b : String) (y : String) (u : Status) : Prop :=
  (y = a → u = .live) ∧ (y = b → u ≠ .deleted)

/-- The sender stays live while the receiver moves. -/
lemma stable_receiving {B : Status → Prop} (hB : Moves.selecting.Stable B) (y : String) :
    (receiving a b y).Stable fun u => (y = a → u = .live) ∧ (y = b → B u) := by
  intro u v huv hu
  by_cases ha : y = a
  · rw [receiving, if_pos ha] at huv
    exact huv ▸ hu
  refine ⟨fun h => absurd h ha, fun hb => ?_⟩
  rw [receiving, if_neg ha, if_pos hb] at huv
  exact hB u v huv (hu.2 hb)

lemma stable_receivable (y : String) : (receiving a b y).Stable (Receivable a b y) :=
  stable_receiving (fun _ _ h => h.1) y

lemma stable_received (y : String) : (receiving a b y).Stable (Between a b .live .live y) :=
  stable_receiving (fun _ _ h => h.2) y

/-- Both peers keep a live resource live. -/
lemma stable_live (hx : x = a ∨ x = b) : (receiving a b x).Stable (· = .live) := by
  unfold receiving
  split
  · exact Moves.frozen_stable _
  · rename_i ha
    rw [if_pos (hx.resolve_left ha)]
    exact fun _ _ huv hu => huv.2 hu

/-- No tick of the two peers undoes what the delivery to `b` needs or does. -/
lemma tickKeeps_receiving {A : String → Status → Prop}
    (hA : ∀ y, (receiving a b y).Stable (A y)) (hx : x = a ∨ x = b)
    (hdel : ¬A x .deleted) (hab : ¬A a .absent) (hb : A b .live)
    (hother : ∀ y, y ≠ a → y ≠ b → A y .live) : TickKeeps P key (receiving a b) A x := by
  intro selected _ remote _ resource _ _
  refine ⟨hA, stable_live hx, fun _ => hdel, fun _ habs => ?_⟩
  by_cases hrem : remote = a
  · exact absurd (hrem ▸ habs) hab
  by_cases hrem' : remote = b
  · rw [receiving, if_neg hrem, if_pos hrem', hrem']
    exact ⟨⟨fun _ => nofun, nofun⟩, hb⟩
  · rw [receiving, if_neg hrem, if_neg hrem']
    exact ⟨trivial, hother remote hrem hrem'⟩

/-- The offer of `a` makes the resource live at `b`. -/
lemma brings_receiving (hne : a ≠ b) :
    Brings (receiving a b) (Receivable a b) (Between a b .live .live) a b where
  ne := hne
  stable := stable_receivable
  stable' := stable_received
  elsewhere y hy u hu := ⟨hu.1, fun h => absurd h hy⟩
  live := stable_live (.inl rfl)
  known h := nomatch h.1 rfl
  offered deleted u v hflag hu hv := by
    obtain rfl := hu.1 rfl
    have hdel : deleted = false := by
      cases deleted with
      | false => rfl
      | true => nomatch hflag.mp rfl
    subst hdel
    have hoffer : offer false v = .live := by
      cases v with
      | absent => rfl
      | live => rfl
      | deleted => exact absurd rfl (hv.2 rfl)
    rw [hoffer, receiving, if_neg hne.symm, if_pos rfl]
    exact ⟨⟨fun _ => nofun, fun _ => rfl⟩, fun _ => rfl, fun _ => rfl⟩
  accepts h := nomatch h.2 rfl
  undeleted u hu _ := ⟨fun h => h.2 rfl rfl, stable_live (.inr rfl)⟩

variable (hhost : P.host.Reliable) (hcrate : P.crate.Lawful)
include hhost hcrate

/-- The resource stays unknown at `b` if `a` offers nothing to it. -/
lemma Linked.run_still (h : Linked P key a b resource) (hblk : a < b → ¬Offered P key a b)
    (hinit : Ticks.Initial P call a b c) (ha : (c.shared a).status P key = .live)
    (hb : (c.shared b).status P key = .absent) (hrun : Relation.ReflTransGen Ticks.Step c c')
    (hdone : c'.Done) : (c'.shared b).status P key = .absent := by
  have hs : Everywhere P key (Between a b .live .absent) c.shared :=
    fun y => ⟨fun hy => hy ▸ ha, fun hy => hy ▸ hb⟩
  have htick : ∀ i, (synchronizeSelectedPeers P (call i) (if i then a else b)).Under
      (networkContract P key (still a b))
      (fun _ => Everywhere P key (Between a b .live .absent)) c.shared := by
    intro i
    cases i with
    | true =>
      exact takes_tick_keep (call true) hhost hcrate stable_still
        (tickKeeps_still hblk (.inl rfl)) h.spared hs
    | false =>
      exact takes_tick_keep (call false) hhost hcrate stable_still
        (tickKeeps_still hblk (.inr rfl)) h.symm.spared hs
  exact (Ticks.run hinit htick hrun hdone true b).2 rfl

/-- Both have the resource if `a` offers it to `b`. -/
lemma Linked.run_receiving (h : Linked P key a b resource) (hlt : a < b)
    (hoffered : Offered P key a b) (hinit : Ticks.Initial P call a b c)
    (ha : (c.shared a).status P key = .live) (hb : (c.shared b).status P key = .absent)
    (hrun : Relation.ReflTransGen Ticks.Step c c') (hdone : c'.Done) :
    (c'.shared a).status P key = .live ∧ (c'.shared b).status P key = .live := by
  have hs : Everywhere P key (Receivable a b) c.shared := by
    intro y
    refine ⟨fun hy => hy ▸ ha, fun hy => ?_⟩
    rw [hy, hb]
    nofun
  have hkeepsA : ∀ {x}, x = a ∨ x = b → TickKeeps P key (receiving a b) (Receivable a b) x := by
    intro x hx
    refine tickKeeps_receiving stable_receivable hx (fun hdel => ?_) (fun habs => ?_)
      ⟨fun _ => rfl, fun _ => nofun⟩ (fun y hya hyb => ⟨fun _ => rfl, fun _ => nofun⟩)
    · rcases hx with rfl | rfl
      · nomatch hdel.1 rfl
      · exact hdel.2 rfl rfl
    · nomatch habs.1 rfl
  have hkeepsB : TickKeeps P key (receiving a b) (Between a b .live .live) a := by
    refine tickKeeps_receiving stable_received (.inl rfl) (fun hdel => ?_) (fun habs => ?_)
      ⟨fun _ => rfl, fun _ => rfl⟩ (fun y hya hyb => ⟨fun _ => rfl, fun _ => rfl⟩)
    · nomatch hdel.1 rfl
    · nomatch habs.1 rfl
  have hbrings : TickBrings P key (receiving a b) (Receivable a b) (Between a b .live .live) a b := by
    obtain ⟨selected, hselected, entry, hentry, hname, hdeliv⟩ := hoffered
    refine ⟨hkeepsA (.inl rfl), hkeepsB, brings_receiving h.ne, h.connect, h.peers, hlt, selected,
      hselected, entry, hentry, hname, fun deleted u hflag hu => ?_⟩
    cases deleted with
    | false => exact hdeliv
    | true =>
      rw [hu.1 rfl] at hflag
      nomatch hflag.mp rfl
  have htick : ∀ i, (synchronizeSelectedPeers P (call i) (if i then a else b)).Under
      (networkContract P key (receiving a b))
      (fun _ s => if i then Everywhere P key (Between a b .live .live) s
        else Everywhere P key (Receivable a b) s) c.shared := by
    -- the tick of a brings the entry, and the one of b keeps what is there meanwhile
    intro i
    cases i with
    | true => exact takes_tick_bring (call true) hhost hcrate hbrings h.spared hs
    | false =>
      exact takes_tick_keep (call false) hhost hcrate stable_receivable (hkeepsA (.inr rfl))
        h.symm.spared hs
  have hafter : Everywhere P key (Between a b .live .live) c'.shared :=
    Ticks.run hinit htick hrun hdone true
  exact ⟨(hafter a).1 rfl, (hafter b).2 rfl⟩

end

/-- When two peers that both select a resource have run `synchronize_selected_peers`, in any
interleaving, a resource that one of them had is at both exactly if the holder's public key is the
smaller one and, for a database, a handshake about it fits into a frame. -/
theorem synchronizeSelectedPeers_contains {κ φ : Type} {P : Platform κ φ}
    (hhost : P.host.Reliable) (hcrate : P.crate.Lawful) {key : ResourceKey}
    {holder other : String} {resource : SelectedResource}
    (hlinked : Linked P key holder other resource) {call : Bool → ℕ} {c c' : Ticks κ φ}
    (hinitial : Ticks.Initial P call holder other c)
    (hholder : contains P key.kind key.scope resource.resourceId (c.shared holder) = .ok true)
    (hother : contains P key.kind key.scope resource.resourceId (c.shared other) ≠ .ok true)
    (hlive : isTombstoned P key (c.shared holder) ≠ .ok true ∧
      isTombstoned P key (c.shared other) ≠ .ok true)
    (hrun : Relation.ReflTransGen Ticks.Step c c') (hdone : c'.Done) :
    (contains P key.kind key.scope resource.resourceId (c'.shared holder) = .ok true ∧
      contains P key.kind key.scope resource.resourceId (c'.shared other) = .ok true) ↔
      holder < other ∧ (key.kind = .database → Offered P key holder other) := by
  have hoffered : (key.kind = .database → Offered P key holder other) ↔
      Offered P key holder other := by
    refine ⟨fun h => ?_, fun h _ => h⟩
    cases hkind : key.kind with
    | database => exact h hkind
    | fileSystem => exact hlinked.offered hkind
  have hcont := contains_iff hhost hcrate hlinked.named
  have habs : (c.shared other).status P key = .absent := by
    cases hstat : (c.shared other).status P key with
    | absent => rfl
    | live => exact absurd ((hcont _).mpr hstat) hother
    | deleted => exact absurd ((isTombstoned_iff hhost hcrate _).mpr hstat) hlive.2
  have hhas := (hcont _).mp hholder
  rw [hoffered]
  refine (and_congr (hcont _) (hcont _)).trans ⟨fun h => ?_, fun h => ?_⟩
  · by_contra hnot
    have hstill := hlinked.run_still hhost hcrate (fun hlt hoffer => hnot ⟨hlt, hoffer⟩) hinitial
      hhas habs hrun hdone
    rw [hstill] at h
    nomatch h.2
  · exact hlinked.run_receiving hhost hcrate h.1 h.2 hinitial hhas habs hrun hdone

namespace Reference

/-- The peers of the fixture are linked. -/
lemma linked (kind : ResourceKind) :
    Linked platform (key kind) "a" "b" (selectedResource kind) where
  ne := by decide
  kind := rfl
  named := by cases kind <;> decide +kernel
  selected := ⟨_, rfl, by cases kind <;> decide⟩
  selected' := ⟨_, rfl, by cases kind <;> decide⟩
  peers := by decide
  peers' := by decide
  connect := rfl
  connect' := rfl
  authorizes := by cases kind <;> decide +kernel
  authorizes' := by cases kind <;> decide +kernel

/-- The ticks of `x` and `y` are about to start. -/
def atRest (x y : String) (s : Network Entries Id) : Ticks Entries Id where
  shared := s
  threads i := (synchronizeSelectedPeers platform 0 (if i then x else y)).prog

/-- Both have run, one after the other. -/
def ran (x y : String) (s : Network Entries Id) : Ticks Entries Id :=
  (atRest x y s).schedule (List.replicate 60 true ++ List.replicate 60 false)

lemma ran_reachable (x y : String) (s : Network Entries Id) :
    Relation.ReflTransGen Ticks.Step (atRest x y s) (ran x y s) :=
  Config.schedule_reachable _ (.of_forall (fun _ _ => trivial) _ _)

lemma done_of_succeeded {c : Ticks Entries Id} (h : ∀ i, Config.Succeeded (c.threads i) = true) :
    c.Done :=
  fun i => (Config.exists_of_succeeded (h i)).imp' _ fun _ h => h

end Reference

/-- The holder has the smaller key. -/
theorem synchronizeSelectedPeers_contains_reference :
    let c' := ran "a" "b" (network (some false) none)
    (contains platform .fileSystem scope "11" (c'.shared "a") = .ok true ∧
      contains platform .fileSystem scope "11" (c'.shared "b") = .ok true) ↔
      "a" < "b" ∧ ((key .fileSystem).kind = .database →
        Offered platform (key .fileSystem) "a" "b") :=
  synchronizeSelectedPeers_contains host_reliable crate_lawful
    (linked .fileSystem) (fun _ => rfl) (by decide +kernel) (by decide +kernel)
    (by decide +kernel) (ran_reachable _ _ _)
    (done_of_succeeded (by decide +kernel))

/-- The holder has the larger key, and after both have run the other still does not have the
resource, of either kind. -/
theorem synchronizeSelectedPeers_misses : [ResourceKind.database, .fileSystem].Forall fun kind =>
    Linked platform (key kind) "b" "a" (selectedResource kind) ∧
    Relation.ReflTransGen Ticks.Step (atRest "b" "a" (network none (some false)))
      (ran "b" "a" (network none (some false))) ∧
    (ran "b" "a" (network none (some false))).Done ∧
    contains platform kind scope "11"
      (network none (some false) "b") = .ok true ∧
    contains platform kind scope "11"
      (network none (some false) "a") = .ok false ∧
    isTombstoned platform (key kind)
      (network none (some false) "a") = .ok false ∧
    contains platform kind scope "11"
      ((ran "b" "a" (network none (some false))).shared "a") = .ok false := by
  refine List.forall_iff_forall_mem.mpr fun kind hkind => ?_
  refine ⟨(linked kind).symm, ran_reachable _ _ _, done_of_succeeded (by decide +kernel), ?_⟩
  revert kind
  decide +kernel

end LocalPlatform.Storage
