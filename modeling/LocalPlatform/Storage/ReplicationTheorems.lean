import LocalPlatform.Storage.Replication
import LocalPlatform.Storage.StatusTheorems

/-!
# Rounds between peers

The status of one resource at all peers, under contracts that say how each peer's status may move.
A round tells the acceptor what the initiator has, and never the other way around.
-/

namespace LocalPlatform.Storage

open Resumption DatabaseCatalog DatabaseRuntime Option

/-- A resource of either kind. -/
structure ResourceKey where
  kind : ResourceKind
  scope : Namespace
  id : Id
  deriving DecidableEq, Repr

section
variable {κ φ α : Type} (P : Platform κ φ) (key : ResourceKey) {named : Namespace × Id}

/-- What a peer knows about the resource. -/
def Peer.status (peer : Peer κ φ) : Status :=
  match key.kind with
  | .database => DatabaseRuntime.status P.host key.scope key.id peer.databases
  | .fileSystem => FileSystemRuntime.status P.crate key.scope key.id peer.fileSystems

/-- The contract that every peer's status moves as its own moves say. -/
def networkContract (m : String → Moves) : Contract NetworkCall (Network κ φ) where
  rely s s' := ∀ y, (m y).rel ((s y).status P key) ((s' y).status P key)
  guarantee s s' := ∀ y, (m y).rel ((s y).status P key) ((s' y).status P key)
  guard _ _ := True
  refl _ y := (m y).refl _
  trans h h' y := (m y).trans (h y) (h' y)

/-- Every peer's status meets its condition. -/
def Everywhere (A : String → Status → Prop) (s : Network κ φ) : Prop :=
  ∀ y, A y ((s y).status P key)

/-- No peer's status changes. -/
def SameStatus (s s' : Network κ φ) : Prop := ∀ y, (s' y).status P key = (s y).status P key

variable {P key} {m : String → Moves} {A : String → Status → Prop} {s : Network κ φ}
  {x : String}

/-- What is stable at each peer is stable in the network. -/
lemma stable_everywhere (hA : ∀ y, (m y).Stable (A y)) :
    (networkContract P key m).Stable (Everywhere P key A) :=
  fun _ _ hs h y => hA y _ _ (hs y) (h y)

/-- The task takes the conditions `A` on all peers to `B`. -/
def Takes {ε : Type} (P : Platform κ φ) (key : ResourceKey) (m : String → Moves)
    (A B : String → Status → Prop) (t : Task NetworkCall (Network κ φ) ε α) : Prop :=
  ∀ ⦃s⦄, Everywhere P key A s → t.Under (networkContract P key m) (fun _ => Everywhere P key B) s

/-- A task that changes no status keeps everything. -/
lemma takes_of_sameStatus {ε : Type} {t : Task NetworkCall (Network κ φ) ε α}
    (hA : ∀ y, (m y).Stable (A y)) (ht : t.Within (SameStatus P key)) : Takes P key m A A t := by
  refine fun s hs => .of_within (stable_everywhere hA) (fun s s' hss' => ⟨?_, ?_⟩) ht hs
  · intro y
    rw [hss' y]
    exact (m y).refl _
  · intro h y
    rw [hss' y]
    exact h y

/-- Calls of the database runtime do not touch filesystems. -/
lemma within_onDatabases (hkind : key.kind = .fileSystem)
    (t : Task DatabaseCall Databases IoError α) :
    (onDatabases x t : Task NetworkCall (Network κ φ) IoError α).Within (SameStatus P key) := by
  refine .zoom_any (fun s u y => ?_) _ t
  by_cases hy : y = x
  · subst hy
    simp [Peer.status, hkind, databasesOf]
  · simp [databasesOf, hy]

/-- Calls of the filesystem runtime do not touch databases. -/
lemma within_onFileSystems (hkind : key.kind = .database) (t : FileSystemRuntime.Runtime κ φ α) :
    (onFileSystems x t).Within (SameStatus P key) := by
  refine .zoom_any (fun s u y => ?_) _ t
  by_cases hy : y = x
  · subst hy
    simp [Peer.status, hkind, fileSystemsOf]
  · simp [fileSystemsOf, hy]

/-- Every peer but `x` meets its condition. -/
def Elsewhere (P : Platform κ φ) (key : ResourceKey) (x : String) (A : String → Status → Prop)
    (s : Network κ φ) : Prop :=
  ∀ y, y ≠ x → A y ((s y).status P key)

lemma Everywhere.elsewhere (hs : Everywhere P key A s) (x : String) : Elsewhere P key x A s :=
  fun y _ => hs y

lemma Elsewhere.everywhere (hs : Elsewhere P key x A s) (hx : A x ((s x).status P key)) :
    Everywhere P key A s := by
  intro y
  by_cases hy : y = x
  · exact hy ▸ hx
  · exact hs y hy

/-- A lens on the part of a peer that its status of the resource is read from. -/
structure Holds {τ : Type} (P : Platform κ φ) (key : ResourceKey) (x : String)
    (L : Lens (Network κ φ) τ) (status : τ → Status) : Prop where
  own : ∀ s, (s x).status P key = status (L.get s)
  other : ∀ s t y, y ≠ x → L.put t s y = s y

lemma holds_databases (hkind : key.kind = .database) (x : String) :
    Holds P key x (databasesOf x) (status P.host key.scope key.id) where
  own s := by
    rw [Peer.status, hkind]
    rfl
  other s d y hy := by simp [databasesOf, hy]

lemma holds_fileSystems (hkind : key.kind = .fileSystem) (x : String) :
    Holds P key x (fileSystemsOf x) (FileSystemRuntime.status P.crate key.scope key.id) where
  own s := by
    rw [Peer.status, hkind]
    rfl
  other s d y hy := by simp [fileSystemsOf, hy]

namespace Holds

variable {ℓ τ ε : Type} {L : Lens (Network κ φ) τ} {status : τ → Status} {f : ℓ → NetworkCall}
  {t : Task ℓ τ ε α} {B : String → Status → Prop} (hL : Holds P key x L status)
include hL

lemma everywhere (hs : Everywhere P key A s) : A x (status (L.get s)) := hL.own s ▸ hs x

/-- A call of the runtime that the status is read from. -/
lemma under {Q : Except ε α → Status → Prop} (hA : ∀ y, y ≠ x → (m y).Stable (A y))
    (ht : t.Under ((m x).contract status) (fun r d => Q r (status d)) (L.get s))
    (hs : Elsewhere P key x A s) :
    (t.zoom f L).Under (networkContract P key m)
      (fun r s => Q r ((s x).status P key) ∧ Elsewhere P key x A s) s := by
  refine ⟨.mono (fun r s h => ?_) (.zoom ?_ ?_ ?_ ?_ ?_ ht.steps hs)⟩
  · rw [hL.own]
    exact h
  · intro s s' hss'
    have hx := hss' x
    rw [hL.own, hL.own] at hx
    exact hx
  · exact fun _ _ _ => trivial
  · intro s d hd y
    by_cases hy : y = x
    · subst hy
      rw [hL.own, hL.own, L.get_put]
      exact hd
    · rw [hL.other s d y hy]
      exact (m y).refl _
  · exact fun _ _ hs h y hy => hA y hy _ _ (hs y) (h y hy)
  · intro s d h y hy
    rw [hL.other s d y hy]
    exact h y hy

/-- A call that takes the status from `A` to `B`. -/
lemma takes_call (hB : ∀ y, (m y).Stable (B y)) (hAB : ∀ y, y ≠ x → ∀ u, A y u → B y u)
    (ht : (m x).Leads status (A x) t fun _ => B x) : Takes P key m A B (t.zoom f L) :=
  fun _ hs => .mono (fun _ _ h => h.2.everywhere h.1)
    (hL.under (fun y _ => hB y) (ht (hL.everywhere hs)) fun y hy => hAB y hy _ (hs y))

variable (hA : ∀ y, (m y).Stable (A y))
include hA

/-- A look for a tombstone of `named`. -/
lemma under_asking (named : Namespace × Id) {t : Task ℓ τ ε Bool}
    (ht : (m x).Leads status (A x) t fun r u => A x u ∧
      ((named.1 = key.scope ∧ named.2 = key.id) → ∃ u, A x u ∧ Tells r u))
    (hs : Everywhere P key A s) :
    (t.zoom f L).Under (networkContract P key m) (fun r s => Everywhere P key A s ∧
      (named = (key.scope, key.id) → ∃ u, A x u ∧ Tells r u)) s := by
  refine .mono (fun r s h => ⟨h.2.everywhere h.1.1, fun hnamed => h.1.2 ?_⟩)
    (hL.under (Q := fun r u => A x u ∧ ((named.1 = key.scope ∧ named.2 = key.id) →
      ∃ u, A x u ∧ Tells r u)) (fun y _ => hA y) (ht (hL.everywhere hs)) (hs.elsewhere x))
  exact Prod.ext_iff.mp hnamed

end Holds

/-! ## The abstract round -/

/-- What a round delivers leaves the conditions alone: it is no tombstone that the initiator could
know, and the acceptor's condition survives the offer of a resource. -/
structure Keeps (delivers : Bool → Prop) (m : String → Moves) (A : String → Status → Prop)
    (initiator acceptor : String) : Prop where
  stable : ∀ y, (m y).Stable (A y)
  live : (m initiator).Stable (· = .live)
  tombstone : delivers true → ¬A initiator .deleted
  accepts : delivers false → A acceptor .absent →
    (m acceptor).rel .absent .live ∧ A acceptor .live

/-- The initiator knows the resource, and its offer takes the acceptor from `A` to `B`. -/
structure Brings (m : String → Moves) (A B : String → Status → Prop)
    (initiator acceptor : String) : Prop where
  ne : initiator ≠ acceptor
  stable : ∀ y, (m y).Stable (A y)
  stable' : ∀ y, (m y).Stable (B y)
  elsewhere : ∀ y, y ≠ acceptor → ∀ u, A y u → B y u
  live : (m initiator).Stable (· = .live)
  known : ¬A initiator .absent
  offered : ∀ deleted u v, (deleted = true ↔ u = .deleted) → A initiator u → A acceptor v →
    (m acceptor).rel v (offer deleted v) ∧ B acceptor (offer deleted v)
  accepts : B acceptor .absent → (m acceptor).rel .absent .live ∧ B acceptor .live
  undeleted : ∀ u, A initiator u → u ≠ .deleted →
    ¬A acceptor .deleted ∧ (m acceptor).Stable (· = .live)

/-- What a round takes from `A` to `B`: what is delivered is offered to the acceptor, and where
nothing is, its condition holds already. -/
structure Transfer (delivers : Bool → Prop) (m : String → Moves) (A B : String → Status → Prop)
    (initiator acceptor : String) : Prop where
  stable : ∀ y, (m y).Stable (A y)
  stable' : ∀ y, (m y).Stable (B y)
  elsewhere : ∀ y, y ≠ acceptor → ∀ u, A y u → B y u
  live : (m initiator).Stable (· = .live)
  offered : ∀ u, A initiator u → delivers (decide (u = .deleted)) →
    (m acceptor).Offers (decide (u = .deleted)) (A acceptor) (B acceptor)
  idle : ∀ u, A initiator u → u = .absent ∨ ¬delivers (decide (u = .deleted)) →
    ∀ v, A acceptor v → B acceptor v
  accepts : delivers false → B acceptor .absent →
    (m acceptor).rel .absent .live ∧ B acceptor .live

section
variable {delivers : Bool → Prop} {connects : Prop} {B : String → Status → Prop}
  {initiator acceptor : String}

/-- A round keeps what a delivery keeps. -/
lemma Keeps.round (h : Keeps delivers m A initiator acceptor) :
    Transfer (fun deleted => connects ∧ delivers deleted) m A A initiator acceptor where
  stable := h.stable
  stable' := h.stable
  elsewhere _ _ _ hu := hu
  live := h.live
  idle _ _ _ _ hv := hv
  accepts hd := h.accepts hd.2
  offered u hu hd := by
    by_cases hdel : u = .deleted
    · subst hdel
      exact absurd hu (h.tombstone hd.2)
    · rw [decide_eq_false hdel] at hd ⊢
      exact Moves.offers_keep (h.accepts hd.2)

/-- A round that connects brings what a delivery brings. -/
lemma Brings.round (h : Brings m A B initiator acceptor) (hconnects : connects)
    (hdeliv : ∀ deleted u, (deleted = true ↔ u = .deleted) → A initiator u →
      delivers deleted) :
    Transfer (fun deleted => connects ∧ delivers deleted) m A B initiator acceptor where
  stable := h.stable
  stable' := h.stable'
  elsewhere := h.elsewhere
  live := h.live
  accepts _ := h.accepts
  offered u hu _ v hv := h.offered _ u v decide_eq_true_iff hu hv
  idle u hu hidle := by
    rcases hidle with rfl | hnot
    · exact absurd hu h.known
    · exact absurd ⟨hconnects, hdeliv _ u decide_eq_true_iff hu⟩ hnot

namespace Transfer

variable (h : Transfer delivers m A B initiator acceptor) {deleted : Bool} {about : Prop}
include h

lemma everywhere (hs : Everywhere P key A s) (hidle : ∀ v, A acceptor v → B acceptor v) :
    Everywhere P key B s :=
  Elsewhere.everywhere (fun y hy => h.elsewhere y hy _ (hs y)) (hidle _ (hs acceptor))

/-- A round that is not about the resource, or does not get through. -/
lemma undelivered (hs : Everywhere P key A s) (hnot : ¬delivers deleted)
    (habout : ∀ deleted, delivers deleted → about)
    (htold : about → ∃ u, A initiator u ∧ deleted = decide (u = .deleted)) :
    ∀ v, A acceptor v → B acceptor v := by
  by_cases hres : about
  · obtain ⟨u, hu, rfl⟩ := htold hres
    exact h.idle u hu (.inr hnot)
  · exact h.idle _ (hs initiator) (.inr fun hd => hres (habout _ hd))

/-- The initiator could not ask for its own tombstone. -/
lemma unasked (hs : Everywhere P key A s) (habout : ∀ deleted, delivers deleted → about)
    (habs : about → ∃ u, A initiator u ∧ u = .absent) : Everywhere P key B s := by
  refine h.everywhere hs ?_
  by_cases hres : about
  · obtain ⟨u, hu, rfl⟩ := habs hres
    exact h.idle _ hu (.inl rfl)
  · exact h.idle _ (hs initiator) (.inr fun hd => hres (habout _ hd))

end Transfer

end

/-! ## Database rounds -/

namespace DatabaseProtocol

variable {call : ℕ} {initiator acceptor : String} {resource : Descriptor}

/-- An authorized descriptor names a resource. -/
lemma exists_key_of_authorize {source target : String}
    (h : authorize P source target resource = true) :
    ∃ named, DatabaseProtocol.key P resource = some named := by
  unfold authorize Storage.authorize at h
  have hsome : (DatabaseProtocol.key P resource).isSome = true := by
    simp only [Bool.and_eq_true] at h
    exact h.1.1
  exact isSome_iff_exists.mp hsome

/-- A handshake about the resource gets through to the acceptor. -/
def Delivers (P : Platform κ φ) (key : ResourceKey) (initiator acceptor : String)
    (resource : Descriptor) (deleted : Bool) : Prop :=
  DatabaseProtocol.key P resource = some (key.scope, key.id) ∧
    authorize P initiator acceptor resource = true ∧
    authorize P acceptor initiator resource = true ∧
    P.handshakeLength resource deleted ≤ maxHandshakeBytes

variable {B : String → Status → Prop} (hkind : key.kind = .database) (hhost : P.host.Reliable)

section
variable (h : Transfer (fun deleted => P.connect initiator acceptor = .ok () ∧
  Delivers P key initiator acceptor resource deleted) m A B initiator acceptor)
include hkind hhost h

/-- The acceptor's part. -/
lemma takes_acceptStream {deleted : Bool} (hconn : P.connect initiator acceptor = .ok ())
    (hini : authorize P initiator acceptor resource = true)
    (hsize : P.handshakeLength resource deleted ≤ maxHandshakeBytes)
    (htold : DatabaseProtocol.key P resource = some (key.scope, key.id) →
      ∃ u, A initiator u ∧ deleted = decide (u = .deleted))
    (hinv : ¬(catalogPath P.host.uuid key.scope).isOk → ∀ v, A acceptor v → B acceptor v) :
    Takes P key m A B (acceptStream P call acceptor initiator resource deleted) := by
  intro s hs
  have hstab : (networkContract P key m).Stable (Everywhere P key B) :=
    stable_everywhere h.stable'
  -- a stream that is refused or names another resource leaves this one as it is
  have hidle : ¬(authorize P acceptor initiator resource = true ∧
      DatabaseProtocol.key P resource = some (key.scope, key.id)) →
      ∀ v, A acceptor v → B acceptor v :=
    fun hno => h.undelivered hs (fun hd => hno ⟨hd.2.2.2.1, hd.2.1⟩) (fun _ hd => hd.2.1) htold
  unfold acceptStream
  cases hacr : authorize P acceptor initiator resource with
  | false => exact .pure hstab (h.everywhere hs (hidle (by simp [hacr])))
  | true =>
    obtain ⟨⟨scope, id⟩, hnamed⟩ := exists_key_of_authorize hacr
    have hother : ¬((scope, id) = (key.scope, key.id) ∧ (catalogPath P.host.uuid key.scope).isOk) →
        ∀ v, A acceptor v → B acceptor v := by
      intro hno
      by_cases hvalid : (catalogPath P.host.uuid key.scope).isOk
      · refine hidle fun hyes => hno ⟨some.inj (hnamed.symm.trans hyes.2), hvalid⟩
      · exact hinv hvalid
    have hown : (scope, id) = (key.scope, key.id) → P.connect initiator acceptor = .ok () ∧
        Delivers P key initiator acceptor resource deleted :=
      fun hkey => ⟨hconn, hkey ▸ hnamed, hini, hacr, hsize⟩
    have hoffers : (scope, id) = (key.scope, key.id) →
        (m acceptor).Offers deleted (A acceptor) (B acceptor) := by
      intro hkey
      obtain ⟨u, hu, rfl⟩ := htold (hkey ▸ hnamed)
      exact h.offered u hu (hown hkey)
    have hL := holds_databases (P := P) hkind acceptor
    rw [hnamed]
    cases deleted with
    | true =>
      refine .handle (hL.takes_call h.stable' h.elsewhere (leads_applyTombstone hhost
        (h.stable _) (h.stable' _) hother hoffers) hs) fun r s hs => ?_
      cases r with
      | ok u => exact .pure hstab hs
      | error e => exact .pure hstab hs
    | false =>
      refine .handle (hL.takes_call h.stable' h.elsewhere (leads_openSelected hhost
        (h.stable _) (h.stable' _) (registers_of_offers hother hoffers)) hs) fun r s hs => ?_
      split
      · refine .handle (hL.takes_call h.stable' (fun _ _ _ h => h) (leads_openKvSelected hhost
          (h.stable' _) (h.stable' _) (registers_keep fun hkey => h.accepts (hown hkey))) hs)
          fun r s hs => ?_
        split
        · exact .pure hstab hs
        · exact .pure hstab hs
      · exact .pure hstab hs

end

include hkind hhost

variable {scope : Namespace} {id : Id}

/-- The initiator's own part after the acknowledgement leaves every status as it is: it opens the
database only if it is live. -/
lemma under_opening (hA : ∀ y, (m y).Stable (A y))
    (hlive : (m initiator).Stable (· = .live)) (hs : Everywhere P key A s)
    {f : IoError → IoError} :
    ((onDatabases initiator (DatabaseRuntime.open P.host call scope id)).mapError f).Under
      (networkContract P key m) (fun r s => Everywhere P key A s ∧ ∀ handle,
        r = .ok (some handle) → (scope = key.scope ∧ id = key.id) →
          (s initiator).status P key = .live) s := by
  have hL := holds_databases (P := P) hkind initiator
  exact .mapError (.mono (fun r s h => ⟨h.2.everywhere h.1.1, fun handle hr hnamed =>
      h.1.2 hnamed handle (except_mapError_ok.mp hr)⟩) (hL.under
    (Q := fun r u => A initiator u ∧ ((scope = key.scope ∧ id = key.id) →
      ∀ handle, r = .ok (some handle) → u = .live)) (fun y _ => hA y)
    (leads_open hhost (hA initiator) hlive (hL.everywhere hs))
    (hs.elsewhere initiator)))

lemma under_openingKv (hA : ∀ y, (m y).Stable (A y)) (hlive : (m initiator).Stable (· = .live))
    (hs : Everywhere P key A s ∧ ((scope = key.scope ∧ id = key.id) →
      (s initiator).status P key = .live)) :
    (onDatabases initiator (openKvSelected P.host call scope id)).Under
      (networkContract P key m) (fun _ => Everywhere P key A) s := by
  -- a live database that is registered again stays live, and others are not concerned
  have hL : (m initiator).Stable fun u => A initiator u ∧
      ((scope = key.scope ∧ id = key.id) → u = .live) :=
    fun u v huv hu => ⟨hA initiator u v huv hu.1, fun hnamed => hlive u v huv (hu.2 hnamed)⟩
  have hstat := holds_databases (P := P) hkind initiator
  have hown := hs.2
  rw [hstat.own] at hown
  refine .mono (fun _ _ h => h.2.everywhere h.1.1) (hstat.under
    (Q := fun _ u => A initiator u ∧ ((scope = key.scope ∧ id = key.id) → u = .live))
    (fun y _ => hA y) (leads_openKvSelected hhost hL hL (registers_keep fun hnamed habs => ?_)
      ⟨hstat.everywhere hs.1, hown⟩) (hs.1.elsewhere initiator))
  obtain ⟨hscope, hid⟩ := Prod.ext_iff.mp hnamed
  cases habs.2 ⟨hscope, hid⟩

/-- A round tells the acceptor what the initiator has. -/
lemma takes_round {B : String → Status → Prop}
    (h : Transfer (fun deleted => P.connect initiator acceptor = .ok () ∧
      Delivers P key initiator acceptor resource deleted) m A B initiator acceptor) :
    Takes P key m A B (synchronizePeer P call initiator acceptor resource) := by
  intro s hs
  have hstab : (networkContract P key m).Stable (Everywhere P key B) :=
    stable_everywhere h.stable'
  have hL := holds_databases (P := P) hkind initiator
  have hblk : (∀ deleted, ¬(P.connect initiator acceptor = .ok () ∧
      Delivers P key initiator acceptor resource deleted)) → Everywhere P key B s :=
    fun hnot => h.everywhere hs (h.idle _ (hs initiator) (.inr (hnot _)))
  -- without a directory the initiator does not know the resource
  have hinv : ¬(catalogPath P.host.uuid key.scope).isOk → ∀ v, A acceptor v → B acceptor v := by
    intro hinv
    refine h.idle _ (hL.everywhere hs) (.inl (by_contra fun hknown => ?_))
    obtain ⟨path, hpath⟩ := exists_path_of_status hknown
    exact hinv (hpath ▸ rfl)
  unfold synchronizePeer
  cases hconn : P.connect initiator acceptor with
  | error e => exact .lift hstab (hblk (by simp [hconn]))
  | ok _ =>
  cases hini : authorize P initiator acceptor resource with
  | false => exact .lift hstab (hblk (by simp [Delivers, hini]))
  | true =>
  obtain ⟨⟨scope, id⟩, hnamed⟩ := exists_key_of_authorize hini
  rw [hnamed]
  have habout : ∀ deleted, (P.connect initiator acceptor = .ok () ∧
      Delivers P key initiator acceptor resource deleted) → (scope, id) = (key.scope, key.id) :=
    fun _ hd => some.inj (hnamed.symm.trans hd.2.1)
  change Task.Under _ _ (onDatabases initiator (isTombstoned P.host scope id) >>= _) s
  refine .bind (hL.under_asking h.stable (scope, id) (leads_isTombstoned hhost (h.stable _)) hs) ?_ ?_
  swap
  · rintro e s ⟨hs, htells⟩
    refine h.unasked hs habout fun hkey => ?_
    obtain ⟨u, hu, htells⟩ := htells hkey
    exact ⟨u, hu, htells.2 e rfl⟩
  rintro deleted s ⟨hs, htells⟩
  have htold : (scope, id) = (key.scope, key.id) →
      ∃ u, A initiator u ∧ deleted = decide (u = .deleted) := by
    intro hkey
    obtain ⟨u, hu, htells⟩ := htells hkey
    exact ⟨u, hu, htells.flag⟩
  by_cases hlen : maxHandshakeBytes < P.handshakeLength resource deleted
  · rw [decide_eq_true hlen]
    refine .lift hstab (h.everywhere hs (h.undelivered hs (fun hd => ?_) habout htold))
    exact Nat.not_le_of_lt hlen hd.2.2.2.2
  rw [decide_eq_false hlen]
  change Task.Under _ _ (acceptStream P call acceptor initiator resource deleted >>= _) s
  refine .bind (takes_acceptStream hkind hhost h hconn hini (Nat.le_of_not_lt hlen)
    (fun hkey => htold (some.inj (hnamed.symm.trans hkey))) hinv hs)
    (fun acknowledged s hs => ?_) (fun e s h => h)
  cases acknowledged with
  | false => exact .lift hstab hs
  | true =>
    cases deleted with
    | true => exact .pure hstab hs
    | false =>
      change Task.Under _ _ ((onDatabases initiator
        (DatabaseRuntime.open P.host call scope id)).mapError _ >>= _) s
      refine .bind (under_opening hkind hhost h.stable' h.live hs) ?_ (fun e s h => h.1)
      rintro found s ⟨hs, hlive⟩
      cases found with
      | none => exact .lift hstab hs
      | some handle =>
        change Task.Under _ _ ((onDatabases initiator
          (openKvSelected P.host call scope id)).mapError _ >>= _) s
        refine .bind (P := fun _ => Everywhere P key B) (.mapError
          (under_openingKv hkind hhost h.stable' h.live ⟨hs, hlive handle rfl⟩))
          (fun kvStore s hs => ?_) (fun e s h => h)
        cases kvStore with
        | none => exact .lift hstab hs
        | some _ => exact .pure hstab hs

end DatabaseProtocol

end

end LocalPlatform.Storage
