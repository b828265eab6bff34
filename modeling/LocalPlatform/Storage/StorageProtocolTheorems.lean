import LocalPlatform.Storage.ReplicationTheorems

/-!
# Filesystem rounds

The filesystem protocol offers what the database protocol offers: a tombstone, or else the
resource if the acceptor does not know it.
-/

namespace LocalPlatform.Storage

open Resumption FileSystemRuntime

section
variable {κ φ : Type} {P : Platform κ φ} {key : ResourceKey} {m : String → Moves}
  {A B : String → Status → Prop} {s : Network κ φ} {x : String}

namespace StorageProtocol

variable {call : ℕ} {initiator acceptor : String} {resource : Descriptor}

/-- A stream about the resource gets through to the acceptor. -/
def Delivers (P : Platform κ φ) (key : ResourceKey) (initiator acceptor : String)
    (resource : Descriptor) : Prop :=
  StorageProtocol.key P resource = some (key.scope, key.id) ∧
    authorize P initiator acceptor resource = true ∧
    authorize P acceptor initiator resource = true

variable (hkind : key.kind = .fileSystem) (hcrate : P.crate.Lawful)
include hkind hcrate

/-- Opening a filesystem changes no status. -/
lemma takes_opening {scope : Namespace} {id : Id} (hA : ∀ y, (m y).Stable (A y)) :
    Takes P key m A A (onFileSystems x (openResource P.crate call scope id)) :=
  (holds_fileSystems hkind x).takes_call hA (fun _ _ _ h => h)
    (leads_sameCatalogs (hA x) (within_openResource hcrate))

variable (h : Transfer (fun _ => P.connect initiator acceptor = .ok () ∧
  Delivers P key initiator acceptor resource) m A B initiator acceptor)
include h

/-- The acceptor's part. -/
lemma takes_acceptStream {deleted : Bool} (hconn : P.connect initiator acceptor = .ok ())
    (hini : authorize P initiator acceptor resource = true)
    (htold : StorageProtocol.key P resource = some (key.scope, key.id) →
      ∃ u, A initiator u ∧ deleted = decide (u = .deleted))
    (hinv : ¬(storageNamespaceId key.scope).isOk → ∀ v, A acceptor v → B acceptor v) :
    Takes P key m A B (acceptStream P call acceptor initiator resource deleted) := by
  intro s hs
  have hstab : (networkContract P key m).Stable (Everywhere P key B) :=
    stable_everywhere h.stable'
  -- a stream that is refused or names another resource leaves this one as it is
  have hidle : ¬(authorize P acceptor initiator resource = true ∧
      StorageProtocol.key P resource = some (key.scope, key.id)) →
      ∀ v, A acceptor v → B acceptor v :=
    fun hno => h.undelivered hs (fun hd => hno ⟨hd.2.2.2, hd.2.1⟩) (fun _ hd => hd.2.1) htold
  unfold acceptStream
  cases hacr : authorize P acceptor initiator resource with
  | false => exact .pure hstab (h.everywhere hs (hidle (by simp [hacr])))
  | true =>
  cases hnamed : StorageProtocol.key P resource with
  | none => exact .pure hstab (h.everywhere hs (hidle (by simp [hnamed])))
  | some named =>
    obtain ⟨scope, id⟩ := named
    have hother : ¬((scope, id) = (key.scope, key.id) ∧ (storageNamespaceId key.scope).isOk) →
        ∀ v, A acceptor v → B acceptor v := by
      intro hno
      by_cases hvalid : (storageNamespaceId key.scope).isOk
      · exact hidle fun hyes => hno ⟨Option.some.inj (hnamed.symm.trans hyes.2), hvalid⟩
      · exact hinv hvalid
    have hoffers : (scope, id) = (key.scope, key.id) →
        (m acceptor).Offers deleted (A acceptor) (B acceptor) := by
      intro hkey
      obtain ⟨u, hu, rfl⟩ := htold (hkey ▸ hnamed)
      exact h.offered u hu ⟨hconn, hkey ▸ hnamed, hini, hacr⟩
    have hL := holds_fileSystems (P := P) hkind acceptor
    cases deleted with
    | true =>
      exact .handle (hL.takes_call h.stable' h.elsewhere (leads_applyDeletionTombstone hcrate
        (h.stable _) (h.stable' _) hother hoffers) hs) fun r s hs => .pure hstab hs
    | false =>
      refine .handle (hL.takes_call h.stable' h.elsewhere (leads_registerSelectedResource hcrate
        (h.stable _) (h.stable' _) hother hoffers) hs) fun r s hs => ?_
      cases r with
      | error e => exact .pure hstab hs
      | ok u =>
        exact .handle (takes_opening hkind hcrate h.stable' hs) fun r s hs => .pure hstab hs

/-- A round tells the acceptor what the initiator has. -/
lemma takes_round : Takes P key m A B (synchronizePeer P call initiator acceptor resource) := by
  intro s hs
  have hstab : (networkContract P key m).Stable (Everywhere P key B) :=
    stable_everywhere h.stable'
  have hL := holds_fileSystems (P := P) hkind initiator
  -- in an invalid namespace the initiator does not know the resource
  have hinv : ¬(storageNamespaceId key.scope).isOk → ∀ v, A acceptor v → B acceptor v := by
    intro hinv
    refine h.idle _ (hL.everywhere hs) (.inl (by_contra fun hknown => ?_))
    exact hinv (storageNamespaceId_of_status hknown ▸ rfl)
  unfold synchronizePeer
  cases hnamed : StorageProtocol.key P resource with
  | none =>
    refine .lift hstab (h.everywhere hs (h.idle _ (hs initiator) (.inr fun hd => ?_)))
    cases hnamed.symm.trans hd.2.1
  | some named =>
  obtain ⟨scope, id⟩ := named
  have habout : Bool → (P.connect initiator acceptor = .ok () ∧
      Delivers P key initiator acceptor resource) → (scope, id) = (key.scope, key.id) :=
    fun _ hd => Option.some.inj (hnamed.symm.trans hd.2.1)
  change Task.Under _ _ (onFileSystems initiator (isTombstoned P.crate scope id) >>= _) s
  refine .bind (hL.under_asking h.stable (scope, id) (leads_isTombstoned hcrate (h.stable _)) hs)
    ?_ ?_
  swap
  · rintro e s ⟨hs, htells⟩
    refine h.unasked hs habout fun hkey => ?_
    obtain ⟨u, hu, htells⟩ := htells hkey
    exact ⟨u, hu, htells.2 e rfl⟩
  rintro deleted s ⟨hs, htells⟩
  have htold : (scope, id) = (key.scope, key.id) →
      ∃ u, A initiator u ∧ deleted = decide (u = .deleted) := by
    intro hkey
    obtain ⟨u, hu, htells⟩ := htells hkey
    exact ⟨u, hu, htells.flag⟩
  have hblk : ¬(P.connect initiator acceptor = .ok () ∧
      authorize P initiator acceptor resource = true) → Everywhere P key B s := fun hno =>
    h.everywhere hs (h.undelivered hs (fun hd => hno ⟨hd.1, hd.2.2.1⟩) habout htold)
  cases hconn : P.connect initiator acceptor with
  | error e => exact .lift hstab (hblk (by simp [hconn]))
  | ok _ =>
  cases hini : authorize P initiator acceptor resource with
  | false => exact .lift hstab (hblk (by simp [hini]))
  | true =>
  change Task.Under _ _ (acceptStream P call acceptor initiator resource deleted >>= _) s
  refine .bind (takes_acceptStream hkind hcrate h hconn hini
    (fun hkey => htold (Option.some.inj (hnamed.symm.trans hkey))) hinv hs)
    (fun accepted s hs => ?_) (fun e s h => h)
  cases accepted with
  | false => exact .lift hstab hs
  | true =>
    cases deleted with
    | true => exact .pure hstab hs
    | false =>
      change Task.Under _ _ (onFileSystems initiator (openResource P.crate call scope id) >>= _) s
      exact .bind (takes_opening hkind hcrate h.stable' hs) (fun _ s hs => .pure hstab hs)
        (fun e s h => h)

end StorageProtocol

end

end LocalPlatform.Storage
