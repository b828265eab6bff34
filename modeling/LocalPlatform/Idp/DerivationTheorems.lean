import LocalPlatform.Idp.LookupTheorems
import LocalPlatform.Idp.Reference

/-!
# Derivation along paths

Keys are derived child by child, so a derivation to a longer path may stop at any path on the way,
and the keys of a ring stay derivations of its root when missing ones are filled in. A key checks
its descendants by deriving them again, from the public key alone where no step is hardened.
-/

namespace LocalPlatform.Idp

open Resumption DerivedKey Except

/-! ## Checking descendants -/

/-- `verify_derived_key` -/
def DerivedKey.verifyDerivedKey (L : Libraries) (k child : DerivedKey) : Except String Bool :=
  if child.derivationPath.length < k.derivationPath.length then pure false
  else if !(k.derivationPath.isPrefixOf child.derivationPath) then pure false
  else do
    let key ← (child.derivationPath.drop k.derivationPath.length).foldlM L.deriveChild k.key
    pure (L.privateScalar key == L.privateScalar child.key)

/-- The functions on extended public keys, which stand for their bytes. -/
structure PublicDerivation where
  /-- `XPrv::public_key` -/
  publicKey : Bytes → Bytes
  /-- `XPub::derive_child` -/
  deriveChild : Bytes → ChildNumber → Except String Bytes
  /-- `XPub::public_key` -/
  verifyingKey : Bytes → Bytes

/-- The loop of `verify_ecdsa_key`. Public keys have no hardened children. -/
def PublicDerivation.deriveAll (X : PublicDerivation) : Bytes → List ChildNumber → Option Bytes
  | xpub, [] => some xpub
  | xpub, child :: steps =>
    if child.hardened then none
    else match X.deriveChild xpub child with
      | .ok next => X.deriveAll next steps
      | .error _ => none

/-- `verify_ecdsa_key` -/
def DerivedKey.verifyEcdsaKey (L : Libraries) (X : PublicDerivation) (k : DerivedKey)
    (path : String) (child : Bytes) : Except String Bool := do
  let childPath ← L.parseDerivationPath path
  if childPath.length ≤ k.derivationPath.length then pure false
  else if !(k.derivationPath.isPrefixOf childPath) then pure false
  else match X.deriveAll (X.publicKey k.key) (childPath.drop k.derivationPath.length) with
    | some xpub => pure (X.verifyingKey xpub == child)
    | none => pure false

/-- Every child can be derived. -/
def Libraries.DerivesChildren (L : Libraries) : Prop :=
  ∀ key child, ∃ key', L.deriveChild key child = .ok key'

/-- Private and public derivation agree on steps that are not hardened. -/
def PublicDerivation.Agrees (X : PublicDerivation) (L : Libraries) : Prop :=
  ∀ key child key', child.hardened = false → L.deriveChild key child = .ok key' →
    X.deriveChild (X.publicKey key) child = .ok (X.publicKey key')

/-! ## Derivation in stages -/

section
variable {L : Libraries} {k derived child : DerivedKey} {path : DerivationPath}

/-- Below its own path a key is derived step by step. -/
lemma DerivedKey.deriveAlong_append (k : DerivedKey) (steps : List ChildNumber) :
    k.deriveAlong L (k.derivationPath ++ steps) =
      steps.foldlM L.deriveChild k.key >>= fun key => pure ⟨key, k.derivationPath ++ steps⟩ := by
  have hlen : ¬(k.derivationPath ++ steps).length < k.derivationPath.length := by simp
  unfold deriveAlong
  simp

/-- A derivation goes from a path to one that extends it. -/
lemma DerivedKey.deriveAlong_path (h : k.deriveAlong L path = .ok derived) :
    k.derivationPath <+: path ∧ derived.derivationPath = path := by
  unfold deriveAlong at h
  split_ifs at h with hlen hpref
  obtain ⟨_, -, hder⟩ := except_bind_ok.mp h
  obtain rfl := ok.inj hder
  have hpref : k.derivationPath.isPrefixOf path = true := by simpa using hpref
  exact ⟨List.isPrefixOf_iff_prefix.mp hpref, rfl⟩

/-- Deriving to a path on the way first makes no difference. -/
lemma DerivedKey.deriveAlong_trans {mid : DerivationPath} (hmid : k.derivationPath <+: mid)
    (hpath : mid <+: path) :
    (k.deriveAlong L mid >>= fun stage => stage.deriveAlong L path) = k.deriveAlong L path := by
  obtain ⟨steps, rfl⟩ := hmid
  obtain ⟨more, rfl⟩ := hpath
  have hstage (key : Bytes) :=
    deriveAlong_append (L := L) ⟨key, k.derivationPath ++ steps⟩ more
  rw [deriveAlong_append]
  simp only [bind_assoc, pure_bind, hstage]
  rw [List.append_assoc, deriveAlong_append, List.foldlM_append, bind_assoc]

section
variable (hL : L.DerivesChildren)
include hL

/-- Every list of steps can be derived. -/
lemma Libraries.DerivesChildren.foldlM (key : Bytes) (steps : List ChildNumber) :
    ∃ key', steps.foldlM L.deriveChild key = .ok key' := by
  induction steps generalizing key with
  | nil => exact ⟨key, rfl⟩
  | cons child steps ih =>
    obtain ⟨next, hnext⟩ := hL key child
    obtain ⟨last, hlast⟩ := ih next
    refine ⟨last, ?_⟩
    rw [List.foldlM_cons, hnext]
    exact hlast

/-- Every path that extends the key's own can be derived. -/
lemma Libraries.DerivesChildren.deriveAlong
    (h : k.derivationPath <+: path) : ∃ derived, k.deriveAlong L path = .ok derived := by
  obtain ⟨steps, rfl⟩ := h
  obtain ⟨key, hkey⟩ := hL.foldlM k.key steps
  refine ⟨{ key, derivationPath := k.derivationPath ++ steps }, ?_⟩
  rw [deriveAlong_append, hkey]
  rfl

end

/-! ## What the checks accept -/

/-- A key that is not below another one is not verified by it. -/
lemma DerivedKey.verifyDerivedKey_of_not_extends
    (h : ¬k.derivationPath <+: child.derivationPath) : k.verifyDerivedKey L child = .ok false := by
  have hpref : k.derivationPath.isPrefixOf child.derivationPath = false := by
    rw [Bool.eq_false_iff]
    intro htrue
    exact h (List.isPrefixOf_iff_prefix.mp htrue)
  unfold verifyDerivedKey
  simp only [hpref, Bool.not_false, if_true, ite_self]
  rfl

/-- The check compares with the derivation. -/
lemma DerivedKey.verifyDerivedKey_eq (h : k.deriveAlong L child.derivationPath = .ok derived) :
    k.verifyDerivedKey L child =
      .ok (L.privateScalar derived.key == L.privateScalar child.key) := by
  unfold deriveAlong at h
  unfold verifyDerivedKey
  split_ifs at h ⊢
  obtain ⟨key, hkey, hder⟩ := except_bind_ok.mp h
  obtain rfl := ok.inj hder
  exact except_bind_ok.mpr ⟨key, hkey, rfl⟩

variable {X : PublicDerivation} (hX : X.Agrees L)
include hX

/-- The public loop follows the private one until a hardened step ends it. -/
lemma PublicDerivation.Agrees.deriveAll {key key' : Bytes} {steps : List ChildNumber}
    (h : steps.foldlM L.deriveChild key = .ok key') :
    X.deriveAll (X.publicKey key) steps =
      if ∀ step ∈ steps, step.hardened = false then some (X.publicKey key') else none := by
  induction steps generalizing key with
  | nil =>
    obtain rfl := ok.inj h
    simp [PublicDerivation.deriveAll]
  | cons child steps ih =>
    obtain ⟨next, hnext, hrest⟩ := except_bind_ok.mp h
    unfold PublicDerivation.deriveAll
    by_cases hchild : child.hardened
    · simp [hchild]
    · have hsoft : child.hardened = false := by simpa using hchild
      rw [if_neg hchild, hX key child next hsoft hnext]
      simp [ih hrest, hsoft]

/-- The public check needs a proper, unhardened path and the right child. -/
lemma DerivedKey.verifyEcdsaKey_eq (h : k.deriveAlong L path = .ok derived) {text : String}
    (htext : L.parseDerivationPath text = .ok path) (child : Bytes) :
    k.verifyEcdsaKey L X text child = .ok (decide (k.derivationPath.length < path.length ∧
      (∀ step ∈ path.drop k.derivationPath.length, step.hardened = false) ∧
      child = X.verifyingKey (X.publicKey derived.key))) := by
  obtain ⟨⟨steps, rfl⟩, -⟩ := deriveAlong_path h
  rw [deriveAlong_append] at h
  obtain ⟨key, hkey, hder⟩ := except_bind_ok.mp h
  obtain rfl := ok.inj hder
  unfold verifyEcdsaKey
  rw [htext]
  show (if _ then _ else _ : Except String Bool) = _
  -- the path of the key itself is refused, whatever key is presented
  by_cases hlen : (k.derivationPath ++ steps).length ≤ k.derivationPath.length
  · rw [if_pos hlen, decide_eq_false fun hlt => absurd hlt.1 (by omega)]
    rfl
  · have hlt : k.derivationPath.length < (k.derivationPath ++ steps).length := by omega
    rw [if_neg hlen, if_neg (by simp), List.drop_left, hX.deriveAll hkey]
    by_cases hsoft : ∀ step ∈ steps, step.hardened = false
    · rw [if_pos hsoft]
      refine congrArg ok ((beq_eq_decide _ child).trans (decide_eq_decide.mpr ?_))
      exact ⟨fun heq => ⟨hlt, hsoft, heq.symm⟩, fun hall => hall.2.2.symm⟩
    · rw [if_neg hsoft, decide_eq_false fun hall => hsoft hall.2.1]
      rfl

end

/-- For every key: deriving to a path directly equals deriving through any path in between; a key
at a longer path is accepted exactly if its private key is that of the derivation, and one at a
path that does not extend the own path is refused; and a public key is accepted at a path below
exactly if that path is strictly longer, no further step is hardened and it is the public key of
the derivation. -/
theorem derivation_composes_and_verifies {L : Libraries} {X : PublicDerivation}
    (hL : L.DerivesChildren) (hX : X.Agrees L) (k : DerivedKey) (path : DerivationPath) :
    (k.derivationPath <+: path → ∃ derived, k.deriveAlong L path = .ok derived ∧
      (∀ mid, k.derivationPath <+: mid → mid <+: path →
        ∃ stage, k.deriveAlong L mid = .ok stage ∧ stage.deriveAlong L path = .ok derived) ∧
      (∀ child : DerivedKey, child.derivationPath = path → k.verifyDerivedKey L child =
        .ok (decide (L.privateScalar child.key = L.privateScalar derived.key))) ∧
      ∀ text, L.parseDerivationPath text = .ok path → ∀ child,
        k.verifyEcdsaKey L X text child = .ok (decide (k.derivationPath.length < path.length ∧
          (∀ step ∈ path.drop k.derivationPath.length, step.hardened = false) ∧
          child = X.verifyingKey (X.publicKey derived.key)))) ∧
    ∀ child : DerivedKey, ¬k.derivationPath <+: child.derivationPath →
      k.verifyDerivedKey L child = .ok false := by
  refine ⟨fun hpath => ?_, fun child => verifyDerivedKey_of_not_extends⟩
  obtain ⟨derived, hder⟩ := hL.deriveAlong hpath
  refine ⟨derived, hder, ?_, ?_, ?_⟩
  · intro mid hmid hrest
    have htrans := deriveAlong_trans (L := L) hmid hrest
    rw [hder] at htrans
    exact except_bind_ok.mp htrans
  · rintro child rfl
    rw [verifyDerivedKey_eq hder, beq_eq_decide]
    simp only [eq_comm]
  · intro text htext child
    exact verifyEcdsaKey_eq hX hder htext child

/-! ## Master keys -/

/-- `MasterKey`, with the same methods as the key at the root path. -/
structure MasterKey where
  key : Bytes

/-- `From<MasterKey> for DerivedKey` -/
def MasterKey.toDerivedKey (m : MasterKey) : DerivedKey := ⟨m.key, []⟩

/-- `derive` of a derived key. -/
def DerivedKey.derive (L : Libraries) (k : DerivedKey) (path : String) :
    Except String DerivedKey := do
  let derivationPath ← L.parseDerivationPath path
  k.deriveAlong L derivationPath

namespace MasterKey

variable (L : Libraries) (X : PublicDerivation) (m : MasterKey)

/-- `MasterKey::derive`: the steps of the path, from the root. -/
def derive (path : String) : Except String DerivedKey := do
  let derivationPath ← L.parseDerivationPath path
  let key ← derivationPath.foldlM L.deriveChild m.key
  pure ⟨key, derivationPath⟩

/-- `MasterKey::verify_derived_key`: the derivation is repeated and the scalars compared. -/
def verifyDerivedKey (child : DerivedKey) : Except String Bool := do
  let key ← child.derivationPath.foldlM L.deriveChild m.key
  pure (L.privateScalar key == L.privateScalar child.key)

/-- `MasterKey::verify_ecdsa_key`: by the public derivation, so a path with a hardened step is
answered with no. -/
def verifyEcdsaKey (path : String) (child : Bytes) : Except String Bool := do
  let derivationPath ← L.parseDerivationPath path
  match X.deriveAll (X.publicKey m.key) derivationPath with
  | some xpub => pure (X.verifyingKey xpub == child)
  | none => pure false

/-- The three methods return what those of the derived key return. -/
structure AgreesWithDerived (path : String) (child : DerivedKey) (publicKey : Bytes) : Prop where
  derive : m.derive L path = m.toDerivedKey.derive L path
  derivedKey : m.verifyDerivedKey L child = m.toDerivedKey.verifyDerivedKey L child
  ecdsaKey : m.verifyEcdsaKey L X path publicKey = m.toDerivedKey.verifyEcdsaKey L X path publicKey

variable {L X m}

/-- The own path is the one that a derived key refuses, and the empty one for a master key. -/
lemma verifyEcdsaKey_eq_iff (path : String) (child : Bytes) :
    m.verifyEcdsaKey L X path child = m.toDerivedKey.verifyEcdsaKey L X path child ↔
      (L.parseDerivationPath path = .ok [] → child ≠ X.verifyingKey (X.publicKey m.key)) := by
  unfold verifyEcdsaKey DerivedKey.verifyEcdsaKey
  cases hparse : L.parseDerivationPath path with
  | error e => exact iff_of_true rfl nofun
  | ok derivationPath =>
    cases derivationPath with
    | nil =>
      show ok (X.verifyingKey (X.publicKey m.key) == child) = .ok false ↔ _
      rw [ok.injEq, beq_eq_false_iff_ne]
      exact ⟨fun h _ heq => h heq.symm, fun h heq => h rfl heq.symm⟩
    | cons step steps => exact iff_of_true rfl nofun

/-- A master key and the derived key it becomes agree exactly unless the own public key is asked
for at the path of the key itself. -/
theorem agreesWithDerived_iff (path : String) (child : DerivedKey) (publicKey : Bytes) :
    m.AgreesWithDerived L X path child publicKey ↔
      (L.parseDerivationPath path = .ok [] →
        publicKey ≠ X.verifyingKey (X.publicKey m.key)) := by
  refine ⟨fun h => (verifyEcdsaKey_eq_iff path publicKey).mp h.ecdsaKey, fun h => ?_⟩
  exact ⟨rfl, rfl, (verifyEcdsaKey_eq_iff path publicKey).mpr h⟩

end MasterKey

/-! ## Filling a key ring -/

/-- Under a root, every key of the ring is the derivation of the root along its own path. -/
def DerivedRing (L : Libraries) (ring : DerivationPath → Option DerivedKey) : Prop :=
  ∀ root, ring [] = some root → ∀ path key, ring path = some key →
    root.deriveAlong L path = .ok key

/-- A path without a key on the way to `path`, below the last one that has one. -/
def Missing (ring : DerivationPath → Option DerivedKey) (path missing : DerivationPath) : Prop :=
  missing <+: path ∧ ∀ between, missing <+: between → between <+: path → ring between = none

/-- What a call leaves that found `root`: the key of `path` and of every missing path before it,
and nothing else. -/
structure Ensured (L : Libraries) (ns : String) (root : DerivedKey) (path : DerivationPath)
    (s : Store) (key : DerivedKey) (s' : Store) : Prop where
  derived : root.deriveAlong L path = .ok key
  stored : s'.privateKeys ns path = some key
  filled : ∀ missing, Missing (s.privateKeys ns) path missing →
    ∃ key', root.deriveAlong L missing = .ok key' ∧ s'.privateKeys ns missing = some key'
  others : ∀ ns' path', ¬(ns' = ns ∧ Missing (s.privateKeys ns) path path') →
    s'.privateKeys ns' path' = s.privateKeys ns' path'
  rest : s' = { s with privateKeys := s'.privateKeys }

section
variable {L : Libraries} {ns : String} {s : Store} {root key : DerivedKey}
  {ring : DerivationPath → Option DerivedKey} {child : ChildNumber}
  {path missing parents : DerivationPath}

lemma not_missing_of_stored (h : ring path = some key) :
    ¬Missing ring path missing := by
  intro hmiss
  have hnone := hmiss.2 path hmiss.1 List.prefix_rfl
  rw [h] at hnone
  cases hnone

/-- Above a path without a key the missing paths are those above its parent. -/
lemma missing_concat_iff (h : ring (parents ++ [child]) = none) :
    Missing ring (parents ++ [child]) missing ↔
      missing = parents ++ [child] ∨ Missing ring parents missing := by
  constructor
  · rintro ⟨hpref, hnone⟩
    rcases List.prefix_concat_iff.mp hpref with heq | hpref
    · exact .inl heq
    · exact .inr ⟨hpref, fun between hb hp =>
        hnone between hb (hp.trans (List.prefix_append _ _))⟩
  · rintro (rfl | ⟨hpref, hnone⟩)
    · refine ⟨List.prefix_rfl, fun between hb hp => ?_⟩
      rwa [← hb.eq_of_length_le hp.length_le]
    · refine ⟨hpref.trans (List.prefix_append _ _), fun between hb hp => ?_⟩
      rcases List.prefix_concat_iff.mp hp with rfl | hp
      · exact h
      · exact hnone between hb hp

/-- A key that is there is returned as it is. -/
lemma ensureDerivationPath_of_stored {path : List ChildNumber}
    (h : s.privateKeys ns path.reverse = some key) :
    (ensureDerivationPath L ns path).run s = (.ok key, s) := by
  have hload : (loadPrivateKey ns path.reverse).run s = (.ok (some key), s) := by
    rw [← h]
    rfl
  cases path <;> exact run_bind_of_ok hload

/-- A missing step is derived from its parent, which is ensured first, and stored. -/
lemma ensureDerivationPath_cons_of_missing {parents : List ChildNumber}
    (h : s.privateKeys ns (child :: parents).reverse = none) :
    (ensureDerivationPath L ns (child :: parents)).run s = (do
      let parent ← ensureDerivationPath L ns parents
      let derived ← Task.lift
        ((parent.deriveAlong L (child :: parents).reverse).mapError RepoError.key)
      storePrivateKey ns derived
      pure derived : RepoTask DerivedKey).run s := by
  have hload : (loadPrivateKey ns (child :: parents).reverse).run s = (.ok none, s) := by
    rw [← h]
    rfl
  exact run_bind_of_ok hload

/-- Without a key on the whole way there is nothing to derive from. -/
lemma ensureDerivationPath_of_none (path : List ChildNumber)
    (h : ∀ above, above <+: path.reverse → s.privateKeys ns above = none) :
    ∃ e, (ensureDerivationPath L ns path).run s = (.error e, s) := by
  induction path with
  | nil =>
    have hload : (loadPrivateKey ns []).run s = (.ok none, s) := by
      rw [← h [] List.prefix_rfl]
      rfl
    exact ⟨_, run_bind_of_ok hload⟩
  | cons child parents ih =>
    obtain ⟨e, he⟩ := ih fun above habove =>
      h above (habove.trans (List.reverse_cons ▸ List.prefix_append _ _))
    refine ⟨e, ?_⟩
    rw [ensureDerivationPath_cons_of_missing (h _ List.prefix_rfl), run_bind, he]

/-- A path that is stored needs nothing. -/
lemma Ensured.of_stored (hring : DerivedRing L (s.privateKeys ns))
    (hroot : s.privateKeys ns [] = some root)
    (h : s.privateKeys ns path = some key) : Ensured L ns root path s key s where
  derived := hring root hroot path key h
  stored := h
  filled _ hmiss := absurd hmiss (not_missing_of_stored h)
  others _ _ _ := rfl
  rest := rfl

/-- The child of the key that the parent's call returned, stored. -/
lemma Ensured.store {s₁ : Store}
    {parent derived : DerivedKey} (hpar : Ensured L ns root parents s parent s₁)
    (hnone : s.privateKeys ns (parents ++ [child]) = none)
    (hder : parent.deriveAlong L (parents ++ [child]) = .ok derived) :
    Ensured L ns root (parents ++ [child]) s derived ((storePrivateKey ns derived).run s₁).2 := by
  have hpref := (deriveAlong_path hpar.derived).1
  have hpath := (deriveAlong_path hder).2
  have hroot : root.deriveAlong L (parents ++ [child]) = .ok derived := by
    rw [← deriveAlong_trans hpref (List.prefix_append parents [child]), hpar.derived]
    exact hder
  have hkeys : ∀ ns' path, ((storePrivateKey ns derived).run s₁).2.privateKeys ns' path =
      if ns' = ns ∧ path = parents ++ [child] then some derived else s₁.privateKeys ns' path := by
    intro ns' path
    rw [← hpath]
    rfl
  have hsto : ((storePrivateKey ns derived).run s₁).2.privateKeys ns (parents ++ [child]) =
      some derived := by
    rw [hkeys, if_pos ⟨rfl, rfl⟩]
  refine ⟨hroot, hsto, ?_, ?_, ?_⟩
  · intro missing hmiss
    by_cases hself : missing = parents ++ [child]
    · subst hself
      exact ⟨derived, hroot, hsto⟩
    · rcases (missing_concat_iff hnone).mp hmiss with heq | habove
      · exact absurd heq hself
      · rw [hkeys, if_neg fun heq => hself heq.2]
        exact hpar.filled missing habove
  · intro ns' path hother
    rw [missing_concat_iff hnone] at hother
    rw [hkeys, if_neg fun heq => hother ⟨heq.1, .inl heq.2⟩]
    exact hpar.others ns' path fun hmiss => hother ⟨hmiss.1, .inr hmiss.2⟩
  · rw [hpar.rest]
    rfl

/-- By induction on the path: the key at its end is derived from the root, and every step is stored. -/
lemma ensureDerivationPath_ensured (hL : L.DerivesChildren)
    (hring : DerivedRing L (s.privateKeys ns)) (hroot : s.privateKeys ns [] = some root)
    (path : List ChildNumber) :
    ∃ key s', (ensureDerivationPath L ns path).run s = (.ok key, s') ∧
      Ensured L ns root path.reverse s key s' := by
  -- on the reversed path, so that the call for the parent is the one for the tail
  induction path with
  | nil =>
    exact ⟨root, s, ensureDerivationPath_of_stored hroot, .of_stored hring hroot hroot⟩
  | cons child parents ih =>
    cases hload : s.privateKeys ns (child :: parents).reverse with
    | some key =>
      exact ⟨key, s, ensureDerivationPath_of_stored hload, .of_stored hring hroot hload⟩
    | none =>
      obtain ⟨parent, s₁, hrun, hpar⟩ := ih
      have hpref : parent.derivationPath <+: parents.reverse ++ [child] := by
        rw [(deriveAlong_path hpar.derived).2]
        exact List.prefix_append _ _
      obtain ⟨derived, hder⟩ := hL.deriveAlong hpref
      rw [ensureDerivationPath_cons_of_missing hload, run_bind, hrun]
      rw [List.reverse_cons] at hload ⊢
      refine ⟨derived, ((storePrivateKey ns derived).run s₁).2, ?_, hpar.store hload hder⟩
      simp only [hder]
      rfl

/-- The keys that are filled in are derivations of the root too. -/
lemma Ensured.derivedRing (hring : DerivedRing L (s.privateKeys ns))
    (hroot : s.privateKeys ns [] = some root)
    {s' : Store} (h : Ensured L ns root path s key s') : DerivedRing L (s'.privateKeys ns) := by
  intro root' hroot' path' key' hkey'
  have hkept : s'.privateKeys ns [] = s.privateKeys ns [] :=
    h.others ns [] fun hmiss => by
      have hnone := hmiss.2.2 [] List.prefix_rfl (List.nil_prefix)
      rw [hroot] at hnone
      cases hnone
  obtain rfl : root = root' := by
    rw [hkept, hroot] at hroot'
    exact Option.some.inj hroot'
  by_cases hmiss : Missing (s.privateKeys ns) path path'
  · obtain ⟨_, _, hsto⟩ := h.filled path' hmiss
    rw [hkey'] at hsto
    rwa [Option.some.inj hsto]
  · rw [h.others ns path' fun hboth => hmiss hboth.2] at hkey'
    exact hring root hroot path' key' hkey'

end

/-- For every ring whose keys are derivations of its root: a call for a path returns the derivation
of the root along it if the root is stored, leaves a key for the path and for every missing path
above it, nothing else changed, and the ring keeps its property; a second call returns the same
key and changes nothing. Where no path above has a key, the call fails and stores nothing. -/
theorem ensureDerivationPath_fills {L : Libraries} (hL : L.DerivesChildren) (ns : String)
    (path : DerivationPath) (s : Store) (hring : DerivedRing L (s.privateKeys ns)) :
    (∀ root, s.privateKeys ns [] = some root →
      ∃ key s', (ensureDerivationPath L ns path.reverse).run s = (.ok key, s') ∧
        Ensured L ns root path s key s' ∧ DerivedRing L (s'.privateKeys ns) ∧
        (ensureDerivationPath L ns path.reverse).run s' = (.ok key, s')) ∧
    ((∀ above, above <+: path → s.privateKeys ns above = none) →
      ∃ e, (ensureDerivationPath L ns path.reverse).run s = (.error e, s)) := by
  refine ⟨fun root hroot => ?_, fun hnone => ?_⟩
  · obtain ⟨key, s', hrun, hensured⟩ := ensureDerivationPath_ensured hL hring hroot path.reverse
    rw [List.reverse_reverse] at hensured
    have hagain : s'.privateKeys ns path.reverse.reverse = some key := by
      rw [List.reverse_reverse]
      exact hensured.stored
    exact ⟨key, s', hrun, hensured, hensured.derivedRing hring hroot,
      ensureDerivationPath_of_stored hagain⟩
  · apply ensureDerivationPath_of_none
    rwa [List.reverse_reverse]

/-! ## The reference installation -/

namespace Reference

/-- The reference libraries derive every step. -/
lemma pathLibraries_derivesChildren : pathLibraries.DerivesChildren :=
  fun key child => ⟨UInt8.ofNat child.index :: key, rfl⟩

/-- Public keys that are the private ones. -/
def sharedKeys : PublicDerivation where
  publicKey key := key
  deriveChild := libraries.deriveChild
  verifyingKey key := key

lemma sharedKeys_agrees : sharedKeys.Agrees pathLibraries := fun _ _ _ _ h => h

/-- The key of a user, below the root. -/
def ownKey : DerivedKey := ⟨[7], [⟨0, true⟩]⟩

/-- A path two steps below the own one, neither of them hardened. -/
def ownPath : DerivationPath := [⟨0, true⟩, ⟨5, false⟩, ⟨6, false⟩]

/-- The key at `m/0'` derives `m/0'/5/6` directly and through `m/0'/5`, accepts the private and the
public key of that derivation and no other ones, and refuses keys at `m/1'/5/6`. -/
theorem derivation_composes_and_verifies_reference :
    ownKey.deriveAlong pathLibraries ownPath = .ok ⟨[6, 5, 7], ownPath⟩ ∧
      (∃ stage, ownKey.deriveAlong pathLibraries [⟨0, true⟩, ⟨5, false⟩] = .ok stage ∧
        stage.deriveAlong pathLibraries ownPath = .ok ⟨[6, 5, 7], ownPath⟩) ∧
      ownKey.verifyDerivedKey pathLibraries ⟨[6, 5, 7], ownPath⟩ = .ok true ∧
      ownKey.verifyDerivedKey pathLibraries ⟨[6, 5, 8], ownPath⟩ = .ok false ∧
      ownKey.verifyEcdsaKey pathLibraries sharedKeys "m/0'/5/6" [6, 5, 7] = .ok true ∧
      ownKey.verifyEcdsaKey pathLibraries sharedKeys "m/0'/5/6" [6, 5, 8] = .ok false ∧
      ownKey.verifyDerivedKey pathLibraries
        ⟨[6, 5, 7], [⟨1, true⟩, ⟨5, false⟩, ⟨6, false⟩]⟩ = .ok false := by
  obtain ⟨hbelow, hbeside⟩ := derivation_composes_and_verifies pathLibraries_derivesChildren
    sharedKeys_agrees ownKey ownPath
  obtain ⟨derived, hder, hmid, hprivate, hpublic⟩ := hbelow (by decide)
  obtain rfl : ⟨[6, 5, 7], ownPath⟩ = derived := ok.inj hder
  exact ⟨hder, hmid [⟨0, true⟩, ⟨5, false⟩] (by decide) (by decide), hprivate _ rfl,
    hprivate ⟨[6, 5, 8], ownPath⟩ rfl, hpublic "m/0'/5/6" rfl _, hpublic "m/0'/5/6" rfl _,
    hbeside _ (by decide)⟩

/-- The own public key at the root path is accepted by the master key only. -/
theorem masterKey_accepts_itself :
    MasterKey.verifyEcdsaKey pathLibraries sharedKeys ⟨[7]⟩ "m" [7] = .ok true ∧
      (MasterKey.toDerivedKey ⟨[7]⟩).verifyEcdsaKey pathLibraries sharedKeys "m" [7] =
        .ok false :=
  ⟨rfl, rfl⟩

/-- A ring with a root only. -/
def rootedStore : Store :=
  { store with privateKeys := fun ns path =>
      if ns = "idp" ∧ path = [] then some ⟨[7], []⟩ else none }

/-- Both steps of a path are missing: the key of each is stored, the key of the whole path is
returned, and a second call returns it again. -/
theorem ensureDerivationPath_fills_reference :
    ∃ key s', (ensureDerivationPath pathLibraries "idp" [⟨4, false⟩, ⟨3, true⟩]).run rootedStore =
        (.ok key, s') ∧
      s'.privateKeys "idp" [⟨3, true⟩, ⟨4, false⟩] = some key ∧
      s'.privateKeys "idp" [⟨3, true⟩] = some ⟨[3, 7], [⟨3, true⟩]⟩ ∧
      (ensureDerivationPath pathLibraries "idp" [⟨4, false⟩, ⟨3, true⟩]).run s' = (.ok key, s') := by
  have hring : DerivedRing pathLibraries (rootedStore.privateKeys "idp") := by
    intro root hroot path key hkey
    obtain rfl := Option.some.inj hroot
    by_cases hpath : path = []
    · subst hpath
      obtain rfl := Option.some.inj hkey
      rfl
    · simp [rootedStore, hpath] at hkey
  obtain ⟨key, s', hrun, hensured, -, hagain⟩ :=
    (ensureDerivationPath_fills pathLibraries_derivesChildren "idp" [⟨3, true⟩, ⟨4, false⟩]
      rootedStore hring).1 ⟨[7], []⟩ rfl
  have hmissing : Missing (rootedStore.privateKeys "idp") [⟨3, true⟩, ⟨4, false⟩] [⟨3, true⟩] := by
    refine ⟨by decide, fun between habove _ => ?_⟩
    have hne : between ≠ [] := by
      rintro rfl
      exact absurd habove (by decide)
    simp [rootedStore, hne]
  obtain ⟨key', hder, hstored⟩ := hensured.filled _ hmissing
  obtain rfl : ⟨[3, 7], [⟨3, true⟩]⟩ = key' := ok.inj hder
  exact ⟨key, s', hrun, hensured.stored, hstored, hagain⟩

end Reference

end LocalPlatform.Idp
