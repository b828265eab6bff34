import LocalPlatform.Idp.AlignmentTheorems
import LocalPlatform.Idp.BearerTheorems
import LocalPlatform.Idp.CodeTheorems

/-!
# Signing keys and the tokens they sign

Every private key that the key service hands out is a master key or derived from one, so it has a
public point and a scalar that signs. A token that is encoded with its private JWK then verifies
under its public JWK, and is read back as it was written, with any claims that survive JSON.
-/

namespace LocalPlatform.Idp

open Resumption DerivedKey

/-- What is promised of extended keys: master keys are such, and so are their children; each has a
public point, and its scalar is the secret of a signing key. -/
structure Libraries.SoundKeys (L : Libraries) (valid : Bytes → Prop) : Prop extends
    L.LawfulKeys where
  masterKey : ∀ entropy passphrase key, L.masterKey entropy passphrase = .ok key → valid key
  deriveChild : ∀ key child key', valid key → L.deriveChild key child = .ok key' → valid key'
  point : ∀ key, valid key → ∃ x y, L.publicPoint key = (some x, some y)
  scalar : ∀ key, valid key → ∃ secret, L.signingKeyFromSlice (L.privateScalar key) = .ok secret

/-- Only extended keys are stored. -/
def SoundRing (valid : Bytes → Prop) (s : Store) : Prop :=
  ∀ ns path derived, s.privateKeys ns path = some derived → valid derived.key

/-- One step in the life of the key ring: a call of the key service, or anything else, which may
remove keys and change all other data but adds no key. -/
inductive KeyStep (L : Libraries) (base : String) (s : Store) : Store → Prop
  | createKey (id : Id) (parentId : Option Id) (entityType : EntityType) (entityId : Id)
      (hardened : Bool) (name : String) (expiresAt : Option DateTime) :
      KeyStep L base s
        ((createKey L base id parentId entityType entityId hardened name expiresAt).run s).2
  | ensureMasterKey (entropy : Bytes) (entityType : EntityType) (entityId : Id)
      (passphrase : String) :
      KeyStep L base s
        ((ensureMasterKey L entropy (scopedNamespace L base entityType entityId) passphrase).run s).2
  | other {s' : Store} (h : ∀ ns path derived, s'.privateKeys ns path = some derived →
      s.privateKeys ns path = some derived) : KeyStep L base s s'

/-- The private key that the key service hands out for a record: when it creates the key, or later
from the key ring. -/
inductive HandsOut (S : OAuth2Service) (s : Store) (key : Key) (derived : DerivedKey) : Prop
  | created (id : Id) (parentId : Option Id) (entityType : EntityType) (entityId : Id)
      (hardened : Bool) (name : String) (expiresAt : Option DateTime)
      (h : (createKey S.libs S.keyNamespace id parentId entityType entityId hardened name
        expiresAt).eval s = .ok (key, derived))
  | stored (h : (storedPrivateKey S key).eval s = .ok derived)

/-! ## Extended keys only -/

section
variable {L : Libraries} {valid : Bytes → Prop} (hK : L.SoundKeys valid) {path : DerivationPath}
include hK

/-- Every key below a sound one is sound. -/
lemma Libraries.SoundKeys.foldlM {key key' : Bytes} (hkey : valid key)
    (h : path.foldlM L.deriveChild key = .ok key') : valid key' := by
  induction path generalizing key with
  | nil => exact Except.ok.inj h ▸ hkey
  | cons child path ih =>
    obtain ⟨next, hnext, hrest⟩ := except_bind_ok.mp h
    exact ih (hK.deriveChild key child next hkey hnext) hrest

lemma DerivedKey.deriveAlong_valid {parent derived : DerivedKey}
    (hpar : valid parent.key) (h : parent.deriveAlong L path = .ok derived) :
    valid derived.key := by
  unfold deriveAlong at h
  split_ifs at h
  obtain ⟨_, hkey, hder⟩ := except_bind_ok.mp h
  obtain rfl := Except.ok.inj hder
  exact hK.foldlM hpar hkey

end

section
variable {L : Libraries} {valid : Bytes → Prop} {s s' : Store} {derived : DerivedKey}
  {base : String}

/-- A run that leaves extended keys only, and returns one if it returns. -/
structure HandsOutSound {ε : Type} (valid : Bytes → Prop) (r : Except ε DerivedKey × Store) :
    Prop where
  ring : SoundRing valid r.2
  key : ∀ derived, r.1 = .ok derived → valid derived.key

section
variable (hs : SoundRing valid s)
include hs

lemma HandsOutSound.error {ε : Type} (e : ε) :
    HandsOutSound valid (.error e, s) :=
  ⟨hs, fun _ h => by cases h⟩

lemma HandsOutSound.ok {ε : Type} (hder : valid derived.key) :
    HandsOutSound valid ((.ok derived, s) : Except ε DerivedKey × Store) :=
  ⟨hs, fun _ h => Except.ok.inj h ▸ hder⟩

/-- A sound key may be stored. -/
lemma SoundRing.storePrivateKey (ns : String)
    (hder : valid derived.key) : SoundRing valid ((storePrivateKey ns derived).run s).2 := by
  intro ns' path found hfound
  change (if ns' = ns ∧ path = derived.derivationPath then some derived
    else s.privateKeys ns' path) = some found at hfound
  split_ifs at hfound
  · exact Option.some.inj hfound ▸ hder
  · exact hs ns' path found hfound

end

variable (hK : L.SoundKeys valid)
include hK

section
variable (hs : SoundRing valid s)
include hs

/-- A master key is sound from its entropy on. -/
lemma ensureMasterKey_sound (entropy : Bytes) (ns passphrase : String) :
    (ensureMasterKey L entropy ns passphrase).Ends (SoundRing valid) s := by
  refine .after hs fun key? _ => ?_
  cases key? with
  | some key => exact hs
  | none =>
    refine .after hs fun key hkey => ?_
    rw [Task.eval_lift, except_mapError_ok] at hkey
    have hmas : valid (DerivedKey.mk key []).key := hK.masterKey _ _ _ hkey
    exact .before (hs.storePrivateKey ns hmas)

/-- The key at the end of a path, and the keys on the way to it. -/
lemma ensureDerivationPath_sound (ns : String) (path : List ChildNumber) :
    (ensureDerivationPath L ns path).Gives (HandsOutSound valid) s := by
  induction path with
  | nil =>
    refine .after (.error hs) fun key? hload => ?_
    cases key? with
    | some key => exact .ok hs (hs ns [] key (Except.ok.inj hload))
    | none => exact .error hs _
  | cons child parents ih =>
    refine .after (.error hs) fun key? hload => ?_
    cases key? with
    | some key => exact .ok hs (hs ns _ key (Except.ok.inj hload))
    | none =>
      refine ih.bind (fun e _ hpar => .error hpar.ring e) fun parent s₁ hpar => ?_
      refine .after (.error hpar.ring) fun _ hder => ?_
      -- the new key is stored under its path and returned
      rw [Task.eval_lift, except_mapError_ok] at hder
      have hvalid := deriveAlong_valid hK (hpar.key parent rfl) hder
      exact .ok (hpar.ring.storePrivateKey ns hvalid) hvalid

/-- The key handed out is sound, and so is the ring afterwards. -/
lemma createKey_sound (base : String) (id : Id) (parentId : Option Id)
    (entityType : EntityType) (entityId : Id) (hardened : Bool) (name : String)
    (expiresAt : Option DateTime) :
    (createKey L base id parentId entityType entityId hardened name expiresAt).Gives (fun out =>
      SoundRing valid out.2 ∧ ∀ key derived, out.1 = .ok (key, derived) → valid derived.key) s := by
  -- inserting the row of a key leaves the key ring alone
  have hrow : (createKeyRow L id parentId entityType entityId hardened name expiresAt).Gives
      (fun out => SoundRing valid out.2) s := by
    rcases createKeyRow_state L s id parentId entityType entityId hardened name expiresAt with
      h | ⟨key, -, -, -, -, h⟩ <;> rw [Task.Gives, h]
    · exact hs
    · exact hs
  have hfailed (e) (s₁ : Store) (hring : SoundRing valid s₁) : SoundRing valid s₁ ∧
      ∀ key derived, (.error e : RepoResult (Key × DerivedKey)) = .ok (key, derived) →
        valid derived.key := ⟨hring, fun _ _ h => by cases h⟩
  refine hrow.bind hfailed fun key s₁ hring => ?_
  refine .after (hfailed · s₁ hring) fun path _ => ?_
  refine (ensureDerivationPath_sound hK hring _ path.reverse).bind
    (fun e s₂ h => hfailed e s₂ h.ring) fun derived s₂ hder => ⟨hder.ring, ?_⟩
  intro key' derived' h
  obtain ⟨-, rfl⟩ := Prod.mk.inj (Except.ok.inj h)
  exact hder.key derived rfl

end

/-- Whatever happens, only extended keys are stored. -/
lemma KeyStep.soundRing (h : KeyStep L base s s')
    (hs : SoundRing valid s) : SoundRing valid s' := by
  cases h with
  | createKey id parentId entityType entityId hardened name expiresAt =>
    exact (createKey_sound hK hs ..).1
  | ensureMasterKey entropy entityType entityId passphrase =>
    exact ensureMasterKey_sound hK hs entropy _ passphrase
  | other h => exact fun ns path derived hfound => hs ns path derived (h ns path derived hfound)

/-- Hence the ring stays sound over any run. -/
lemma soundRing_of_steps
    (h : Relation.ReflTransGen (KeyStep L base) s s') (hs : SoundRing valid s) :
    SoundRing valid s' := by
  induction h with
  | refl => exact hs
  | tail _ hstep ih => exact hstep.soundRing hK ih

end

/-- What the key service hands out is an extended key. -/
lemma HandsOut.valid {S : OAuth2Service} {valid : Bytes → Prop} (hK : S.libs.SoundKeys valid)
    {s : Store} (hs : SoundRing valid s) {key : Key} {derived : DerivedKey}
    (h : HandsOut S s key derived) : valid derived.key := by
  cases h with
  | created id parentId entityType entityId hardened name expiresAt h =>
    exact (createKey_sound hK hs ..).2 key derived h
  | stored h =>
    obtain ⟨_, -, hfound⟩ := storedPrivateKey_ok_iff.mp h
    exact hs _ _ _ hfound

/-! ## Tokens -/

/-- An extended key has both JWKs, under the identifier of its record, and the private one signs. -/
lemma jwks_of_valid {L : Libraries} {valid : Bytes → Prop} (hK : L.SoundKeys valid) (key : Key)
    {derived : DerivedKey} (h : valid derived.key) :
    ∃ privateJwk publicJwk secret, key.toJwkPrivate L derived = .ok privateJwk ∧
      key.toJwkPublic L derived = .ok publicJwk ∧ privateJwk.kid = L.idToString key.id ∧
      signingKeyFromJwk L privateJwk = .ok secret := by
  obtain ⟨x, y, hpoint⟩ := hK.point derived.key h
  obtain ⟨secret, hsec⟩ := hK.scalar derived.key h
  have hxy : derived.toXy L = .ok (x, y) := by
    unfold toXy
    rw [hpoint]
  refine ⟨_, _, secret, except_bind_ok.mpr ⟨(x, y), hxy, rfl⟩,
    except_bind_ok.mpr ⟨(x, y), hxy, rfl⟩, rfl, ?_⟩
  simp [signingKeyFromJwk, hK.standard_roundtrip, hsec, Except.mapError, bind, Except.bind]

/-- For every private key that the key service hands out, starting from an empty key ring, and
every value of claims that survives JSON: the private JWK encodes a token, which the public JWK
verifies and which decodes, both with the identifier of the key and the same claims. -/
theorem verifyJwt_encodeJwt_of_keyService (S : OAuth2Service) (hL : S.libs.Lawful)
    {valid : Bytes → Prop} (hK : S.libs.SoundKeys valid) {s₀ s : Store}
    (hempty : ∀ ns path, s₀.privateKeys ns path = none)
    (hsteps : Relation.ReflTransGen (KeyStep S.libs S.keyNamespace) s₀ s) {key : Key}
    {derived : DerivedKey} (hkey : HandsOut S s key derived) {α : Type}
    (toVec : α → Except String Bytes) (fromSlice : Bytes → Except String α) (claims : α)
    (hjson : ∃ b, toVec claims = .ok b ∧ fromSlice b = .ok claims) :
    ∃ privateJwk publicJwk token header,
      key.toJwkPrivate S.libs derived = .ok privateJwk ∧
      key.toJwkPublic S.libs derived = .ok publicJwk ∧
      encodeJwt S.libs privateJwk (toVec claims) = .ok token ∧
      header.kid = privateJwk.kid ∧ privateJwk.kid = S.libs.idToString key.id ∧
      verifyJwt S.libs fromSlice publicJwk token = .ok (header, claims) ∧
      decodeJwt S.libs fromSlice token = .ok (header, claims) := by
  have hring : SoundRing valid s := by
    refine soundRing_of_steps hK hsteps fun ns path derived hfound => ?_
    rw [hempty] at hfound
    cases hfound
  have hvalid := hkey.valid hK hring
  obtain ⟨privateJwk, publicJwk, _, hpriv, hpub, hkid, hsec⟩ :=
    jwks_of_valid hK key hvalid
  obtain ⟨b, hb, hback⟩ := hjson
  obtain ⟨token, htoken⟩ := encodeJwt_total hL hsec b
  have hver := verifyJwt_of_toJwk hL hK.toLawfulKeys hpriv hpub htoken hback
  refine ⟨privateJwk, publicJwk, token, jwtHeader privateJwk, hpriv, hpub, ?_, rfl, hkid,
    hver, decodeJwt_of_verifyJwt hver⟩
  rw [hb]
  exact htoken

/-- Of standard claims, those survive JSON whose scopes can be read back. -/
lemma standardClaims_json_iff {L : Libraries} (hL : L.Lawful) (hJ : L.LawfulStrings)
    (claims : StandardClaims) :
    (∃ b, standardClaimsToVec L claims = .ok b ∧ standardClaimsFromSlice L b = .ok claims) ↔
      Legible L claims.scope := by
  obtain ⟨_, b, htext, hb, hback⟩ := standardClaimsToVec_total hL claims
  have hread := standardClaimsFromSlice_ok_iff hJ htext hback claims
  constructor
  · rintro ⟨_, hb', hread'⟩
    obtain rfl := Except.ok.inj (hb.symm.trans hb')
    exact (hread.mp hread').1
  · intro hleg
    exact ⟨b, hb, hread.mpr ⟨hleg, rfl⟩⟩

/-! ## The reference installation -/

namespace Reference

lemma quotingLibraries_soundKeys : quotingLibraries.SoundKeys fun _ => True where
  toLawfulKeys := quotingLibraries_lawfulKeys
  masterKey _ _ _ _ := trivial
  deriveChild _ _ _ _ _ := trivial
  point key _ := ⟨key, [], rfl⟩
  scalar key _ := ⟨key, rfl⟩

/-- The user before there is any key. -/
def keylessStore : Store := { store with keys := [], privateKeys := fun _ _ => none }

/-- The master key of the user has been made. -/
def masterKeyStore : Store :=
  ((ensureMasterKey quotingLibraries [7] (scopedNamespace quotingLibraries "idp" .user 1)
    "").run keylessStore).2

lemma legible_storage : Legible quotingLibraries ["storage"] := by
  intro item hitem j hj
  obtain rfl := List.mem_singleton.mp hitem
  obtain rfl := Except.ok.inj hj
  have hall : ((quote "storage").toList.all fun c => !Text.isWhitespace c) = true := by
    decide
  simpa using hall

end Reference

open Reference

/-- A root key is created for the user of the reference installation and signs standard claims. -/
theorem verifyJwt_encodeJwt_of_keyService_reference :
    ∃ key derived, (createKey quotingLibraries "idp" 2 none .user 1 true "alice"
        none).eval masterKeyStore = .ok (key, derived) ∧
      ∃ privateJwk publicJwk token header,
        key.toJwkPrivate quotingLibraries derived = .ok privateJwk ∧
        key.toJwkPublic quotingLibraries derived = .ok publicJwk ∧
        encodeJwt quotingLibraries privateJwk (standardClaimsToVec
          quotingLibraries
          { claimsFor none none with scope := ["storage"] }) = .ok token ∧
        header.kid = privateJwk.kid ∧ privateJwk.kid = idToString key.id ∧
        verifyJwt quotingLibraries
            (standardClaimsFromSlice quotingLibraries) publicJwk token =
          .ok (header, { claimsFor none none with scope := ["storage"] }) ∧
        decodeJwt quotingLibraries
            (standardClaimsFromSlice quotingLibraries) token =
          .ok (header, { claimsFor none none with scope := ["storage"] }) := by
  have hcreates : ((createKey quotingLibraries "idp" 2 none .user 1 true "alice"
      none).eval masterKeyStore).isOk = true := by decide +kernel
  obtain ⟨⟨key, derived⟩, hcre⟩ := exists_of_isOk hcreates
  have hsteps : Relation.ReflTransGen (KeyStep quotingService.libs quotingService.keyNamespace)
      keylessStore masterKeyStore :=
    .single (.ensureMasterKey [7] .user 1 "")
  have hjson := (standardClaims_json_iff quotingLibraries_lawful quotingLibraries_lawfulStrings
    { claimsFor none none with scope := ["storage"] }).mpr legible_storage
  exact ⟨key, derived, hcre, verifyJwt_encodeJwt_of_keyService quotingService
    quotingLibraries_lawful quotingLibraries_soundKeys (fun _ _ => rfl) hsteps
    (.created 2 none .user 1 true "alice" none hcre) _ _ _ hjson⟩

end LocalPlatform.Idp
