import LocalPlatform.Idp.AlignmentTheorems
import LocalPlatform.Idp.BearerTheorems
import LocalPlatform.Idp.DescentTheorems
import LocalPlatform.Idp.PublishedKeys

/-!
# Published keys against the provider's own rules

The control plane trusts every key that the provider lists, and the provider lists every active
key. The provider itself asks that a key is the active root of its entity and looks the entity up.
The two agree in an aligned store, so they agree throughout every history whose operations
conform. Deleting a user does not: its key stays listed.
-/

namespace LocalPlatform.Idp

open Resumption List Task Except Option

/-! ## What is listed -/

variable {s : Store} {L : Libraries} {jwks : Jwks} {S : OAuth2Service} {jwk : JwkPublic}
  {keys : List Key}

/-- All keys are free of conflicts. -/
lemma ensureKeysClear_ok_iff : (ensureKeysClear keys).eval s = .ok () ↔
      ∀ key ∈ keys, (ensureClear .keys key.id "conflicted key").eval s = .ok () := by
  induction keys with
  | nil => simp [ensureKeysClear]
  | cons key keys ih =>
    rw [ensureKeysClear, eval_bind_iff, forall_mem_cons]
    exact ⟨fun ⟨_, hkey, hkeys⟩ => ⟨hkey, ih.mp hkeys⟩,
      fun ⟨hkey, hkeys⟩ => ⟨(), hkey, ih.mpr hkeys⟩⟩

/-- The decoded table, from which all lookups of keys start. -/
lemma activeKey_iff_mem {all : List Key} (hall : allKeys.eval s = .ok all) {key : Key} :
    ActiveKey s key ↔ key ∈ all ∧ key.active s.now = true := by
  refine and_congr_left fun _ => ?_
  rw [mem_mapM hall, filter_true]

/-- The active keys are listed if all keys can be read and no active one is in conflict. -/
lemma listActive_ok (h : listActive.eval s = .ok keys) :
    ∃ all, allKeys.eval s = .ok all ∧ keys = all.filter (·.active s.now) ∧
      ∀ key ∈ keys, (ensureClear .keys key.id "conflicted key").eval s = .ok () := by
  obtain ⟨now, hnow, h1⟩ := eval_bind_iff.mp h
  obtain ⟨all, hall, h2⟩ := eval_bind_iff.mp h1
  obtain ⟨_, hclear, h3⟩ := eval_bind_iff.mp h2
  obtain rfl : s.now = now := by simpa using hnow
  obtain rfl : all.filter (·.active s.now) = keys := by simpa using h3
  exact ⟨all, hall, rfl, ensureKeysClear_ok_iff.mp hclear⟩

/-- The active keys of an entity are listed if all keys can be read and none of those is in
conflict. -/
lemma listKeysByEntity_ok_iff {entityType : EntityType} {entityId : Id} :
    (listKeysByEntity entityType entityId).eval s = .ok keys ↔ ∃ all, allKeys.eval s = .ok all ∧
      keys = all.filter (fun key =>
        key.entityType == entityType && key.entityId == entityId && key.active s.now) ∧
      ∀ key ∈ keys, (ensureClear .keys key.id "conflicted key").eval s = .ok () := by
  constructor
  · intro h
    obtain ⟨now, hnow, h1⟩ := eval_bind_iff.mp h
    obtain ⟨all, hall, h2⟩ := eval_bind_iff.mp h1
    obtain ⟨_, hclear, h3⟩ := eval_bind_iff.mp h2
    obtain rfl : s.now = now := by simpa using hnow
    obtain rfl := ok.inj h3
    exact ⟨all, hall, rfl, ensureKeysClear_ok_iff.mp hclear⟩
  · rintro ⟨all, hall, rfl, hclear⟩
    refine eval_bind_iff.mpr ⟨s.now, rfl, eval_bind_iff.mpr ⟨all, hall, ?_⟩⟩
    exact eval_bind_iff.mpr ⟨(), ensureKeysClear_ok_iff.mpr hclear, rfl⟩

instance : listActive.Reads := by
  unfold listActive
  infer_instance

section
variable {S : OAuth2Service} {s : Store}

variable {key : Key}

/-- A signing key is an EC key, which has a public form. -/
lemma toPublic_of_loadSigningJwk {jwk : JwkPrivate} (h : (loadSigningJwk S key).eval s = .ok jwk) :
    ∃ derived published publicJwk, (storedPrivateKey S key).eval s = .ok derived ∧
      jwk.toPublic = some published ∧ key.toJwkPublic S.libs derived = .ok publicJwk ∧
      published.kid = S.libs.idToString key.id ∧ published.params = publicJwk.params := by
  obtain ⟨derived, hder, hpriv⟩ := loadSigningJwk_ok_iff.mp h
  obtain ⟨x, y, publicJwk, -, hpub, hkid, hparams, hpubParams⟩ :=
    toJwk_of_toJwkPrivate hpriv
  refine ⟨derived, { use := .encryption, kid := jwk.kid, alg := jwk.alg, params := _ }, publicJwk,
    hder, ?_, hpub, hkid, hpubParams.symm⟩
  simp [JwkPrivate.toPublic, hparams, JwkPrivateParameters.toPublic]

/-- What the loop over the keys makes of one of them. -/
def publishedJwk (S : OAuth2Service) (s : Store) (key : Key) : Option JwkPublic :=
  ((loadSigningJwk S key).eval s).toOption.bind JwkPrivate.toPublic

/-- Keys without a usable secret are left out of the document. -/
lemma eval_publicJwks (keys : List Key) :
    (publicJwks S keys).eval s = .ok (keys.filterMap (publishedJwk S s)) := by
  induction keys with
  | nil => rfl
  | cons key keys ih =>
    rw [publicJwks, eval_handle]
    cases hjwk : (loadSigningJwk S key).eval s with
    | error e =>
      have hnone : publishedJwk S s key = none := by simp [publishedJwk, hjwk, Except.toOption]
      rw [filterMap_cons_none hnone]
      exact ih
    | ok jwk =>
      obtain ⟨_, published, -, -, hpubl, -⟩ := toPublic_of_loadSigningJwk hjwk
      have hsome : publishedJwk S s key = some published := by
        simp [publishedJwk, hjwk, Except.toOption, hpubl]
      rw [filterMap_cons_some hsome]
      dsimp only
      rw [hpubl]
      show eval (publicJwks S keys >>= fun rest => pure (published :: rest)) s = _
      rw [eval, run_bind, run_of_eval ih]
      rfl

/-- The provider lists the public forms of the active keys that it can load. -/
lemma listJwks_ok {jwks : Jwks} (h : (listJwks S).eval s = .ok jwks) :
    ∃ keys, listActive.eval s = .ok keys ∧ jwks.keys = keys.filterMap (publishedJwk S s) := by
  obtain ⟨keys, hkeys, h1⟩ := eval_bind_iff.mp h
  have hpub := run_of_eval (eval_publicJwks (S := S) (s := s) keys)
  rw [eval, run_bind, hpub] at h1
  obtain rfl := ok.inj h1
  exact ⟨keys, eval_repo_ok.mp hkeys, rfl⟩

/-! ## The provider's rules in an aligned store -/

variable {keys : List Key}

/-- Among keys that can be listed, an active one is found by its identifier. -/
lemma findKeyById_of_activeKey (hids : (s.keys.map KeyRow.id).Nodup)
    (hlist : listActive.eval s = .ok keys) (hkey : ActiveKey s key) :
    (findKeyById key.id).eval s = .ok (some key) := by
  obtain ⟨all, hall, rfl, hclear⟩ := listActive_ok hlist
  obtain ⟨hmem, hact⟩ := (activeKey_iff_mem hall).mp hkey
  have hfind : all.find? (fun other => other.id == key.id && other.active s.now) = some key := by
    obtain ⟨found, hfound⟩ : ∃ found, all.find? (fun other => other.id == key.id &&
        other.active s.now) = some found :=
      isSome_iff_exists.mp (find?_isSome.mpr ⟨key, hmem, by simp [hact]⟩)
    have hmatch := find?_some hfound
    simp only [Bool.and_eq_true, beq_iff_eq] at hmatch
    have hfoundActive : ActiveKey s found :=
      (activeKey_iff_mem hall).mpr ⟨mem_of_find?_eq_some hfound, hmatch.2⟩
    rw [hfound, hfoundActive.eq_of_id hids hkey hmatch.1]
  refine eval_bind_iff.mpr ⟨all, hall, ?_⟩
  refine eval_bind_iff.mpr ⟨s.now, rfl, ?_⟩
  simp only [hfind]
  exact eval_bind_iff.mpr ⟨(), hclear key (mem_filter.mpr ⟨hmem, hact⟩), rfl⟩

/-- In an aligned store every active key is the active root of its entity. -/
lemma Aligned.ensureKeyIsActiveEntityRoot (hs : Aligned s)
    (hlist : listActive.eval s = .ok keys) (hkey : ActiveKey s key) :
    (ensureKeyIsActiveEntityRoot key).eval s = .ok () := by
  obtain ⟨all, hall, rfl, hclear⟩ := listActive_ok hlist
  have hmem := (activeKey_iff_mem hall).mp hkey
  -- the keys of the entity, of which there is only this one
  have hent : (listKeysByEntity key.entityType key.entityId).eval s = .ok (all.filter
      fun other => other.entityType == key.entityType && other.entityId == key.entityId &&
        other.active s.now) := by
    refine listKeysByEntity_ok_iff.mpr ⟨all, hall, rfl, fun other hother => hclear other ?_⟩
    obtain ⟨hother, hmatch⟩ := mem_filter.mp hother
    rw [Bool.and_eq_true] at hmatch
    exact mem_filter.mpr ⟨hother, hmatch.2⟩
  have hrootKey : (findActiveEntityRootKey key.entityType key.entityId).eval s =
      .ok (some key) := by
    refine eval_bind_iff.mpr ⟨_, hent, ?_⟩
    have hroot := hs.root key hkey
    rcases maxByKey_cases ((all.filter fun other =>
      other.entityType == key.entityType && other.entityId == key.entityId &&
        other.active s.now).filter (·.parentId.isNone)) with ⟨hnil, -⟩ | ⟨found, hfound, hmax⟩
    · have hnone : key ∉ ([] : List Key) := not_mem_nil
      rw [← hnil] at hnone
      exact absurd (by simp [hmem, hroot]) hnone
    · simp only [mem_filter, Bool.and_eq_true, beq_iff_eq] at hfound
      have hact := (activeKey_iff_mem hall).mpr ⟨hfound.1.1, hfound.1.2.2⟩
      have hsame := hs.unique found key hact hkey hfound.1.2.1.1 hfound.1.2.1.2
      rw [hsame] at hmax
      exact congrArg ok hmax
  refine eval_bind_iff.mpr ⟨_, eval_repo_ok.mpr hrootKey, ?_⟩
  refine eval_bind_iff.mpr ⟨key, eval_okOr_ok.mpr rfl, ?_⟩
  exact eval_failIf_ok.mpr (bne_self_eq_false _)

lemma findUserById_ne_none {L : Libraries} {id : Id} (h : EntityPresent .user id s) :
    (findUserById L id).eval s ≠ .ok none := by
  intro hnone
  obtain ⟨_, hrow, hid⟩ := h
  obtain ⟨users, husers, h1⟩ := eval_bind_iff.mp hnone
  obtain ⟨_, huser, -⟩ :=
    ok_of_mem_of_mapM husers (mem_filter.mpr ⟨hrow, by simpa using hid⟩)
  have hempty : users.head? = none := by simpa using h1
  rw [head?_eq_none_iff] at hempty
  rw [hempty] at huser
  cases huser

lemma findClientById_ne_none {id : Id} (h : EntityPresent .client id s) :
    (findClientById id).eval s ≠ .ok none := by
  intro hnone
  obtain ⟨_, hrow, hid⟩ := h
  obtain ⟨_, hcls, h1⟩ := eval_bind_iff.mp hnone
  obtain ⟨_, hcl, -⟩ :=
    ok_of_mem_of_mapM hcls (mem_filter.mpr ⟨hrow, by simpa using hid⟩)
  split at h1
  · obtain ⟨_, -, h2⟩ := eval_bind_iff.mp h1
    simp at h2
  · rename_i hempty
    rw [head?_eq_none_iff] at hempty
    rw [hempty] at hcl
    cases hcl

/-- The search for the principal of a root key whose entity is there does not come back with
nothing. -/
lemma findPrincipal_ne_none (hkey : (findKeyById key.id).eval s = .ok (some key))
    (hroot : (ensureKeyIsActiveEntityRoot key).eval s = .ok ())
    (hpres : EntityPresent key.entityType key.entityId s) :
    (findPrincipal S key.id).eval s ≠ .ok none := by
  intro hnone
  obtain ⟨key?, hkey?, h1⟩ := eval_bind_iff.mp hnone
  obtain rfl := ok.inj (hkey.symm.trans (eval_repo_ok.mp hkey?))
  rw [eval_handle, hroot] at h1
  cases htype : key.entityType with
  | user =>
    rw [htype] at hpres
    simp only [htype] at h1
    obtain ⟨user?, huser?, h2⟩ := eval_bind_iff.mp h1
    obtain rfl : user? = none := by simpa using h2
    exact findUserById_ne_none hpres (eval_repo_ok.mp huser?)
  | client =>
    rw [htype] at hpres
    simp only [htype] at h1
    obtain ⟨client?, hcl?, h2⟩ := eval_bind_iff.mp h1
    obtain rfl : client? = none := by simpa using h2
    exact findClientById_ne_none hpres (eval_repo_ok.mp hcl?)

end

/-! ## Verification -/

/-- Of a key, verification looks at the parameters only. -/
lemma verifyJwt_congr {α : Type} {fromSlice : Bytes → Except String α}
    {jwk jwk' : JwkPublic} (h : jwk.params = jwk'.params) (token : String) :
    verifyJwt L fromSlice jwk token = verifyJwt L fromSlice jwk' token := by
  have hkey : verifyingKeyFromJwk L jwk = verifyingKeyFromJwk L jwk' := by
    unfold verifyingKeyFromJwk
    rw [h]
  unfold verifyJwt
  rw [hkey]

/-- What the control plane accepts verifies under a listed key that its header names. -/
lemma HostedControlPlane.verifyAccessToken_ok {expectedIssuer : String}
    {now : DateTime} {token : String} {claims : StandardClaims}
    (h : verifyAccessToken L expectedIssuer now (.ok jwks) token = .ok claims) :
    ∃ header read jwk header', decodeJwt L (standardClaimsFromSlice L) token = .ok (header, read) ∧
      jwk ∈ jwks.keys ∧ jwk.kid = header.kid ∧
      verifyJwt L (standardClaimsFromSlice L) jwk token = .ok (header', claims) := by
  unfold verifyAccessToken at h
  simp only [except_bind_ok, except_mapError_ok, ok.injEq] at h
  obtain ⟨⟨header, read⟩, hdec, _, rfl, jwk, hfind, ⟨header', claims'⟩, hver, h1⟩ := h
  obtain ⟨hissuer, hepoch, hcs, rfl⟩ : claims'.iss = expectedIssuer ∧ 0 ≤ now ∧
      storageClaims claims' now.timestamp = true ∧ claims' = claims := by
    split_ifs at h1 with hissuer hepoch hcs
    exact ⟨not_not.mp hissuer, not_lt.mp hepoch, by simpa using hcs, ok.inj h1⟩
  have hfound : jwks.keys.find? (fun jwk => jwk.kid == header.kid) = some jwk := by
    cases hfind? : jwks.keys.find? (fun jwk => jwk.kid == header.kid) with
    | none =>
      rw [hfind?] at hfind
      cases hfind
    | some found =>
      rw [hfind?] at hfind
      exact congrArg some (ok.inj hfind)
  have hkid := find?_some hfound
  rw [beq_iff_eq] at hkid
  exact ⟨header, read, jwk, header', hdec, mem_of_find?_eq_some hfound, hkid, hver⟩

/-- A listed key that the header of a token names, and the active key it belongs to. -/
lemma activeKey_of_listed (h : (listJwks S).eval s = .ok jwks) (hjwk : jwk ∈ jwks.keys) :
    ∃ keys key derived publicJwk, listActive.eval s = .ok keys ∧ ActiveKey s key ∧
      jwk.kid = S.libs.idToString key.id ∧ (storedPrivateKey S key).eval s = .ok derived ∧
      key.toJwkPublic S.libs derived = .ok publicJwk ∧ jwk.params = publicJwk.params := by
  obtain ⟨_, hkeys, hlst⟩ := listJwks_ok h
  rw [hlst] at hjwk
  obtain ⟨key, hkey, hpubl⟩ := mem_filterMap.mp hjwk
  obtain ⟨_, hall, rfl, -⟩ := listActive_ok hkeys
  have hact := (activeKey_iff_mem hall).mpr (mem_filter.mp hkey)
  unfold publishedJwk at hpubl
  cases hload : (loadSigningJwk S key).eval s with
  | error e =>
    rw [hload] at hpubl
    cases hpubl
  | ok private_ =>
    rw [hload] at hpubl
    obtain ⟨derived, _, publicJwk, hder, hpub, hpublicJwk, hkid, hparams⟩ :=
      toPublic_of_loadSigningJwk hload
    obtain rfl := some.inj (hpub.symm.trans hpubl)
    exact ⟨_, key, derived, publicJwk, hkeys, hact, hkid, hder, hpublicJwk, hparams⟩

/-- A key that the provider accepts is the one the control plane finds under its identifier. -/
lemma listed_of_findPublicJwk (hL : S.libs.Lawful)
    (hids : (s.keys.map KeyRow.id).Nodup) (h : (listJwks S).eval s = .ok jwks)
    {keyId : Id} (hjwk : (findPublicJwk S keyId).eval s = .ok jwk) :
    ∃ published, jwks.keys.find? (fun listed => listed.kid == jwk.kid) = some published ∧
      published.params = jwk.params := by
  obtain ⟨key, _, hfound, -, hder, hpub⟩ := findPublicJwk_ok_iff.mp hjwk
  obtain ⟨_, hact, hrow⟩ := findKeyById_active hfound
  obtain ⟨xy, hxy, hpub⟩ := except_bind_ok.mp hpub
  have hkid : jwk.kid = S.libs.idToString key.id := by
    obtain rfl := ok.inj hpub
    rfl
  -- the key is listed, so something is found under its identifier
  have hload := loadSigningJwk_ok_iff.mpr ⟨_, hder, except_bind_ok.mpr ⟨xy, hxy, rfl⟩⟩
  obtain ⟨_, published, _, -, hpubl, -, hpublishedKid, -⟩ := toPublic_of_loadSigningJwk hload
  obtain ⟨_, hkeys, hlst⟩ := listJwks_ok h
  obtain ⟨_, hall, rfl, -⟩ := listActive_ok hkeys
  have hmem : published ∈ jwks.keys := by
    rw [hlst]
    have hkey := (activeKey_iff_mem hall).mp ⟨hrow, hact⟩
    refine mem_filterMap.mpr ⟨key, mem_filter.mpr hkey, ?_⟩
    simp [publishedJwk, hload, Except.toOption, hpubl]
  obtain ⟨first, hfirst⟩ : ∃ first,
      jwks.keys.find? (fun listed => listed.kid == jwk.kid) = some first :=
    isSome_iff_exists.mp
      (find?_isSome.mpr ⟨published, hmem, by simp [hkid, hpublishedKid]⟩)
  refine ⟨first, hfirst, ?_⟩
  -- and it is this key, since identifiers and their texts are unique
  obtain ⟨_, key', _, _, -, hact', hkid', hder', hpub', hparams⟩ :=
    activeKey_of_listed h (mem_of_find?_eq_some hfirst)
  have hsameKid : first.kid = jwk.kid := by simpa using find?_some hfirst
  have hid : key'.id = key.id := by
    have htexts := congrArg S.libs.parseId (hkid'.symm.trans (hsameKid.trans hkid))
    rw [hL.id_roundtrip, hL.id_roundtrip] at htexts
    exact some.inj htexts
  obtain rfl := hact'.eq_of_id hids ⟨hrow, hact⟩ hid
  obtain rfl := ok.inj (hder'.symm.trans hder)
  obtain rfl := ok.inj (hpub'.symm.trans hpub)
  exact hparams

/-- The provider's own rules for the key and the principal behind a token: the key that its header
names is the active root of an entity that is there, and the token verifies under it. A search for
the principal does not come back with nothing. -/
def ProviderTrusts (S : OAuth2Service) (s : Store) (token : String) (claims : StandardClaims) :
    Prop :=
  ∃ header read key jwk header',
    decodeJwt S.libs (standardClaimsFromSlice S.libs) token = .ok (header, read) ∧
    S.libs.parseId header.kid = some key.id ∧
    (findKeyById key.id).eval s = .ok (some key) ∧
    (ensureKeyIsActiveEntityRoot key).eval s = .ok () ∧
    EntityPresent key.entityType key.entityId s ∧
    (findPrincipal S key.id).eval s ≠ .ok none ∧
    (findPublicJwk S key.id).eval s = .ok jwk ∧
    verifyJwt S.libs (standardClaimsFromSlice S.libs) jwk token = .ok (header', claims)

/-- From an aligned store, after every history whose operations conform: what the control plane
accepts on the keys that the provider lists, the provider accepts as well by its rules for keys and
principals; and a key that the provider accepts is trusted by the control plane. -/
theorem verifyAccessToken_agrees_with_provider (S : OAuth2Service) (hL : S.libs.Lawful)
    {s : Store} (hs : Aligned s) {ops : List Operation} (hops : AllConform S s ops) {jwks : Jwks}
    (hjwks : (listJwks S).eval (performAll S s ops) = .ok jwks) :
    (∀ expectedIssuer now token claims,
      HostedControlPlane.verifyAccessToken S.libs expectedIssuer now (.ok jwks) token =
        .ok claims → ProviderTrusts S (performAll S s ops) token claims) ∧
    ∀ keyId jwk, (findPublicJwk S keyId).eval (performAll S s ops) = .ok jwk →
      ∃ published, jwks.keys.find? (fun listed => listed.kid == jwk.kid) = some published ∧
        ∀ token, verifyJwt S.libs (standardClaimsFromSlice S.libs) published token =
          verifyJwt S.libs (standardClaimsFromSlice S.libs) jwk token := by
  have haligned := performAll_aligned S hs hops
  refine ⟨fun expectedIssuer now token claims hacc => ?_, fun keyId jwk hjwk => ?_⟩
  · obtain ⟨header, read, jwk, header', hdec, hlst, hkid, hver⟩ :=
      HostedControlPlane.verifyAccessToken_ok hacc
    obtain ⟨_, key, derived, publicJwk, hkeys, hact, hkeyKid, hder, hpub, hparams⟩ :=
      activeKey_of_listed hjwks hlst
    have hparse : S.libs.parseId header.kid = some key.id := by
      rw [← hkid, hkeyKid]
      exact hL.id_roundtrip _
    have hfound := findKeyById_of_activeKey haligned.ids hkeys hact
    have hroot := haligned.ensureKeyIsActiveEntityRoot hkeys hact
    have hpres := haligned.present key hact
    have hpublicJwk := findPublicJwk_ok_iff.mpr ⟨key, derived, hfound, hroot, hder, hpub⟩
    rw [verifyJwt_congr hparams] at hver
    exact ⟨header, read, key, publicJwk, header', hdec, hparse, hfound, hroot, hpres,
      findPrincipal_ne_none hfound hroot hpres, hpublicJwk, hver⟩
  · obtain ⟨published, hfound, hparams⟩ := listed_of_findPublicJwk hL haligned.ids hjwks hjwk
    exact ⟨published, hfound, verifyJwt_congr hparams⟩

/-! ## The reference installation -/

namespace Reference

/-- The claims of an access token for storage that the user gets at the start. -/
def storageClaims : StandardClaims :=
  accessClaims service client principal ["storage"] none none none 0 3600

/-- The service that issues a token for the storage server and its refresh token. -/
def storageService : OAuth2Service :=
  { service with
    libs := shortLibraries [userHeader] [storageClaims, refreshClaims storageClaims 2592000] }

/-- A code for the storage scope is waiting. -/
def storageStore : Store :=
  { store with authorizationCodes := [{ codeRow with scopes := .ok ["storage"] }] }

/-- The tokens that are handed out for the code. -/
def storageTokens : TokenResponse :=
  responseOf ((token storageService (.authorizationCode codeRequest) none).eval storageStore)

/-- The code is redeemed, and one more thing happens. -/
def redeemAnd (op : Operation) : List Operation := [.token (.authorizationCode codeRequest) none, op]

/-- What the provider lists after that. -/
def jwksAfter (op : Operation) : Jwks :=
  match (listJwks storageService).eval (performAll storageService storageStore (redeemAnd op)) with
  | .ok jwks => jwks
  | .error _ => { keys := [] }

/-- The fixture's keys are aligned. -/
lemma aligned_storageStore : Aligned storageStore := by
  have hkey : ∀ key, ActiveKey storageStore key → key = principal.key := by
    rintro key ⟨⟨_, hrow, hdec⟩, -⟩
    obtain rfl := mem_singleton.mp hrow
    exact ok.inj (hdec.symm.trans (by decide))
  refine ⟨by decide, fun key h => ?_, fun key key' h h' _ _ => ?_, fun key h => ?_⟩
  · rw [hkey key h]
    rfl
  · rw [hkey key h, hkey key' h']
  · rw [hkey key h]
    exact ⟨user, mem_singleton_self _, rfl⟩

end Reference

open Reference

/-- A token that was issued for storage, one nanosecond later. -/
theorem verifyAccessToken_agrees_with_provider_later :
    (listJwks storageService).eval (performAll storageService
        storageStore (redeemAnd (.setClock 1))) =
      .ok (jwksAfter (.setClock 1)) ∧
    ProviderTrusts storageService (performAll storageService
        storageStore (redeemAnd (.setClock 1)))
      storageTokens.accessToken storageClaims := by
  have hlst : (listJwks storageService).eval (performAll storageService
        storageStore (redeemAnd (.setClock 1))) =
      .ok (jwksAfter (.setClock 1)) := by
    decide +kernel
  have hconform : AllConform storageService storageStore (redeemAnd (.setClock 1)) :=
    ⟨trivial, (by decide +kernel : (perform storageService storageStore
      (.token (.authorizationCode codeRequest) none)).now ≤ 1), trivial⟩
  have hagrees := verifyAccessToken_agrees_with_provider storageService
    (shortLibraries_lawful _ _) aligned_storageStore hconform hlst
  exact ⟨hlst, hagrees.1 storageService.oauthConfig.issuer 0 _ _ (by decide +kernel)⟩

/-- The user redeems a code for storage and is deleted. The provider finds no principal any more,
but the control plane goes on accepting the token. -/
theorem deleted_user_accepted_by_control_plane :
    (token storageService (.authorizationCode codeRequest) none).eval
        storageStore = .ok storageTokens ∧
    Aligned storageStore ∧
    (listJwks storageService).eval (performAll storageService
        storageStore (redeemAnd (.deleteUser 1))) =
      .ok (jwksAfter (.deleteUser 1)) ∧
    HostedControlPlane.verifyAccessToken storageService.libs
        storageService.oauthConfig.issuer 0 (.ok (jwksAfter (.deleteUser 1)))
        storageTokens.accessToken = .ok storageClaims ∧
    (findPrincipal storageService 2).eval (performAll storageService
        storageStore (redeemAnd (.deleteUser 1))) = .ok none ∧
    ¬ProviderTrusts storageService (performAll storageService
        storageStore (redeemAnd (.deleteUser 1)))
      storageTokens.accessToken storageClaims := by
  have hnone : (findPrincipal storageService 2).eval (performAll
      storageService storageStore (redeemAnd (.deleteUser 1))) = .ok none := by
    decide +kernel
  refine ⟨eq_ok_responseOf (by decide +kernel), aligned_storageStore, by decide +kernel,
    by decide +kernel, hnone, ?_⟩
  rintro ⟨header, _, key, _, _, hdec, hkid, -, -, -, hfound, -⟩
  -- the header names the key of the user
  have hhdr : decodeJwt storageService.libs (standardClaimsFromSlice storageService.libs)
      storageTokens.accessToken = .ok (userHeader, storageClaims) := by
    decide +kernel
  obtain rfl := congrArg Prod.fst (ok.inj (hdec.symm.trans hhdr))
  have hid : key.id = 2 := some.inj (hkid.symm.trans (by decide +kernel))
  rw [hid] at hfound
  exact hfound hnone

end LocalPlatform.Idp
