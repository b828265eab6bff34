import LocalPlatform.Idp.Authorize
import LocalPlatform.Idp.GrantTheorems
import LocalPlatform.Idp.RedemptionTheorems

/-!
# The bearer check on tokens of the same provider

Tokens are issued with the configured issuer as it stands and with scopes in their signed form.
The bearer check compares the issuer with the one of the metadata, from which trailing slashes
are removed, reads the scopes back, and asks for an audience. So a token of the provider itself is
accepted throughout its lifetime exactly when the configured issuer ends in no slash, the audience
is not empty and the scopes can be read back.
-/

namespace LocalPlatform.Idp

open Resumption List Except

/-- The principal is still found by its key, and the key material is the same. -/
structure Unchanged (S : OAuth2Service) (principal : Principal) (s s' : Store) : Prop where
  found : (findPrincipal S principal.key.id).eval s' = .ok (some principal)
  privateKey : (storedPrivateKey S principal.key).eval s' = (storedPrivateKey S principal.key).eval s

/-- The bearer check that is meant for the tokens of a grant. -/
def bearerCheck (S : OAuth2Service) (request : TokenRequest) (token : String) :
    ServiceTask Authorization :=
  match request.principalType with
  | .user => authorizeBearer S token
  | .client => authorizeBearerClient S token

/-- Claims that the bearer check can accept under this configuration. -/
structure Acceptable (S : OAuth2Service) (claims : StandardClaims) : Prop where
  issuer : S.oauthConfig.issuer.toList.getLast? ≠ some '/'
  audience : claims.aud ≠ ""
  scope : Legible S.libs claims.scope

/-! ## The two issuers -/

/-- Trimming does nothing exactly where there is no slash at the end. -/
lemma trimEndSlashes_eq_self_iff {s : String} :
    trimEndSlashes s = s ↔ s.toList.getLast? ≠ some '/' := by
  have hlists : trimEndSlashes s = s ↔
      s.toList.reverse.dropWhile (· == '/') = s.toList.reverse := by
    rw [trimEndSlashes, ← String.toList_inj, String.toList_ofList, reverse_eq_iff]
  rw [hlists, getLast?_eq_head?_reverse]
  cases s.toList.reverse with
  | nil => simp
  | cons c cs =>
    by_cases hc : c = '/'
    · subst hc
      -- what is left is shorter than what there was
      have hshort : (cs.dropWhile (· == '/')).length ≤ cs.length :=
        (dropWhile_sublist _).length_le
      constructor
      · intro h
        have hlen := congrArg length h
        simp only [dropWhile_cons, beq_self_eq_true, if_true, length_cons] at hlen
        omega
      · intro h
        exact absurd rfl h
    · simp [hc]

/-! ## Signing and verifying -/

section
variable {S : OAuth2Service} {s s' : Store} {L : Libraries}

variable {derived : DerivedKey} {jwk : JwkPrivate} {token : String}

/-- The two halves of a key, as they are stored in a token and looked up for it. -/
lemma toJwk_of_toJwkPrivate {key : Key} (h : key.toJwkPrivate L derived = .ok jwk) :
    ∃ x y publicJwk, L.publicPoint derived.key = (some x, some y) ∧
      key.toJwkPublic L derived = .ok publicJwk ∧ jwk.kid = L.idToString key.id ∧
      jwk.params = .ec "secp256k1" (L.standardEncode x) (L.standardEncode y)
        (L.standardEncode (L.privateScalar derived.key)) ∧
      publicJwk.params = .ec "secp256k1" (L.standardEncode x) (L.standardEncode y) := by
  obtain ⟨⟨x, y⟩, hxy, hjwk⟩ := except_bind_ok.mp h
  obtain rfl := ok.inj hjwk
  have hpoint : L.publicPoint derived.key = (some x, some y) := by
    unfold DerivedKey.toXy at hxy
    split at hxy
    · cases hxy
    · cases hxy
    · rename_i hpoint
      cases hxy
      exact hpoint
  exact ⟨x, y, _, hpoint, except_bind_ok.mpr ⟨(x, y), hxy, rfl⟩, rfl, rfl, rfl⟩

/-- The public half of a key verifies what is signed with the private half. -/
lemma verifyJwt_of_toJwk (hL : L.Lawful) (hK : L.LawfulKeys) {key : Key} {publicJwk : JwkPublic}
    (hpriv : key.toJwkPrivate L derived = .ok jwk)
    (hpub : key.toJwkPublic L derived = .ok publicJwk) {α : Type}
    {fromSlice : Bytes → Except String α} {b : Bytes} {claims : α}
    (henc : encodeJwt L jwk (.ok b) = .ok token) (hcs : fromSlice b = .ok claims) :
    verifyJwt L fromSlice publicJwk token = .ok (jwtHeader jwk, claims) := by
  obtain ⟨x, y, publicJwk', hpoint, hpub', -, hparams, hpubParams⟩ :=
    toJwk_of_toJwkPrivate hpriv
  obtain rfl := ok.inj (hpub'.symm.trans hpub)
  obtain ⟨-, -, secret, -, -, hsec, -⟩ := encodeJwt_ok henc
  have hslice : L.signingKeyFromSlice (L.privateScalar derived.key) = .ok secret := by
    unfold signingKeyFromJwk at hsec
    rw [hparams] at hsec
    simpa [hK.standard_roundtrip, except_mapError_ok, except_bind_ok] using hsec
  obtain ⟨verifyingKey, hverifying, hverifies⟩ := hK.verifies _ x y secret hpoint hslice
  have hpk : verifyingKeyFromJwk L publicJwk' = .ok verifyingKey := by
    unfold verifyingKeyFromJwk
    rw [hpubParams]
    simp [hK.standard_roundtrip, hverifying, Except.mapError, bind, Except.bind]
  exact verifyJwt_encodeJwt hL henc hcs hsec hpk hverifies

/-- The public key that is looked up for an unchanged principal verifies what its key has
signed. -/
lemma verifyJwt_of_unchanged (hL : S.libs.Lawful) (hJ : S.libs.LawfulStrings)
    (hK : S.libs.LawfulKeys) {principal : Principal} {claims : StandardClaims}
    (hjwk : (loadSigningJwk S principal.key).eval s = .ok jwk)
    (hsigns : Signs S.libs jwk claims token) (hsame : Unchanged S principal s s') :
    jwk.kid = S.libs.idToString principal.key.id ∧
      ∃ publicJwk, (findPublicJwk S principal.key.id).eval s' = .ok publicJwk ∧
        (Legible S.libs claims.scope →
          verifyJwt S.libs (standardClaimsFromSlice S.libs) publicJwk token =
            .ok (jwtHeader jwk, claims)) := by
  obtain ⟨derived, hder, hpriv⟩ := loadSigningJwk_ok_iff.mp hjwk
  obtain ⟨-, -, publicJwk, -, hpub, hkid, -⟩ := toJwk_of_toJwkPrivate hpriv
  obtain ⟨hkey, hroot, -⟩ := findPrincipal_ok hsame.found
  refine ⟨hkid, publicJwk, ?_, fun hleg => ?_⟩
  · exact findPublicJwk_ok_iff.mpr
      ⟨_, derived, hkey, hroot, hsame.privateKey.trans hder, hpub⟩
  · obtain ⟨_, b, htext, hb, henc⟩ := hsigns.bytes hL
    have hcs := (standardClaimsFromSlice_ok_iff hJ htext hb claims).mpr ⟨hleg, rfl⟩
    exact verifyJwt_of_toJwk hL hK hpriv hpub henc hcs

/-! ## The bearer check -/

/-- What the bearer check looks up and compares. -/
lemma authorizeBearerWithPrincipal_ok_iff {expected : Option PrincipalType} {a : Authorization} :
    (authorizeBearerWithPrincipal S token expected).eval s = .ok a ↔
      ∃ header read keyId principal publicJwk header' claims,
        decodeJwt S.libs (standardClaimsFromSlice S.libs) token = .ok (header, read) ∧
        S.libs.parseId header.kid = some keyId ∧
        (findPrincipal S keyId).eval s = .ok (some principal) ∧
        (findPublicJwk S keyId).eval s = .ok publicJwk ∧
        verifyJwt S.libs (standardClaimsFromSlice S.libs) publicJwk token = .ok (header', claims) ∧
        0 ≤ s.now ∧ validBearerClaims S claims principal expected s.now.timestamp = true ∧
        a = { principal, claims, token } := by
  constructor
  · intro h
    obtain ⟨⟨header, read⟩, hdec, h1⟩ := eval_bind_iff.mp h
    obtain ⟨keyId, hkeyId, h2⟩ := eval_bind_iff.mp h1
    obtain ⟨principal?, hprin?, h3⟩ := eval_bind_iff.mp h2
    obtain ⟨principal, hprin, h4⟩ := eval_bind_iff.mp h3
    obtain ⟨publicJwk, hjwk, h5⟩ := eval_bind_iff.mp h4
    obtain ⟨⟨header', claims⟩, hver, h6⟩ := eval_bind_iff.mp h5
    simp only [eval_bind_iff] at h6
    obtain ⟨_, hnow, _, hepoch, _, hvalid, h9⟩ := h6
    simp only [eval_check_ok, eval_okOr_ok, eval_failIf_ok, eval_utcNow,
      ok.injEq, Task.eval_pure, decide_eq_false_iff_not, not_lt, Bool.not_eq_false'] at *
    subst hprin hnow
    exact ⟨header, read, keyId, principal, publicJwk, header', claims, hdec, hkeyId,
      hprin?, hjwk, hver, hepoch, hvalid, h9.symm⟩
  · rintro ⟨header, read, keyId, principal, publicJwk, header', claims, hdec, hkeyId,
      hprin, hjwk, hver, hepoch, hvalid, rfl⟩
    refine eval_bind_iff.mpr ⟨(header, read), eval_check_ok.mpr hdec, ?_⟩
    refine eval_bind_iff.mpr ⟨keyId, eval_okOr_ok.mpr hkeyId, ?_⟩
    refine eval_bind_iff.mpr ⟨_, hprin, ?_⟩
    refine eval_bind_iff.mpr ⟨_, eval_okOr_ok.mpr rfl, ?_⟩
    refine eval_bind_iff.mpr ⟨_, hjwk, ?_⟩
    refine eval_bind_iff.mpr ⟨(header', claims), eval_check_ok.mpr hver, ?_⟩
    refine eval_bind_iff.mpr ⟨_, eval_utcNow s, ?_⟩
    refine eval_bind_iff.mpr ⟨(), eval_failIf_ok.mpr (by simpa using hepoch), ?_⟩
    exact eval_bind_iff.mpr ⟨(), eval_failIf_ok.mpr (by simpa using hvalid), rfl⟩

/-- During the lifetime of a token, its claims pass the comparison exactly when the issuer and
the audience do. -/
lemma validBearerClaims_issued_iff {i : Issue} {exp : ℤ} (hnow : s.now ≤ s'.now)
    (hexp : s'.now.timestamp < exp) :
    validBearerClaims S (i.claims S s.now exp) i.principal (some i.principal.principalType)
        s'.now.timestamp = true ↔
      S.oauthConfig.issuer.toList.getLast? ≠ some '/' ∧ (i.claims S s.now exp).aud ≠ "" := by
  have hnbf : s.now.timestamp ≤ s'.now.timestamp := Int.ediv_le_ediv (by decide) hnow
  have hissuer : S.oauthConfig.issuer = S.oauthConfig.toMetadata.issuer ↔
      S.oauthConfig.issuer.toList.getLast? ≠ some '/' := by
    rw [← trimEndSlashes_eq_self_iff]
    exact eq_comm
  have hent : i.principal.entityType = i.principal.principalType.entityType := by
    cases i.principal <;> rfl
  simp [validBearerClaims, Issue.claims, accessClaims, hexp, hnbf, hent, hissuer]

/-- A token of the provider itself, at a later time and with its principal unchanged. -/
lemma authorizeBearer_issued_iff (hL : S.libs.Lawful) (hJ : S.libs.LawfulStrings)
    (hK : S.libs.LawfulKeys) {i : Issue} {exp : ℤ}
    (hjwk : (loadSigningJwk S i.principal.key).eval s = .ok jwk)
    (hsigns : Signs S.libs jwk (i.claims S s.now exp) token)
    (hsame : Unchanged S i.principal s s') (hnow : s.now ≤ s'.now) (hexp : s'.now.timestamp < exp) :
    (∃ a, (authorizeBearerWithPrincipal S token (some i.principal.principalType)).eval s' =
      .ok a) ↔ Acceptable S (i.claims S s.now exp) ∧ 0 ≤ s'.now := by
  obtain ⟨hkid, _, hpublicJwk, hverify⟩ := verifyJwt_of_unchanged hL hJ hK hjwk hsigns hsame
  have hvalid := validBearerClaims_issued_iff (S := S) (i := i) hnow hexp
  have hkeyId : S.libs.parseId (jwtHeader jwk).kid = some i.principal.key.id := by
    rw [jwtHeader, hkid]
    exact hL.id_roundtrip _
  constructor
  · rintro ⟨a, ha⟩
    obtain ⟨_, _, _, _, _, _, _, hread, hkey, hprin,
      hjwk', hver, hepoch, hcs, -⟩ := authorizeBearerWithPrincipal_ok_iff.mp ha
    obtain ⟨hleg, rfl, rfl⟩ := (hsigns.decodeJwt_ok_iff hL hJ).mp hread
    rw [hkeyId, Option.some.injEq] at hkey
    subst hkey
    rw [hsame.found, ok.injEq, Option.some.injEq] at hprin
    rw [hpublicJwk, ok.injEq] at hjwk'
    subst hprin hjwk'
    rw [hverify hleg, ok.injEq, Prod.mk.injEq] at hver
    obtain ⟨-, rfl⟩ := hver
    obtain ⟨hissuer, haud⟩ := hvalid.mp hcs
    exact ⟨⟨hissuer, haud, hleg⟩, hepoch⟩
  · rintro ⟨⟨hissuer, haud, hleg⟩, hepoch⟩
    exact ⟨_, authorizeBearerWithPrincipal_ok_iff.mpr ⟨_, _, _, _, _, _, _,
      (hsigns.decodeJwt_ok_iff hL hJ).mpr ⟨hleg, rfl, rfl⟩, hkeyId, hsame.found, hpublicJwk,
      hverify hleg, hepoch, hvalid.mpr ⟨hissuer, haud⟩, rfl⟩⟩

end

/-- A token that a grant has issued is accepted by the bearer check of the provider, at any time
up to its expiry and as long as its principal is unchanged, exactly when the configured issuer
ends in no slash, the audience is not empty, the scopes can be read back and the clock is not
before the epoch. -/
theorem bearerCheck_accepts_iff (S : OAuth2Service) (hL : S.libs.Lawful)
    (hJ : S.libs.LawfulStrings) (hK : S.libs.LawfulKeys) {request : TokenRequest}
    {auth : Option OAuth2ClientAuth} {s s₁ : Store} {r : TokenResponse}
    (hgrant : (token S request auth).run s = (.ok r, s₁)) :
    ∃ claims principal, Carries S.libs r.accessToken claims ∧
      claims.sub = S.libs.idToString principal.entityId ∧
      (findPrincipal S principal.key.id).eval s = .ok (some principal) ∧
      ∀ s', Unchanged S principal s s' → s.now ≤ s'.now → s'.now.timestamp < claims.exp →
        ((∃ a, (bearerCheck S request r.accessToken).eval s' = .ok a) ↔
          Acceptable S claims ∧ 0 ≤ s'.now) := by
  obtain ⟨i, hiss, htype⟩ := token_issues hgrant
  obtain ⟨jwk, exp, hjwk, -, hsigns, -⟩ := hiss.signed
  refine ⟨i.claims S s.now exp, i.principal, ⟨jwk, hsigns⟩, rfl, hiss.found, ?_⟩
  intro s' hsame hnow hexp
  have hcheck : bearerCheck S request r.accessToken =
      authorizeBearerWithPrincipal S r.accessToken (some i.principal.principalType) := by
    rw [bearerCheck, htype]
    cases request.principalType <;> rfl
  rw [hcheck]
  exact authorizeBearer_issued_iff hL hJ hK hjwk hsigns hsame hnow hexp

/-! ## The reference installation -/

namespace Reference

/-- The same installation under an issuer that ends in a slash. -/
def slashService : OAuth2Service :=
  { quotingService with oauthConfig := { issuer := "https://idp/" } }

end Reference

open Reference

/-- A redemption in the reference installation. -/
theorem bearerCheck_accepts_iff_reference :
    ∃ r s₁, (token quotingService (.authorizationCode codeRequest) none).run
        codeStore = (.ok r, s₁) ∧
      ∃ claims principal, Carries quotingLibraries r.accessToken claims ∧
        claims.sub = idToString principal.entityId ∧
        (findPrincipal quotingService principal.key.id).eval codeStore =
          .ok (some principal) ∧
        ∀ s', Unchanged quotingService principal codeStore s' →
          codeStore.now ≤ s'.now → s'.now.timestamp < claims.exp →
            ((∃ a, (bearerCheck quotingService
                (.authorizationCode codeRequest) r.accessToken).eval s' = .ok a) ↔
              Acceptable quotingService claims ∧ 0 ≤ s'.now) := by
  obtain ⟨r, hr⟩ := exists_of_isOk
    (show ((token quotingService (.authorizationCode codeRequest) none).eval codeStore).isOk = true by
      decide +kernel)
  have hgrant := run_of_eval hr
  exact ⟨r, _, hgrant, bearerCheck_accepts_iff quotingService
    quotingLibraries_lawful quotingLibraries_lawfulStrings
    quotingLibraries_lawfulKeys hgrant⟩

/-- Under an issuer that ends in a slash, a token that was just issued is refused. -/
theorem bearerCheck_rejects_own_token :
    ∃ r s₁ claims principal, (token slashService
        (.authorizationCode codeRequest) none).run codeStore = (.ok r, s₁) ∧
      Carries quotingLibraries r.accessToken claims ∧
      Unchanged slashService principal codeStore codeStore ∧
      claims.sub = idToString principal.entityId ∧
      codeStore.now.timestamp < claims.exp ∧
      ∀ a, (bearerCheck slashService (.authorizationCode codeRequest)
        r.accessToken).eval codeStore ≠ .ok a := by
  obtain ⟨r, hr⟩ := exists_of_isOk
    (show ((token slashService (.authorizationCode codeRequest) none).eval codeStore).isOk = true by
      decide +kernel)
  have hgrant := run_of_eval hr
  obtain ⟨i, hiss, htype⟩ := token_issues hgrant
  obtain ⟨jwk, exp, hjwk, hexp, hsigns, -⟩ := hiss.signed
  have hunchanged : Unchanged slashService i.principal codeStore codeStore := ⟨hiss.found, rfl⟩
  have hlife : codeStore.now.timestamp < exp := by
    obtain rfl := Option.some.inj hexp
    decide
  refine ⟨r, _, i.claims slashService codeStore.now exp, i.principal, hgrant,
    ⟨jwk, hsigns⟩, hunchanged, rfl, hlife, fun a ha => ?_⟩
  have hacc := (authorizeBearer_issued_iff quotingLibraries_lawful
    quotingLibraries_lawfulStrings quotingLibraries_lawfulKeys hjwk hsigns
    hunchanged le_rfl hlife).mp ⟨a, by rw [htype]; exact ha⟩
  exact hacc.1.issuer (by decide)

end LocalPlatform.Idp
