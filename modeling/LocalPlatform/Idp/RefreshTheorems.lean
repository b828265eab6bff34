import LocalPlatform.Idp.IssueTheorems

/-!
# The refresh grant and the signature of the refresh token

`refresh_token` decodes the presented string and looks up the key its header names, but never
verifies the signature with it, as `token_exchange` does. So wherever a refresh can succeed at
all, a string without any signature succeeds as well.
-/

namespace LocalPlatform.Idp

open Resumption Text

/-- The string verifies under the public key stored for the key its header names. -/
def SignatureVerifies (S : OAuth2Service) (s : Store) (token : String) : Prop :=
  ∃ header claims keyId jwk, decodeJwt S.libs (standardClaimsFromSlice S.libs) token =
      .ok (header, claims) ∧
    S.libs.parseId header.kid = some keyId ∧ (findPublicJwk S keyId).eval s = .ok jwk ∧
    verifyJwt S.libs (standardClaimsFromSlice S.libs) jwk token = .ok (header, claims)

/-- A client that may use the refresh grant under the presented authentication. -/
def RefreshClient (s : Store) (auth : Option OAuth2ClientAuth) (clientId : String) : Prop :=
  ∃ client, (findClientByClientId clientId).eval s = .ok (some client) ∧
    validateGrantType client .refreshToken = .ok () ∧
    authenticateClientForTokenEndpoint client auth = .ok ()

/-- A user whose active root key can sign tokens. -/
def RefreshKey (S : OAuth2Service) (s : Store) (keyId : Id) : Prop :=
  ∃ key user userKey, (findKeyById keyId).eval s = .ok (some key) ∧
    (findPrincipal S key.id).eval s = .ok (some (.user user userKey)) ∧ CanIssue S s userKey

/-- Some refresh could succeed: there are a signing user and an admissible client. -/
def RefreshPossible (S : OAuth2Service) (s : Store) (auth : Option OAuth2ClientAuth) : Prop :=
  (∃ keyId, RefreshKey S s keyId) ∧ ∃ clientId, RefreshClient s auth clientId

/-! ## A successful refresh -/

variable {S : OAuth2Service} {request : RefreshTokenGrantRequest} {auth : Option OAuth2ClientAuth}
  {s : Store} {r : TokenResponse}

section
variable (h : (refreshTokenGrant S request auth).eval s = .ok r)
include h

/-- What a successful refresh has checked. The signature is not among it. -/
lemma refreshTokenGrant_ok :
    ∃ header claims keyId key client scopes principal,
      decodeJwt S.libs (standardClaimsFromSlice S.libs) request.refreshToken =
        .ok (header, claims) ∧
      claims.use = .refresh ∧ S.libs.parseId header.kid = some keyId ∧
      (findKeyById keyId).eval s = .ok (some key) ∧
      (findClientByClientId claims.clientId).eval s = .ok (some client) ∧
      validateGrantType client .refreshToken = .ok () ∧
      authenticateClientForTokenEndpoint client auth = .ok () ∧
      refreshScopes request.scope claims.scope = .ok scopes ∧
      (findPrincipal S key.id).eval s = .ok (some principal) ∧
      (issueTokensForClient S client principal scopes claims.resource claims.authorizationDetails
        none).eval s = .ok r := by
  obtain ⟨_, -, h1⟩ := eval_bind_iff.mp h
  obtain ⟨⟨header, claims⟩, hdec, h2⟩ := eval_bind_iff.mp h1
  simp only [eval_bind_iff] at h2
  obtain ⟨_, huse, _, -, keyId, hkeyId, key?, hkey?, key, hkey, client?, hcl?, client,
    hcl, _, hgrant, _, hauth, scopes, hsc, principal?, hprin?, principal, hprin,
    hissue⟩ := h2
  simp only [eval_check_ok, eval_repo_ok, eval_okOr_ok, eval_failIf_ok] at *
  subst hkey hcl hprin
  exact ⟨header, claims, keyId, key, client, scopes, principal, hdec, by simpa using huse,
    hkeyId, hkey?, hcl?, hgrant, hauth, hsc, hprin?, hissue⟩

/-- A refresh that succeeds shows that one is possible. -/
lemma refreshPossible_of_ok : RefreshPossible S s auth := by
  obtain ⟨_, claims, keyId, key, client, _, _, -, -, -, hkey, hcl, hgrant,
    hauth, -, hprin, hissue⟩ := refreshTokenGrant_ok h
  obtain ⟨user, userKey, -, -, -, -, -, rfl, hcan, -⟩ := issueTokensForClient_ok hissue
  exact ⟨⟨keyId, key, user, userKey, hkey, hprin, hcan⟩, claims.clientId, client, hcl,
    hgrant, hauth⟩

end

/-! ## A string nobody signed -/

lemma deserializeScope_empty (L : Libraries) : deserializeScope L "" = .ok [] := by
  simp [deserializeScope, splitWhitespace, splitWords, pure, Except.pure]

/-- The header of the forged string. It only has to name the key of the victim. -/
def forgedHeader (L : Libraries) (keyId : Id) : JwtHeader :=
  { alg := jwtHeaderAlg, typ := jwtHeaderTyp, kid := L.idToString keyId, jwk := none }

/-- Claims of a refresh token that has not expired yet, without any scope. -/
def forgedClaims (clientId : String) (now : DateTime) : ClaimsObject where
  type := .bearer
  use := .refresh
  exp := now.timestamp
  iat := now.timestamp
  nbf := now.timestamp
  iss := ""
  aud := ""
  clientId := clientId
  sub := ""
  principalType := .user
  resource := none
  authorizationDetails := none
  scope := ""

/-- Header and claims joined by a dot, with no third segment. -/
def unsignedToken (L : Libraries) (header : JwtHeader) (claims : ClaimsObject) : String :=
  match L.headerToVec header, L.claimsToVec claims with
  | .ok hb, .ok cb => ".".intercalate [L.urlSafeEncode hb, L.urlSafeEncode cb]
  | _, _ => ""

/-- The refresh request that presents a forged string. -/
def forgedRequest (S : OAuth2Service) (keyId : Id) (clientId : String) (now : DateTime) :
    RefreshTokenGrantRequest where
  refreshToken := unsignedToken S.libs (forgedHeader S.libs keyId) (forgedClaims clientId now)
  scope := none

section
variable {L : Libraries} (hL : L.Lawful) (header : JwtHeader) (claims : ClaimsObject)
include hL

/-- The token without a signature has two segments. -/
lemma unsignedToken_splitDots : ∃ hb cb, splitDots (unsignedToken L header claims) =
    [L.urlSafeEncode hb, L.urlSafeEncode cb] ∧ L.headerFromSlice hb = .ok header ∧
      L.claimsFromSlice cb = .ok claims := by
  obtain ⟨hb, hhb, hhdr⟩ := hL.header_roundtrip header
  obtain ⟨cb, hcb, hcs⟩ := hL.claims_roundtrip claims
  refine ⟨hb, cb, ?_, hhdr, hcs⟩
  simp only [unsignedToken, hhb, hcb]
  exact splitDots_join [] (hL.urlSafe_no_dot hb) (hL.urlSafe_no_dot cb) (by simp)

/-- It still decodes, as no signature is looked for. -/
lemma decodeJwt_unsignedToken {scope : List String} (hscope : deserializeScope L claims.scope =
    .ok scope) :
    decodeJwt L (standardClaimsFromSlice L) (unsignedToken L header claims) =
      .ok (header, claims.toClaims scope) := by
  obtain ⟨hb, cb, hsplit, hhdr, hcs⟩ := unsignedToken_splitDots hL header claims
  refine decodeJwt_of_splitDots hsplit (hL.urlSafe_roundtrip hb) (hL.urlSafe_roundtrip cb)
    hhdr ?_
  simp [standardClaimsFromSlice, hcs, hscope, bind, Except.bind, pure, Except.pure]

end

/-- A string without a signature verifies under no stored key. -/
lemma not_signatureVerifies_unsignedToken (hL : S.libs.Lawful) (s : Store)
    (header : JwtHeader) (claims : ClaimsObject) :
    ¬SignatureVerifies S s (unsignedToken S.libs header claims) := by
  rintro ⟨_, _, _, jwk, -, -, -, hver⟩
  obtain ⟨_, _, hsplit, -, -⟩ := unsignedToken_splitDots hL header claims
  simp [verifyJwt, hsplit, segment, bind, Except.bind] at hver

/-- The forged request succeeds for every signing user and every admissible client. -/
lemma forgedRequest_succeeds (hL : S.libs.Lawful) {keyId : Id} {clientId : String}
    (hkey : RefreshKey S s keyId) (hcl : RefreshClient s auth clientId) :
    ∃ r, (refreshTokenGrant S (forgedRequest S keyId clientId s.now) auth).eval s = .ok r := by
  obtain ⟨_, user, _, hkey, hprin, hcan⟩ := hkey
  obtain ⟨client, hcl, hgrant, hauth⟩ := hcl
  have hdec := decodeJwt_unsignedToken hL (forgedHeader S.libs keyId)
    (forgedClaims clientId s.now) (deserializeScope_empty S.libs)
  refine exists_eval_bind (eval_utcNow s) ?_
  refine exists_check_bind hdec ?_
  refine exists_eval_bind (a := ()) (eval_failIf_ok.mpr rfl) ?_
  -- the claims expire at this very second, which is not yet too late
  refine exists_eval_bind (a := ()) (eval_failIf_ok.mpr (decide_eq_false (lt_irrefl _))) ?_
  refine exists_okOr_bind (hL.id_roundtrip keyId) ?_
  refine exists_repo_bind hkey ?_
  refine exists_okOr_bind rfl ?_
  refine exists_repo_bind hcl ?_
  refine exists_okOr_bind rfl ?_
  refine exists_check_bind hgrant ?_
  refine exists_check_bind hauth ?_
  refine exists_check_bind rfl ?_
  refine exists_eval_bind hprin ?_
  refine exists_okOr_bind rfl ?_
  exact issueTokensForClient_total hL hcan client user [] _ _ _

/-- In a given state and for a given client authentication, every accepted refresh token carries
a verifying signature exactly when no refresh token can be accepted at all. -/
theorem refreshTokenGrant_verified_iff (S : OAuth2Service) (hL : S.libs.Lawful) (s : Store)
    (auth : Option OAuth2ClientAuth) :
    (∀ request r, (refreshTokenGrant S request auth).eval s = .ok r →
      SignatureVerifies S s request.refreshToken) ↔ ¬RefreshPossible S s auth := by
  constructor
  · rintro hver ⟨⟨keyId, hkey⟩, clientId, hcl⟩
    obtain ⟨r, hr⟩ := forgedRequest_succeeds hL hkey hcl
    have hsig := hver (forgedRequest S keyId clientId s.now) r hr
    exact not_signatureVerifies_unsignedToken hL s (forgedHeader S.libs keyId)
      (forgedClaims clientId s.now) hsig
  · intro himpossible request r hr
    exact absurd (refreshPossible_of_ok hr) himpossible

/-! ## The reference installation -/

open Reference

/-- There, anyone who knows the number of a key and the name of a client obtains tokens of the
user with a string that carries no signature. -/
theorem refreshTokenGrant_accepts_unsigned :
    (∃ r, (refreshTokenGrant service
      (forgedRequest service 2 "app" store.now) none).eval store =
        .ok r) ∧
    ¬SignatureVerifies service store
      (forgedRequest service 2 "app" store.now).refreshToken := by
  constructor
  · exact forgedRequest_succeeds libraries_lawful ⟨_, _, _, rfl, rfl, canIssue _⟩
      ⟨client, rfl, rfl, rfl⟩
  · exact not_signatureVerifies_unsignedToken libraries_lawful store
      (forgedHeader libraries 2) (forgedClaims "app" store.now)

/-- The fixture's store allows a refresh, so not every refresh token is verified. -/
theorem refreshTokenGrant_verified_iff_reference :
    service.libs.Lawful ∧
      ((∀ request r, (refreshTokenGrant service request none).eval store =
          .ok r → SignatureVerifies service store request.refreshToken) ↔
        ¬RefreshPossible service store none) :=
  ⟨libraries_lawful, refreshTokenGrant_verified_iff service libraries_lawful store none⟩

end LocalPlatform.Idp
