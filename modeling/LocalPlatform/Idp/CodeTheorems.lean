import LocalPlatform.Idp.History
import LocalPlatform.Idp.RedemptionTheorems

/-!
# What a code is bound to

The row that `authorize` inserts holds everything that was asked for. Its hash is unique, so in
every later store it is still the row that a redemption of the code finds, and everything the
redemption checks and hands on comes from the authorization request.
-/

namespace LocalPlatform.Idp

open Resumption DateTime List Prod Except Option

/-! ## Authorization requests -/

section
variable {S : OAuth2Service} {s : Store} {request : AuthorizationRequest} {client : Client}
  {requirePkce : Bool}

/-- Every response mode is supported. -/
lemma validateResponseMode_ok (request : AuthorizationRequest) :
    validateResponseMode request = .ok () := by
  unfold validateResponseMode
  split <;> rfl

/-- What a request has passed when it is valid. -/
lemma validateAuthorizationRequest_ok_iff :
    validateAuthorizationRequest request client requirePkce = .ok () ↔
      request.clientId = client.clientId ∧ validateResponseType request client = .ok () ∧
      (∃ redirectUri, resolveRedirectUri request client = .ok redirectUri) ∧
      validatePkce request client requirePkce = .ok () ∧
      validateScopes (requestedScopes request.scope) client.allowedScopes = .ok () := by
  unfold validateAuthorizationRequest
  by_cases hcid : request.clientId = client.clientId
  · cases request.scope with
    | none => simp [hcid, except_bind_ok, validateResponseMode_ok, requestedScopes,
        Unique.exists_iff, pure, Except.pure]
    | some scope => simp [hcid, except_bind_ok, validateResponseMode_ok, requestedScopes,
        Unique.exists_iff]
  · simp [hcid, except_bind_ok]

/-- A public client is authorized with a challenge only. -/
lemma validatePkce_publicClient
    (h : validatePkce request client requirePkce = .ok ()) (hpub : client.clientType = .publicClient) :
    ∃ challenge, request.codeChallenge = some challenge ∧
      request.codeChallengeMethod = some .s256 := by
  unfold validatePkce at h
  split at h
  · rename_i challenge hchal hmeth
    exact ⟨challenge, hchal, hmeth⟩
  · cases h
  · cases h
  · simp [hpub] at h

/-- The checks of an authorization, all on the same store. -/
lemma checkAuthorization_ok_iff {principal : Principal} {redirectUri : String}
    {scopes : List String} :
    (checkAuthorization S request principal).eval s = .ok (client, redirectUri, scopes) ↔
      (findClientByClientId request.clientId).eval s = .ok (some client) ∧
      validateAuthorizationRequest request client S.oauthConfig.requirePkce = .ok () ∧
      resolveRedirectUri request client = .ok redirectUri ∧
      scopes = intersectScopes (requestedScopes request.scope) client.allowedScopes ∧
      principal.entityType = .user ∧
      ∃ consent, (findUserConsent principal.entityId client.clientId redirectUri
        (normalizeScopes scopes)).eval s = .ok (some consent) := by
  constructor
  · intro h
    obtain ⟨client?, hcl?, h1⟩ := eval_bind_iff.mp h
    obtain ⟨_, hfound, h2⟩ := eval_bind_iff.mp h1
    obtain ⟨_, hvalid, h3⟩ := eval_bind_iff.mp h2
    obtain ⟨_, huri, h4⟩ := eval_bind_iff.mp h3
    obtain ⟨_, huser, h5⟩ := eval_bind_iff.mp h4
    obtain ⟨consent?, hcons?, h6⟩ := eval_bind_iff.mp h5
    obtain ⟨_, hcons, h7⟩ := eval_bind_iff.mp h6
    simp only [eval_check_ok, eval_repo_ok, eval_okOr_ok, eval_failIf_ok,
      Task.eval_pure, ok.injEq, mk.injEq] at *
    obtain ⟨rfl, rfl, rfl⟩ := h7
    obtain ⟨consent, rfl⟩ := isSome_iff_exists.mp (by simpa using hcons)
    subst hfound
    exact ⟨hcl?, hvalid, huri, rfl, by simpa using huser, consent, hcons?⟩
  · rintro ⟨hcl, hvalid, huri, rfl, huser, consent, hcons⟩
    refine eval_bind_iff.mpr ⟨some client, eval_repo_ok.mpr hcl, ?_⟩
    refine eval_bind_iff.mpr ⟨client, eval_okOr_ok.mpr rfl, ?_⟩
    refine eval_bind_iff.mpr ⟨(), eval_check_ok.mpr hvalid, ?_⟩
    refine eval_bind_iff.mpr ⟨redirectUri, eval_check_ok.mpr huri, ?_⟩
    refine eval_bind_iff.mpr ⟨(), eval_failIf_ok.mpr (by simpa using huser), ?_⟩
    refine eval_bind_iff.mpr ⟨some consent, eval_repo_ok.mpr hcons, ?_⟩
    exact eval_bind_iff.mpr ⟨(), eval_failIf_ok.mpr rfl, rfl⟩

end

/-! ## The row of a code -/

/-- The row holds what an accepted request has asked for. -/
structure Records (request : AuthorizationRequest) (client : Client) (principal : Principal)
    (redirectUri : String) (scopes : List String) (expiresAt : DateTime)
    (row : AuthorizationCodeRow) : Prop where
  clientId : row.clientId = client.clientId
  keyId : row.keyId = principal.key.id
  redirectUri : row.redirectUri = redirectUri
  scopes : row.scopes = .ok scopes
  resource : row.resource = request.resource
  codeChallenge : row.codeChallenge = request.codeChallenge
  codeChallengeMethod : row.codeChallengeMethod =
    request.codeChallengeMethod.map CodeChallengeMethod.toInteger
  nonce : row.nonce = request.nonce
  expiresAt : row.expiresAt = expiresAt.timestamp

/-- The row of an authorization is the only one with the hash of its code. -/
structure Recorded (S : OAuth2Service) (code : String) (request : AuthorizationRequest)
    (client : Client) (principal : Principal) (redirectUri : String) (scopes : List String)
    (expiresAt : DateTime) (s : Store) : Prop where
  row : ∃ row ∈ s.authorizationCodes, row.codeHash = codeHash S.libs code ∧
    Records request client principal redirectUri scopes expiresAt row ∧
    ∀ other ∈ s.authorizationCodes, other.codeHash = row.codeHash → other = row

section
variable {S : OAuth2Service} {s s₁ : Store} {request : AuthorizationRequest}
  {principal : Principal} {random : CodeRandomness}

/-- A successful authorization leaves the row of its code behind. -/
lemma authorize_ok {response : AuthorizationCodeResponse}
    (h : (authorize S random request principal).run s = (.ok response, s₁)) :
    response = .success random.code request.state (some S.oauthConfig.issuer) ∧
      ∃ client redirectUri scopes expiresAt,
        (checkAuthorization S request principal).eval s = .ok (client, redirectUri, scopes) ∧
        s.now.addSeconds S.oauthConfig.authorizationCodeTtlSecs = some expiresAt ∧
        Recorded S random.code request client principal redirectUri scopes expiresAt s₁ := by
  obtain ⟨⟨client, redirectUri, scopes⟩, hcheck, h1⟩ := run_bind_iff.mp h
  obtain ⟨now, hnow, h2⟩ := run_bind_iff.mp h1
  obtain ⟨expiresAt, hexpAt, h3⟩ := run_bind_iff.mp h2
  obtain ⟨code, s₂, hcreate, h4⟩ := run_bind_ok.mp h3
  obtain rfl : s.now = now := by simpa using hnow
  rw [eval_okOr_ok] at hexpAt
  obtain ⟨hresp, rfl⟩ := mk.inj h4
  -- creating the code, below the error mapping
  have hcre : (createAuthorizationCode S.libs random client.clientId principal.key.id
      redirectUri scopes request.resource request.codeChallenge request.codeChallengeMethod
      request.nonce expiresAt).run s = (.ok code, s₂) := by
    rw [repo, run_mapError] at hcreate
    obtain ⟨hok, hstate⟩ := mk.inj hcreate
    exact Prod.ext (except_mapError_ok.mp hok) hstate
  obtain ⟨now, -, h5⟩ := run_bind_iff.mp hcre
  obtain ⟨_, _, hins, h6⟩ := run_bind_ok.mp h5
  obtain ⟨_, -, h7⟩ := run_bind_iff.mp h6
  obtain ⟨hcode, rfl⟩ := mk.inj h7
  obtain rfl := ok.inj hcode
  refine ⟨(ok.inj hresp).symm, client, redirectUri, scopes, expiresAt, hcheck,
    hexpAt, ?_⟩
  unfold insertCodeRow at hins
  rw [run_atomic] at hins
  split at hins
  · cases hins
  · rename_i hnew
    obtain ⟨-, rfl⟩ := mk.inj hins
    refine ⟨_, mem_append_right _ (mem_singleton_self _), rfl,
      ⟨rfl, rfl, rfl, rfl, rfl, rfl, rfl, rfl, rfl⟩, fun other hother heq => ?_⟩
    rcases mem_append.mp hother with hold | hlast
    · exact absurd (any_eq_true.mpr ⟨other, hold, by simp [heq]⟩) hnew
    · exact mem_singleton.mp hlast

end

/-! ## Redeeming it later -/

/-- A later version of the row still records the authorization. -/
lemma Records.of_sameCode {request : AuthorizationRequest} {client : Client}
    {principal : Principal} {redirectUri : String} {scopes : List String} {expiresAt : DateTime}
    {row row' : AuthorizationCodeRow}
    (h : Records request client principal redirectUri scopes expiresAt row)
    (hsame : row.SameCode row') :
    Records request client principal redirectUri scopes expiresAt row' := by
  rw [hsame]
  exact ⟨h.clientId, h.keyId, h.redirectUri, h.scopes, h.resource, h.codeChallenge,
    h.codeChallengeMethod, h.nonce, h.expiresAt⟩

variable {code : OAuth2AuthorizationCode} {L : Libraries}

/-- A code that is found stands in the table, under the hash of its text. -/
lemma findAuthorizationCodeByCode_ok {text : String} {s : Store}
    (h : (findAuthorizationCodeByCode L text).eval s = .ok (some code)) :
    ∃ row ∈ s.authorizationCodes, row.codeHash = codeHash L text ∧
      ∃ read, row.toCode = .ok read ∧ code = { read with code := text } := by
  obtain ⟨_, hrows, h1⟩ := eval_bind_iff.mp h
  split at h1
  · rename_i row hrow
    obtain ⟨read, hread, h2⟩ := eval_bind_iff.mp h1
    obtain ⟨_, -, h3⟩ := eval_bind_iff.mp h2
    obtain ⟨found, hfound, hsame⟩ := exists_of_mem_mapM hrows (mem_of_mem_head? hrow)
    obtain rfl := ok.inj hsame
    obtain ⟨hmem, hhash⟩ := mem_filter.mp hfound
    exact ⟨found, hmem, by simpa using hhash, read, hread,
      (some.inj (ok.inj h3)).symm⟩
  · simp at h1

section
variable {S : OAuth2Service} {s s' : Store} {request : AuthorizationRequest} {client : Client}
  {principal : Principal} {redirectUri : String} {scopes : List String} {expiresAt : DateTime}
  {text : String} {code : OAuth2AuthorizationCode}

variable {drawn : List Id}
  (h : Recorded S text request client principal redirectUri scopes expiresAt s)
  (hevol : Evolves drawn s s')
  (hcode : (findAuthorizationCodeByCode S.libs text).eval s' = .ok (some code))
include h hevol hcode

/-- The row of the code later on. -/
lemma Recorded.exists_row : ∃ row read, row.toCode = .ok read ∧ code = { read with code := text } ∧
    Records request client principal redirectUri scopes expiresAt row := by
  obtain ⟨_, hrow, hhash, hrecs, hunique⟩ := h.row
  obtain ⟨row', hrow', hhash', read, hread, rfl⟩ := findAuthorizationCodeByCode_ok hcode
  have hsame := hevol.codes.same_of_key_eq AuthorizationCodeRow.SameCode.codeHash_eq hrow
    hunique hrow' (hhash'.trans hhash.symm)
  exact ⟨row', read, hread, rfl, hrecs.of_sameCode hsame⟩

lemma Recorded.nonce_eq : code.nonce = request.nonce := by
  obtain ⟨_, _, hread, rfl, hrecs⟩ := h.exists_row hevol hcode
  exact (AuthorizationCodeRow.toCode_nonce hread).trans hrecs.nonce

/-- Whoever looks for the code later on finds what was authorized. -/
lemma Recorded.code_eq :
    code.clientId = client.clientId ∧ code.keyId = principal.key.id ∧
      code.redirectUri = redirectUri ∧ code.scopes = scopes ∧ code.resource = request.resource ∧
      code.codeChallenge = request.codeChallenge ∧
      code.codeChallengeMethod = request.codeChallengeMethod ∧ code.expiresAt ≤ expiresAt := by
  obtain ⟨_, read, hread, rfl, hrecs⟩ := h.exists_row hevol hcode
  obtain ⟨-, hcid, hkeyId, huri, hsc, hres, hchal, hmeth,
    hexpiry⟩ := AuthorizationCodeRow.toCode_ok hread
  refine ⟨hcid.trans hrecs.clientId, hkeyId.trans hrecs.keyId,
    huri.trans hrecs.redirectUri, ?_, hres.trans hrecs.resource,
    hchal.trans hrecs.codeChallenge, ?_, ?_⟩
  · rw [hrecs.scopes, json_ok] at hsc
    exact hsc.symm
  · rw [hrecs.codeChallengeMethod, challengeMethod_toInteger, ok.injEq] at hmeth
    exact hmeth.symm
  · -- the stored expiry has no part below a second
    rw [hrecs.expiresAt, timestamp, fromTimestamp] at hexpiry
    split at hexpiry
    · calc read.expiresAt = expiresAt.timestamp * .nanosPerSecond :=
            (ok.inj hexpiry).symm
        _ ≤ expiresAt := Int.ediv_mul_le _ (by decide)
    · cases hexpiry

end

/-- What a redemption owes to the authorization that its code comes from. -/
structure Honours (S : OAuth2Service) (request : AuthorizationRequest) (client : Client)
    (principal : Principal) (authorizedAt : DateTime) (redemption : AuthorizationCodeGrantRequest)
    (redeemedAt : DateTime) (r : TokenResponse) : Prop where
  challenge : request.codeChallenge =
    some (S.libs.urlSafeEncode (S.libs.sha256 (asBytes redemption.codeVerifier)))
  clientId : ∀ id ∈ redemption.clientId, id = request.clientId
  redirectUri : ∀ uri ∈ redemption.redirectUri, resolveRedirectUri request client = .ok uri
  unexpired : ∃ expiresAt,
    authorizedAt.addSeconds S.oauthConfig.authorizationCodeTtlSecs = some expiresAt ∧
      redeemedAt ≤ expiresAt
  tokens : ∀ token ∈ r.allTokens, ∃ claims, Bears S.libs token claims ∧
    claims.clientId = request.clientId ∧ claims.sub = S.libs.idToString principal.entityId ∧
    claims.principalType = .user ∧
    claims.scope = intersectScopes (requestedScopes request.scope) client.allowedScopes ∧
    claims.resource = request.resource

/-- The client and the redirect URI agree where the redemption names them. -/
lemma validateAuthorizationCodeGrant_ok {redemption : AuthorizationCodeGrantRequest}
    {clientId redirectUri : String}
    (h : validateAuthorizationCodeGrant redemption clientId (some redirectUri) = .ok ()) :
    (∀ id ∈ redemption.clientId, id = clientId) ∧
      ∀ uri ∈ redemption.redirectUri, uri = redirectUri := by
  unfold validateAuthorizationCodeGrant at h
  repeat' split at h
  all_goals try cases h
  rename_i hcid hredirectUri
  constructor
  · intro id hid
    by_contra hne
    simp [mem_def.mp hid, hne] at hcid
  · intro uri huri
    by_contra hne
    simp [mem_def.mp huri, Ne.symm hne] at hredirectUri

/-- The verifier hashes to the challenge. -/
lemma checkCodeChallenge_ok {verifier challenge : String}
    (h : checkCodeChallenge L verifier code = .ok ())
    (hchal : code.codeChallenge = some challenge) :
    L.urlSafeEncode (L.sha256 (asBytes verifier)) = challenge := by
  unfold checkCodeChallenge at h
  rw [hchal] at h
  split at h
  · contradiction
  · cases h
  · rename_i found method heq hmeth
    obtain rfl := some.inj heq
    cases method with
    | s256 =>
      unfold verifyCodeChallenge at h
      dsimp only at h
      split at h
      · assumption
      · cases h

/-- Whatever happens between the authorization of a public client and the redemption of its code,
tokens are issued only to the verifier, client and redirect of that authorization, before its
expiry, and they carry its client, user, scopes and resource. -/
theorem redemption_honours (S : OAuth2Service) {s s₁ : Store} {random : CodeRandomness}
    {request : AuthorizationRequest} {principal : Principal} {client : Client} {code : String}
    {state issuer : Option String}
    (hkeys : (s.keys.map KeyRow.id).Nodup)
    (hprincipal : (findPrincipal S principal.key.id).eval s = .ok (some principal))
    (hclient : (findClientByClientId request.clientId).eval s = .ok (some client))
    (hpublic : client.clientType = .publicClient)
    (hauthorize : (authorize S random request principal).run s =
      (.ok (.success code state issuer), s₁))
    (ops : List Operation) {redemption : AuthorizationCodeGrantRequest}
    {auth : Option OAuth2ClientAuth} {r : TokenResponse} (hcode : redemption.code = code)
    (hredeem : (authorizationCodeGrant S redemption auth).eval (performAll S s₁ ops) = .ok r) :
    Honours S request client principal s.now redemption (performAll S s₁ ops).now r := by
  obtain ⟨hresp, found, _, _, expiresAt, hcheck, hexpAt, hrec⟩ :=
    authorize_ok hauthorize
  obtain ⟨hfound, hvalid, huri, rfl, huser, -⟩ := checkAuthorization_ok_iff.mp hcheck
  obtain rfl : client = found := by simpa [hclient] using hfound
  obtain ⟨hcid, -, -, hpkce, -⟩ := validateAuthorizationRequest_ok_iff.mp hvalid
  obtain ⟨_, hchal, -⟩ := validatePkce_publicClient hpkce hpublic
  obtain rfl : code = random.code := by
    injection hresp
  -- the row is still there when the code is redeemed
  have hevol := performAll_evolves S s₁ ops
  obtain ⟨i, row, hiss, -, hrow, hexpiry, hkeyId, hissueClient, hreq, hver, hsc,
    hres, -⟩ := authorizationCodeGrant_ok (run_of_eval hredeem)
  rw [hcode] at hrow
  obtain ⟨hrowClient, hrowKey, hrowUri, hrowScopes, hrowResource, hrowChallenge, -,
    hrowExpiry⟩ := hrec.code_eq hevol hrow
  obtain ⟨hid, hredirect⟩ := validateAuthorizationCodeGrant_ok hreq
  -- and the key still belongs to the same user
  have hstart : Evolves [] s s₁ := by
    have hstep : Evolves [] s ((authorize S random request principal).run s).2 :=
      .run (authorize_within .refl (insertCodeRow_evolves _) ..) s
    rwa [hauthorize] at hstep
  obtain ⟨htype, hent⟩ := (hstart.mono (nil_subset _)).trans hevol |>.principal_eq hkeys
    hprincipal (hkeyId.trans hrowKey ▸ hiss.found)
  refine ⟨?_, fun id hgiven => ?_, fun uri hgiven => ?_, ⟨expiresAt, hexpAt, ?_⟩, ?_⟩
  · rw [hchal, checkCodeChallenge_ok hver (hrowChallenge.trans hchal)]
  · rw [hid id hgiven, hrowClient, hcid]
  · rw [hredirect uri hgiven, hrowUri, huri]
  · exact le_trans hexpiry hrowExpiry
  · intro token htoken
    obtain ⟨_, _, hbears⟩ := hiss.bears htoken
    refine ⟨_, hbears, ?_, ?_, ?_, hsc.trans hrowScopes, hres.trans hrowResource⟩
    · exact (hissueClient.trans hrowClient).trans hcid.symm
    · exact congrArg S.libs.idToString hent
    · exact principalType_user (htype.trans huser)

/-! ## The reference installation -/

namespace Reference

/-- The client with a registered redirect and two scopes. -/
def scopedClient : Client :=
  { client with
    redirectUris := ["https://app"]
    allowedScopes := ["read", "write"]
    allowedGrantTypes := [] }

/-- The user has approved both scopes. -/
def consentRow : ConsentRow where
  id := 50
  userId := 1
  clientId := "app"
  redirectUri := "https://app"
  scope := "read write"
  createdAt := 0
  updatedAt := 0

/-- A user who has consented to the client `app`. -/
def consentStore : Store :=
  { store with clients := [scopedClient.toRow], userConsents := [consentRow] }

/-- The user as a principal. -/
def principal : Principal :=
  .user
    { id := 1
      name := "alice"
      givenName := none
      familyName := none
      middleName := none
      nickname := none
      profile := none
      picture := none
      website := none
      sex := none
      birthdate := none
      zoneinfo := none
      locale := none
      createdAt := 0
      updatedAt := 0 }
    { id := 2
      parentId := none
      entityType := .user
      entityId := 1
      derivationPath := "m/0'"
      derivationIndex := 0
      hardened := true
      name := "alice"
      revokedAt := none
      expiresAt := none
      createdAt := 0
      updatedAt := 0 }

/-- A request of `app` with a PKCE challenge. -/
def authorizationRequest : AuthorizationRequest where
  responseType := .code
  clientId := "app"
  redirectUri := some "https://app"
  scope := some "write read"
  state := none
  resource := none
  responseMode := none
  codeChallenge := some (quotingLibraries.urlSafeEncode
    (quotingLibraries.sha256 (asBytes "verifier")))
  codeChallengeMethod := some .s256
  nonce := none
  prompt := none
  loginHint := none
  idTokenHint := none
  uiLocales := none

/-- The draws of one authorization code. -/
def codeRandomness : CodeRandomness where
  id := 40
  code := "code"

/-- The header of tokens that are signed with the key of the user. -/
def userHeader : JwtHeader where
  alg := jwtHeaderAlg
  typ := jwtHeaderTyp
  kid := idToString 2
  jwk := none

/-- The claims of access tokens of the user and the client that are issued at the start. -/
def claimsFor (resource audience : Option String) : StandardClaims :=
  accessClaims service scopedClient principal ["write", "read"] resource none audience 0 3600

/-- Claims for no resource, and for one with and without it as the audience. -/
def knownClaims : List StandardClaims :=
  [claimsFor none none, claimsFor (some "db") (some "db"), claimsFor (some "db") none]

/-- Short documents for those claims and for the refresh tokens beside them. -/
def knownLibraries : Libraries :=
  shortLibraries [userHeader]
    (knownClaims ++ knownClaims.map fun claims => refreshClaims claims 2592000)

/-- The service over libraries whose tokens are short to evaluate. -/
def shortService : OAuth2Service := { service with libs := knownLibraries }

/-- The store after the authorization. -/
def authorizedStore : Store :=
  ((authorize shortService codeRandomness authorizationRequest principal).run consentStore).2

/-- The fixture's authorization. -/
lemma authorize_succeeds : (authorize shortService codeRandomness authorizationRequest
    principal).run consentStore =
      (.ok (.success "code" none (some shortService.oauthConfig.issuer)), authorizedStore) := by
  have hisOk : ((authorize shortService codeRandomness authorizationRequest principal).eval
      consentStore).isOk = true := by decide +kernel
  obtain ⟨_, hresp⟩ := exists_of_isOk hisOk
  have hrun := run_of_eval hresp
  obtain ⟨rfl, -⟩ := authorize_ok hrun
  exact hrun

end Reference

open Reference

/-- The code is redeemed half a minute after the authorization. -/
theorem redemption_honours_reference :
    ∃ r, (authorizationCodeGrant shortService codeRequest none).eval
        (performAll shortService authorizedStore
          [.setClock (30 * nanosPerSecond)]) = .ok r ∧
      Honours shortService authorizationRequest scopedClient
        principal 0 codeRequest (30 * nanosPerSecond) r := by
  have hisOk : ((authorizationCodeGrant shortService codeRequest none).eval
      (performAll shortService authorizedStore
        [.setClock (30 * .nanosPerSecond)])).isOk = true := by
    decide +kernel
  obtain ⟨r, hr⟩ := exists_of_isOk hisOk
  exact ⟨r, hr, redemption_honours shortService
    (by decide) (by decide +kernel) (by decide +kernel) rfl authorize_succeeds
    [.setClock (30 * nanosPerSecond)] rfl hr⟩

end LocalPlatform.Idp
