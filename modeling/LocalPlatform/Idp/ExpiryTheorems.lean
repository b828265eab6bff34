import LocalPlatform.Idp.ClientAuth
import LocalPlatform.Idp.GrantTheorems

/-!
# Secrets that have expired

Only the client credentials grant looks at the time at which the secret of a client expires. The
four other grants accept a secret that has expired as long as their own checks pass: the user and
the password, the code, the refresh token or the subject token, and the key that is to sign.
-/

namespace LocalPlatform.Idp

open Resumption Option

/-! ## What each grant checks besides the credentials of the client -/

/-- The key belongs to a user for whom it can sign tokens. -/
def SigningUser (S : OAuth2Service) (s : Store) (keyId : Id) : Prop :=
  ∃ user key, (findPrincipal S keyId).eval s = .ok (some (.user user key)) ∧ CanIssue S s key

/-- `password` finds the user, the right password and the root key of the user. -/
def PasswordChecks (S : OAuth2Service) (s : Store) (client : Client)
    (request : PasswordGrantRequest) : Prop :=
  request.clientId = client.clientId ∧ validateGrantType client .password = .ok () ∧
    ∃ user password key,
      (findUserByUsernameOrEmail S.libs request.username).eval s = .ok (some user) ∧
      (findUserPasswordByUserId user.id).eval s = .ok (some password) ∧
      S.libs.verifyEncoded password.passwordHash (asBytes request.password) = .ok true ∧
      (findActiveEntityRootKey .user user.id).eval s = .ok (some key) ∧ SigningUser S s key.id

/-- `authorization_code` finds a code of the client that is neither spent nor expired, fits the
request and can be consumed. -/
def CodeChecks (S : OAuth2Service) (s : Store) (client : Client)
    (request : AuthorizationCodeGrantRequest) : Prop :=
  ∃ code, (findAuthorizationCodeByCode S.libs request.code).eval s = .ok (some code) ∧
    code.consumedAt = none ∧ s.now ≤ code.expiresAt ∧ SigningUser S s code.keyId ∧
    code.clientId = client.clientId ∧ validateGrantType client .authorizationCode = .ok () ∧
    validateAuthorizationCodeGrant request code.clientId (some code.redirectUri) = .ok () ∧
    checkCodeChallenge S.libs request.codeVerifier code = .ok () ∧
    (consumeAuthorizationCode code.id s.now).eval s = .ok ()

/-- `refresh_token` decodes an unexpired refresh token of the client, for scopes it has, whose key
is known. -/
def RefreshChecks (S : OAuth2Service) (s : Store) (client : Client)
    (request : RefreshTokenGrantRequest) : Prop :=
  ∃ header claims keyId key scopes,
    decodeJwt S.libs (standardClaimsFromSlice S.libs) request.refreshToken =
      .ok (header, claims) ∧
    claims.use = .refresh ∧ s.now.timestamp ≤ claims.exp ∧
    S.libs.parseId header.kid = some keyId ∧ (findKeyById keyId).eval s = .ok (some key) ∧
    claims.clientId = client.clientId ∧ validateGrantType client .refreshToken = .ok () ∧
    refreshScopes request.scope claims.scope = .ok scopes ∧ SigningUser S s key.id

/-- `token_exchange` verifies a valid access token of the client, whose key is known. -/
def ExchangeChecks (S : OAuth2Service) (s : Store) (client : Client)
    (request : TokenExchangeGrantRequest) : Prop :=
  request.subjectTokenType = .accessToken ∧ ∃ header decoded claims verified keyId jwk key,
    decodeJwt S.libs (standardClaimsFromSlice S.libs) request.subjectToken =
      .ok (header, decoded) ∧
    S.libs.parseId header.kid = some keyId ∧ (findPublicJwk S keyId).eval s = .ok jwk ∧
    verifyJwt S.libs (standardClaimsFromSlice S.libs) jwk request.subjectToken =
      .ok (verified, claims) ∧
    validSubjectToken S claims s.now.timestamp = true ∧
    (findKeyById keyId).eval s = .ok (some key) ∧ claims.clientId = client.clientId ∧
    validateGrantType client .tokenExchange = .ok () ∧
    request.authorizationDetails.elim (.ok ()) validateAuthorizationDetails = .ok () ∧
    SigningUser S s key.id

/-- The grant has no check that refuses the request once the client is authenticated, the expiry
of its secret aside. The client credentials grant always has one then: the expiry. -/
def OtherChecks (S : OAuth2Service) (s : Store) (client : Client) : TokenRequest → Prop
  | .password request => PasswordChecks S s client request
  | .authorizationCode request => CodeChecks S s client request
  | .clientCredentials _ => False
  | .refreshToken request => RefreshChecks S s client request
  | .tokenExchange request => ExchangeChecks S s client request

/-! ## The grants succeed exactly if these checks pass -/

section
variable {S : OAuth2Service} {s : Store}

/-- Tokens are issued to a user whose key can sign, and to nobody else. -/
lemma exists_issueTokensForClient_iff (hL : S.libs.Lawful) {client : Client}
    {principal : Principal} {scopes : List String} {resource : Option String}
    {details : Option (List AuthorizationDetail)} {audience : Option String} :
    (∃ r, (issueTokensForClient S client principal scopes resource details audience).eval s =
      .ok r) ↔ ∃ user key, principal = .user user key ∧ CanIssue S s key := by
  constructor
  · rintro ⟨r, hr⟩
    obtain ⟨user, key, _, _, _, _, _, hprin, hcan, -⟩ := issueTokensForClient_ok hr
    exact ⟨user, key, hprin, hcan⟩
  · rintro ⟨user, key, rfl, hcan⟩
    exact issueTokensForClient_total hL hcan client user scopes resource details audience

/-- Spending a code changes nothing that signing depends on. -/
lemma canIssue_of_onlyCodes {s' : Store} {key : Key} (hcodes : OnlyCodes s s') :
    CanIssue S s' key ↔ CanIssue S s key := by
  have hnow : s'.now = s.now := by rw [hcodes]
  constructor <;> rintro ⟨⟨jwk, secret, hjwk, hsec⟩, hacc, href⟩
  · exact ⟨⟨jwk, secret, hcodes.loadSigningJwk_iff.mp hjwk, hsec⟩, hnow ▸ hacc, hnow ▸ href⟩
  · exact ⟨⟨jwk, secret, hcodes.loadSigningJwk_iff.mpr hjwk, hsec⟩, hnow ▸ hacc, hnow ▸ href⟩

/-- Only the client itself passes with its credentials. -/
lemma authenticate_clientId {client : Client} {auth : OAuth2ClientAuth}
    (h : authenticateClientForTokenEndpoint client (some auth) = .ok ()) :
    auth.clientId = client.clientId := by
  by_contra hne
  unfold authenticateClientForTokenEndpoint at h
  cases hcl : client.clientType <;> simp [hcl, hne] at h

end

section
variable {S : OAuth2Service} {s : Store} {client : Client} {auth : Option OAuth2ClientAuth}
  (hknown : KnownClient s client) (hclient : client.clientType = .confidential)
  (hauth : authenticateClientForTokenEndpoint client auth = .ok ())

include hknown hclient hauth

/-- The client that a grant finds and authenticates with these credentials. -/
lemma authenticated_iff {clientId : String} {found : Client} :
    (findClientByClientId clientId).eval s = .ok (some found) ∧
      authenticateClientForTokenEndpoint found auth = .ok () ↔
    clientId = client.clientId ∧ found = client := by
  constructor
  · rintro ⟨hfound, hfoundAuth⟩
    obtain ⟨rfl, -⟩ := (authenticate_confidential_iff hclient).mp hauth
    have hid : client.clientId = found.clientId := authenticate_clientId hfoundAuth
    have hname : found.clientId = clientId := findClientByClientId_clientId hfound
    rw [← hname, ← hid] at hfound
    have hsame : some found = some client := Except.ok.inj (hfound.symm.trans hknown)
    exact ⟨hname.symm.trans hid.symm, some.inj hsame⟩
  · rintro ⟨rfl, rfl⟩
    exact ⟨hknown, hauth⟩

/-- The client credentials grant refuses a secret that has expired. -/
lemma clientCredentialsGrant_expired (hexp : secretExpired client s.now = true)
    (request : ClientCredentialsGrantRequest) (r : TokenResponse) :
    (clientCredentialsGrant S request auth).eval s ≠ .ok r := by
  intro h
  obtain ⟨rfl, -⟩ := (authenticate_confidential_iff hclient).mp hauth
  simp only [clientCredentialsGrant, eval_bind_iff] at h
  obtain ⟨_, hcreds, found?, hfound?, found, hfound, _, -, _, -, now, hnow, _, hvalid, -⟩ := h
  simp only [eval_repo_ok, eval_okOr_ok, eval_failIf_ok, eval_utcNow, Except.ok.injEq] at *
  obtain rfl := some.inj hcreds
  -- the client that is found is the one whose secret has expired
  have hsame : some found = some client := by
    rw [← hfound]
    exact Except.ok.inj (hfound?.symm.trans hknown)
  rw [← hnow, some.inj hsame, hexp] at hvalid
  cases hvalid

variable (hL : S.libs.Lawful)
include hL

/-- The password grant succeeds exactly under its checks; the secret's expiry is not among them. -/
lemma passwordGrant_iff (request : PasswordGrantRequest) :
    (∃ r, (passwordGrant S request auth).eval s = .ok r) ↔ PasswordChecks S s client request := by
  constructor
  · rintro ⟨r, h⟩
    simp only [passwordGrant, eval_bind_iff] at h
    obtain ⟨found?, hfound?, found, hfound, _, hgrant, _, hfoundAuth, user?, huser?, user, huser,
      password?, hpassword?, password, hpassword, verified, hver, _, hright, key?, hkey?, key, hkey,
      principal?, hprin?, principal, hprin, hissue⟩ := h
    simp only [eval_check_ok, eval_repo_ok, eval_okOr_ok, eval_failIf_ok, keyResult_ok] at *
    subst hfound huser hpassword hkey hprin
    obtain ⟨hname, rfl⟩ := (authenticated_iff hknown hclient hauth).mp ⟨hfound?, hfoundAuth⟩
    obtain ⟨_, userKey, rfl, hcan⟩ := (exists_issueTokensForClient_iff hL).mp ⟨r, hissue⟩
    obtain rfl : verified = true := by simpa using hright
    exact ⟨hname, hgrant, user, password, key, huser?, hpassword?, hver, hkey?, _, _, hprin?, hcan⟩
  · rintro ⟨hname, hgrant, user, password, key, huser, hpassword, hver, hkey, owner, userKey, hprin,
      hcan⟩
    unfold passwordGrant
    rw [hname]
    refine exists_repo_bind hknown (exists_okOr_bind rfl ?_)
    refine exists_check_bind hgrant (exists_check_bind hauth ?_)
    refine exists_repo_bind huser (exists_okOr_bind rfl ?_)
    refine exists_repo_bind hpassword (exists_okOr_bind rfl ?_)
    refine exists_check_bind (keyResult_ok.mpr hver) ?_
    refine exists_eval_bind (a := ()) (eval_failIf_ok.mpr rfl) ?_
    refine exists_repo_bind hkey (exists_okOr_bind rfl ?_)
    refine exists_eval_bind hprin (exists_okOr_bind rfl ?_)
    exact (exists_issueTokensForClient_iff hL).mpr ⟨owner, userKey, rfl, hcan⟩

/-- The same for the redemption of a code. -/
lemma authorizationCodeGrant_iff (request : AuthorizationCodeGrantRequest) :
    (∃ r, (authorizationCodeGrant S request auth).eval s = .ok r) ↔
      CodeChecks S s client request := by
  constructor
  · rintro ⟨r, h⟩
    simp only [authorizationCodeGrant, eval_bind_iff] at h
    obtain ⟨now, hnow, code?, hcode?, code, hcode, _, hspent, _, hlate, principal?, hprin?,
      principal, hprin, found?, hfound?, found, hfound, _, hgrant, _, hfoundAuth, _, hvalid, _,
      hchallenge, hissue⟩ := h
    obtain ⟨_, hconsume, hissue⟩ := Task.eval_bind_run.mp hissue
    simp only [eval_check_ok, eval_repo_ok, eval_okOr_ok, eval_failIf_ok, eval_utcNow,
      Except.ok.injEq] at *
    subst hcode hprin hfound hnow
    obtain ⟨hname, rfl⟩ := (authenticated_iff hknown hclient hauth).mp ⟨hfound?, hfoundAuth⟩
    obtain ⟨_, userKey, rfl, hcan⟩ := (exists_issueTokensForClient_iff hL).mp ⟨r, hissue⟩
    rw [canIssue_of_onlyCodes (consumeAuthorizationCode_onlyCodes ..)] at hcan
    exact ⟨code, hcode?, by simpa using hspent, by simpa using hlate, ⟨_, _, hprin?, hcan⟩, hname,
      hgrant, hvalid, hchallenge, hconsume⟩
  · rintro ⟨code, hcode, hspent, hlate, ⟨owner, userKey, hprin, hcan⟩, hname, hgrant, hvalid,
      hchallenge, hconsume⟩
    unfold authorizationCodeGrant
    refine exists_eval_bind (eval_utcNow s) ?_
    refine exists_repo_bind hcode (exists_okOr_bind rfl ?_)
    refine exists_eval_bind (a := ()) (eval_failIf_ok.mpr (by rw [hspent]; rfl)) ?_
    refine exists_eval_bind (a := ()) (eval_failIf_ok.mpr (decide_eq_false (not_lt.mpr hlate))) ?_
    refine exists_eval_bind hprin (exists_okOr_bind rfl ?_)
    refine exists_repo_bind (by rw [hname]; exact hknown) (exists_okOr_bind rfl ?_)
    refine exists_check_bind hgrant (exists_check_bind hauth ?_)
    refine exists_check_bind hvalid (exists_check_bind hchallenge ?_)
    have hcodes := consumeAuthorizationCode_onlyCodes code.id s.now s
    have hsigns := (canIssue_of_onlyCodes hcodes).mpr hcan
    obtain ⟨r, hr⟩ := (exists_issueTokensForClient_iff hL).mpr ⟨owner, userKey, rfl, hsigns⟩
    exact ⟨r, Task.eval_bind_run.mpr ⟨_, eval_repo_ok.mpr hconsume, hr⟩⟩

/-- The same for a refresh. -/
lemma refreshTokenGrant_iff (request : RefreshTokenGrantRequest) :
    (∃ r, (refreshTokenGrant S request auth).eval s = .ok r) ↔
      RefreshChecks S s client request := by
  constructor
  · rintro ⟨r, h⟩
    obtain ⟨now, hnow, h1⟩ := eval_bind_iff.mp h
    obtain ⟨⟨header, claims⟩, hdec, h2⟩ := eval_bind_iff.mp h1
    simp only [eval_bind_iff] at h2
    obtain ⟨_, huse, _, hlate, keyId, hkeyId, key?, hkey?, key, hkey, found?, hfound?, found, hfound,
      _, hgrant, _, hfoundAuth, scopes, hscopes, principal?, hprin?, principal, hprin,
      hissue⟩ := h2
    simp only [eval_check_ok, eval_repo_ok, eval_okOr_ok, eval_failIf_ok, eval_utcNow,
      Except.ok.injEq] at *
    subst hkey hfound hprin hnow
    obtain ⟨hname, rfl⟩ := (authenticated_iff hknown hclient hauth).mp ⟨hfound?, hfoundAuth⟩
    obtain ⟨_, _, rfl, hcan⟩ := (exists_issueTokensForClient_iff hL).mp ⟨r, hissue⟩
    exact ⟨header, claims, keyId, key, scopes, hdec, by simpa using huse, by simpa using hlate,
      hkeyId, hkey?, hname, hgrant, hscopes, _, _, hprin?, hcan⟩
  · rintro ⟨header, claims, keyId, key, scopes, hdec, huse, hlate, hkeyId, hkey, hname, hgrant,
      hscopes, owner, userKey, hprin, hcan⟩
    refine exists_eval_bind (eval_utcNow s) (exists_check_bind hdec ?_)
    refine exists_eval_bind (a := ()) (eval_failIf_ok.mpr (by rw [huse]; rfl)) ?_
    refine exists_eval_bind (a := ()) (eval_failIf_ok.mpr (decide_eq_false (not_lt.mpr hlate))) ?_
    refine exists_okOr_bind hkeyId (exists_repo_bind hkey (exists_okOr_bind rfl ?_))
    refine exists_repo_bind (by rw [hname]; exact hknown) (exists_okOr_bind rfl ?_)
    refine exists_check_bind hgrant (exists_check_bind hauth (exists_check_bind hscopes ?_))
    refine exists_eval_bind hprin (exists_okOr_bind rfl ?_)
    exact (exists_issueTokensForClient_iff hL).mpr ⟨owner, userKey, rfl, hcan⟩

/-- The same for an exchange. -/
lemma tokenExchangeGrant_iff (request : TokenExchangeGrantRequest) :
    (∃ r, (tokenExchangeGrant S request auth).eval s = .ok r) ↔
      ExchangeChecks S s client request := by
  constructor
  · rintro ⟨r, h⟩
    obtain ⟨_, htype, h1⟩ := eval_bind_iff.mp h
    obtain ⟨⟨header, decoded⟩, hdec, h2⟩ := eval_bind_iff.mp h1
    obtain ⟨keyId, hkeyId, h3⟩ := eval_bind_iff.mp h2
    obtain ⟨jwk, hjwk, h4⟩ := eval_bind_iff.mp h3
    obtain ⟨⟨verified, claims⟩, hver, h5⟩ := eval_bind_iff.mp h4
    simp only [eval_bind_iff] at h5
    obtain ⟨now, hnow, _, hvalid, key?, hkey?, key, hkey, found?, hfound?, found, hfound, _, hgrant,
      _, hfoundAuth, _, hdetails, principal?, hprin?, principal, hprin, hissue⟩ := h5
    simp only [eval_check_ok, eval_repo_ok, eval_okOr_ok, eval_failIf_ok, eval_utcNow,
      Except.ok.injEq] at *
    subst hkey hfound hprin hnow
    obtain ⟨hname, rfl⟩ := (authenticated_iff hknown hclient hauth).mp ⟨hfound?, hfoundAuth⟩
    obtain ⟨_, _, rfl, hcan⟩ := (exists_issueTokensForClient_iff hL).mp ⟨r, hissue⟩
    exact ⟨by simpa using htype, header, decoded, claims, verified, keyId, jwk, key, hdec, hkeyId,
      hjwk, hver, by simpa using hvalid, hkey?, hname, hgrant, hdetails, _, _, hprin?, hcan⟩
  · rintro ⟨htype, header, decoded, claims, verified, keyId, jwk, key, hdec, hkeyId, hjwk, hver,
      hvalid, hkey, hname, hgrant, hdetails, owner, userKey, hprin, hcan⟩
    refine exists_eval_bind (a := ()) (eval_failIf_ok.mpr (by rw [htype]; rfl)) ?_
    refine exists_check_bind hdec (exists_okOr_bind hkeyId (exists_eval_bind hjwk ?_))
    refine exists_check_bind hver (exists_eval_bind (eval_utcNow s) ?_)
    refine exists_eval_bind (a := ()) (eval_failIf_ok.mpr (by rw [hvalid]; rfl)) ?_
    refine exists_repo_bind hkey (exists_okOr_bind rfl ?_)
    refine exists_repo_bind (by rw [hname]; exact hknown) (exists_okOr_bind rfl ?_)
    refine exists_check_bind hgrant (exists_check_bind hauth (exists_check_bind hdetails ?_))
    refine exists_eval_bind hprin (exists_okOr_bind rfl ?_)
    exact (exists_issueTokensForClient_iff hL).mpr ⟨owner, userKey, rfl, hcan⟩

end

/-- A token request with a secret that has expired is refused if and only if one of the checks that
its grant makes besides is not passed, or it is for the client credentials grant. -/
theorem expired_secret_refused_iff (S : OAuth2Service) (hL : S.libs.Lawful) (s : Store)
    (client : Client) (hknown : KnownClient s client)
    (hclient : client.clientType = .confidential)
    (hexpired : secretExpired client s.now = true) (auth : Option OAuth2ClientAuth)
    (hauth : authenticateClientForTokenEndpoint client auth = .ok ()) (request : TokenRequest) :
    (∀ r, (token S request auth).eval s ≠ .ok r) ↔ ¬OtherChecks S s client request := by
  rw [← not_exists, not_iff_not]
  cases request with
  | password request => exact passwordGrant_iff hknown hclient hauth hL request
  | authorizationCode request => exact authorizationCodeGrant_iff hknown hclient hauth hL request
  | clientCredentials request =>
    refine iff_of_false ?_ id
    exact not_exists.mpr (clientCredentialsGrant_expired hknown hclient hauth hexpired request)
  | refreshToken request => exact refreshTokenGrant_iff hknown hclient hauth hL request
  | tokenExchange request => exact tokenExchangeGrant_iff hknown hclient hauth hL request

/-! ## A secret that has expired and is used all the same -/

namespace Reference

/-- A confidential client whose secret expired after one minute. -/
def expiredClient : Client :=
  { client with
    clientSecret := "s3cret"
    clientSecretExpiresAt := some 60000000000
    clientType := .confidential
    tokenEndpointAuthMethod := .clientSecretBasic
    allowedGrantTypes := [.password, .clientCredentials] }

/-- The client presents its secret. -/
def expiredAuth : OAuth2ClientAuth where
  clientId := "app"
  clientSecret := some "s3cret"
  method := .clientSecretBasic

/-- One minute later; the user has a password. -/
def expiredStore : Store :=
  { store with
    clients := [expiredClient.toRow]
    credentials :=
      [{ id := 5
         userId := 1
         kind := "password"
         secretHash := "correct horse"
         active := true
         revokedAt := none
         createdAt := 0
         updatedAt := 0 }]
    now := 120000000000 }

/-- The user presents their password. -/
def passwordRequest : PasswordGrantRequest where
  clientId := "app"
  username := "alice"
  password := "correct horse"
  scope := none
  resource := none

end Reference

open Reference in
/-- Refused are the client credentials grant and the password grant for a user who is not there. -/
theorem expired_secret_refused_reference :
    KnownClient expiredStore expiredClient ∧
    (∀ r, (token service (.clientCredentials ⟨"app", "s3cret", none, none, none⟩)
      (some expiredAuth)).eval expiredStore ≠ .ok r) ∧
    ∀ r, (token service (.password { passwordRequest with username := "mallory" })
      (some expiredAuth)).eval expiredStore ≠ .ok r := by
  refine ⟨rfl, (expired_secret_refused_iff service libraries_lawful expiredStore expiredClient rfl
    rfl (by decide) (some expiredAuth) rfl _).mpr id, ?_⟩
  refine (expired_secret_refused_iff service libraries_lawful expiredStore expiredClient rfl rfl
    (by decide) (some expiredAuth) rfl _).mpr ?_
  rintro ⟨-, -, _, _, _, huser, -⟩
  have hnone : (findUserByUsernameOrEmail libraries "mallory").eval expiredStore = .ok none := rfl
  cases hnone.symm.trans huser

open Reference in
/-- The secret has expired, and the client gets a token with it. -/
theorem expired_secret_accepted :
    KnownClient expiredStore expiredClient ∧ expiredClient.clientType = .confidential ∧
    secretExpired expiredClient expiredStore.now = true ∧
    authenticateClientForTokenEndpoint expiredClient (some expiredAuth) = .ok () ∧
    ∃ r, (token service (.password passwordRequest) (some expiredAuth)).eval expiredStore =
      .ok r := by
  refine ⟨rfl, rfl, by decide, rfl, ?_⟩
  have hver : service.libs.verifyEncoded "correct horse" (asBytes "correct horse") =
      .ok true := congrArg Except.ok (beq_self_eq_true _)
  have hcan : ∀ key, CanIssue service expiredStore key := fun key =>
    ⟨⟨_, _, rfl, rfl⟩, by decide, by decide⟩
  exact (passwordGrant_iff (show KnownClient expiredStore expiredClient from rfl) rfl rfl
    libraries_lawful _).mpr
    ⟨rfl, rfl, _, _, _, rfl, rfl, hver, rfl, _, _, rfl, hcan _⟩

end LocalPlatform.Idp
