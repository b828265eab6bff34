import LocalPlatform.Idp.Service

/-!
# The grants of the token endpoint

Looking up principals and signing keys, issuing tokens, and the five grants `token` dispatches
to.
-/

namespace LocalPlatform.Idp

open Resumption

/-! ## Principals and signing keys -/

/-- Whom a key belongs to, with the key. -/
inductive Principal where
  | user (user : User) (key : Key)
  | client (client : Client) (key : Key)
deriving DecidableEq, Repr

namespace Principal

/-- `get_entity_id`. -/
def entityId : Principal → Id
  | user u _ => u.id
  | client c _ => c.id

/-- `get_entity_type`. -/
def entityType : Principal → EntityType
  | user _ _ => .user
  | client _ _ => .client

/-- `get_key`. -/
def key : Principal → Key
  | user _ k => k
  | client _ k => k

/-- The claim `principal_type`. -/
def principalType : Principal → PrincipalType
  | user _ _ => .user
  | client _ _ => .client

end Principal

/-- `From<User> for UserInfo` -/
def User.toUserInfo (L : Libraries) (u : User) : UserInfo where
  sub := L.idToString u.id
  permissions := []
  name := some u.name
  givenName := u.givenName
  familyName := u.familyName
  middleName := u.middleName
  nickname := u.nickname
  preferredUsername := u.nickname
  profile := u.profile
  picture := u.picture
  website := u.website
  email := none
  emailVerified := none
  phoneNumber := none
  phoneNumberVerified := none
  gender := u.sex.map Sex.toString
  birthdate := u.birthdate.map L.toRfc3339
  zoneinfo := u.zoneinfo
  locale := u.locale
  updatedAt := (DateTime.fromTimestamp u.updatedAt.timestamp).getD 0

/-- `to_jwk_private` -/
def Key.toJwkPrivate (L : Libraries) (k : Key) (derived : DerivedKey) :
    Except String JwkPrivate := do
  let (x, y) ← derived.toXy L
  pure
    { use := .signature
      kid := L.idToString k.id
      alg := .edDSA
      params := .ec "secp256k1" (L.standardEncode x) (L.standardEncode y)
        (L.standardEncode (L.privateScalar derived.key)) }

/-- `to_jwk_public` -/
def Key.toJwkPublic (L : Libraries) (k : Key) (derived : DerivedKey) : Except String JwkPublic := do
  let (x, y) ← derived.toXy L
  pure
    { use := .signature
      kid := L.idToString k.id
      alg := .edDSA
      params := .ec "secp256k1" (L.standardEncode x) (L.standardEncode y) }

section
variable (S : OAuth2Service)

/-- `ensure_key_is_active_entity_root`: an older root of the same entity is refused. -/
def ensureKeyIsActiveEntityRoot (key : Key) : ServiceTask Unit := do
  let activeRoot ← okOr (← repo (findActiveEntityRootKey key.entityType key.entityId))
    (.describe .invalidGrant "active entity root key not found")
  failIf (activeRoot.id != key.id)
    (.describe .invalidGrant "key is not the active entity root")

/-- The private key stored for a key record. -/
def storedPrivateKey (key : Key) : ServiceTask DerivedKey := do
  let path ← check (keyResult (S.libs.parseDerivationPath key.derivationPath))
  let ns := scopedNamespace S.libs S.keyNamespace key.entityType key.entityId
  okOr (← repo (loadPrivateKey ns path))
    (.describe .serverError "signing key not found in private key repository")

/-- `find_public_jwk`: the public half is computed from the private key in the key ring. -/
def findPublicJwk (keyId : Id) : ServiceTask JwkPublic := do
  let key ← okOr (← repo (findKeyById keyId)) (.describe .notFound "key not found")
  ensureKeyIsActiveEntityRoot key
  let privateKey ← storedPrivateKey S key
  check (keyResult (key.toJwkPublic S.libs privateKey))

/-- `load_signing_jwk`. -/
def loadSigningJwk (key : Key) : ServiceTask JwkPrivate := do
  let privateKey ← storedPrivateKey S key
  check (keyResult (key.toJwkPrivate S.libs privateKey))

/-- `find_principal`. A key that is not the active root of its entity has no principal, whatever
the reason. -/
def findPrincipal (keyId : Id) : ServiceTask (Option Principal) := do
  match ← repo (findKeyById keyId) with
  | none => pure none
  | some key =>
    (ensureKeyIsActiveEntityRoot key).handle fun
    | .error _ => pure none
    | .ok () =>
      match key.entityType with
      | .user => do
        let user ← repo (findUserById S.libs key.entityId)
        pure (user.map (Principal.user · key))
      | .client => do
        let client ← repo (findClientById key.entityId)
        pure (client.map (Principal.client · key))

/-! ## Issuing tokens -/

/-- `(now + Duration::seconds(ttl as i64)).timestamp()` -/
def expiry (now : DateTime) (ttl : UInt64) : ServiceTask ℤ := do
  let t ← okOr (now.addSeconds ttl) (.panicked "DateTime + TimeDelta overflowed")
  pure t.timestamp

/-- The claims of the access token a user grant issues. -/
def accessClaims (client : Client) (principal : Principal) (scopes : List String)
    (resource : Option String) (authorizationDetails : Option (List AuthorizationDetail))
    (audience : Option String) (now : DateTime) (exp : ℤ) : StandardClaims where
  type := .bearer
  use := .access
  exp := exp
  iat := now.timestamp
  nbf := now.timestamp
  iss := S.oauthConfig.issuer
  aud := audience.getD client.clientId
  clientId := client.clientId
  sub := S.libs.idToString principal.entityId
  principalType := principal.principalType
  resource := resource
  authorizationDetails := authorizationDetails
  scope := scopes

/-- The claims of the refresh token issued together with an access token. -/
def refreshClaims (access : StandardClaims) (exp : ℤ) : StandardClaims :=
  { access with use := .refresh, exp }

/-- `issue_tokens_for_client`: access, ID and refresh token for a user, each with its own lifetime. -/
def issueTokensForClient (client : Client) (principal : Principal) (scopes : List String)
    (resource : Option String) (authorizationDetails : Option (List AuthorizationDetail))
    (audience : Option String) : ServiceTask TokenResponse := do
  failIf (principal.entityType != .user)
    (.describe .accessDenied "this grant cannot issue user tokens to a client principal")
  let now ← utcNow
  let signingJwk ← loadSigningJwk S principal.key
  let scope := if scopes.isEmpty then none else some (" ".intercalate scopes)
  let exp ← expiry now S.oauthConfig.tokenTtlSecs
  let access := accessClaims S client principal scopes resource authorizationDetails audience now exp
  let accessToken ← check (encodeJwt S.libs signingJwk (standardClaimsToVec S.libs access))
  let userInfo := match principal with
    | .user user _ => some (user.toUserInfo S.libs)
    | .client _ _ => none
  let idClaims : IdTokenClaims := { standardClaims := { access with use := .id }, userInfo }
  let idToken ← check (encodeJwt S.libs signingJwk (idTokenClaimsToVec S.libs idClaims))
  let refreshExp ← expiry now S.oauthConfig.refreshTokenTtlSecs
  let refresh := refreshClaims access refreshExp
  let refreshToken ← check (encodeJwt S.libs signingJwk (standardClaimsToVec S.libs refresh))
  pure
    { idToken := some idToken
      accessToken
      tokenType := .bearer
      expiresIn := some S.oauthConfig.tokenTtlSecs
      refreshToken := some refreshToken
      refreshTokenExpiresIn := some S.oauthConfig.refreshTokenTtlSecs
      scope
      issuer := some S.oauthConfig.issuer }

/-- `issue_client_credentials_access_token`: an access token only, and for the client itself. -/
def issueClientCredentialsAccessToken (client : Client) (principal : Principal)
    (scopes : List String) (audience : String) (resource : Option String) :
    ServiceTask TokenResponse := do
  failIf (principal.entityType != .client || principal.entityId != client.id)
    (.describe .invalidClient "client signing principal does not match the client")
  let now ← utcNow
  let signingJwk ← loadSigningJwk S principal.key
  let exp ← expiry now S.oauthConfig.tokenTtlSecs
  let claims : StandardClaims :=
    { type := .bearer
      use := .access
      exp
      iat := now.timestamp
      nbf := now.timestamp
      iss := S.oauthConfig.issuer
      aud := audience
      clientId := client.clientId
      sub := S.libs.idToString client.id
      principalType := .client
      resource
      authorizationDetails := none
      scope := scopes }
  let accessToken ← check (encodeJwt S.libs signingJwk (standardClaimsToVec S.libs claims))
  pure
    { idToken := none
      accessToken
      tokenType := .bearer
      expiresIn := some S.oauthConfig.tokenTtlSecs
      refreshToken := none
      refreshTokenExpiresIn := none
      scope := some (" ".intercalate scopes)
      issuer := some S.oauthConfig.issuer }

/-! ## Grants -/

/-- `OAuth2Service::password`. -/
def passwordGrant (request : PasswordGrantRequest) (clientAuth : Option OAuth2ClientAuth) :
    ServiceTask TokenResponse := do
  let client ← okOr (← repo (findClientByClientId request.clientId))
    (.describe .invalidClient ("client " ++ request.clientId ++ " not found"))
  check (validateGrantType client .password)
  check (authenticateClientForTokenEndpoint client clientAuth)
  let user ← okOr (← repo (findUserByUsernameOrEmail S.libs request.username))
    (.describe .invalidGrant ("user " ++ request.username ++ " not found"))
  let userPassword ← okOr (← repo (findUserPasswordByUserId user.id))
    (.describe .invalidGrant "user password not found")
  let verified ← check
    (keyResult (S.libs.verifyEncoded userPassword.passwordHash (asBytes request.password)))
  failIf (!verified) (.describe .invalidGrant "invalid username or password")
  let key ← okOr (← repo (findActiveEntityRootKey .user user.id))
    (.describe .invalidGrant "user key not found")
  let principal ← okOr (← findPrincipal S key.id)
    (.describe .invalidGrant "principal not found for user")
  let scopes := intersectScopes (requestedScopes request.scope) client.allowedScopes
  issueTokensForClient S client principal scopes request.resource none none

/-- The PKCE check of a redemption. -/
def checkCodeChallenge (L : Libraries) (codeVerifier : String) (code : OAuth2AuthorizationCode) :
    ErrorResponseResult Unit :=
  match code.codeChallenge, code.codeChallengeMethod with
  | none, _ => .ok ()
  | some _, none => .error (.describe .invalidGrant
      "code_challenge_method is required when code_challenge is present")
  | some challenge, some method => verifyCodeChallenge L codeVerifier challenge method

/-- `OAuth2Service::authorization_code`: the code is read here and consumed in a later step. -/
def authorizationCodeGrant (request : AuthorizationCodeGrantRequest)
    (clientAuth : Option OAuth2ClientAuth) : ServiceTask TokenResponse := do
  let now ← utcNow
  let code ← okOr (← repo (findAuthorizationCodeByCode S.libs request.code))
    (.describe .invalidGrant "authorization code not found")
  failIf code.consumedAt.isSome
    (.describe .invalidGrant "authorization code already consumed")
  failIf (decide (code.expiresAt < now)) (.describe .invalidGrant "authorization code expired")
  let principal ← okOr (← findPrincipal S code.keyId)
    (.describe .invalidGrant "principal not found for authorization code")
  let client ← okOr (← repo (findClientByClientId code.clientId))
    (.describe .invalidClient "client not found")
  check (validateGrantType client .authorizationCode)
  check (authenticateClientForTokenEndpoint client clientAuth)
  check (validateAuthorizationCodeGrant request code.clientId (some code.redirectUri))
  check (checkCodeChallenge S.libs request.codeVerifier code)
  repo (consumeAuthorizationCode code.id now)
  issueTokensForClient S client principal code.scopes code.resource none none

/-- A secret whose positive expiry time has passed. -/
def secretExpired (client : Client) (now : DateTime) : Bool :=
  client.clientSecretExpiresAt.any fun expiresAt => 0 < expiresAt.timestamp && expiresAt ≤ now

/-- `OAuth2Service::client_credentials`: for confidential clients whose secret has not expired. -/
def clientCredentialsGrant (request : ClientCredentialsGrantRequest)
    (clientAuth : Option OAuth2ClientAuth) : ServiceTask TokenResponse := do
  let auth ← okOr clientAuth (.describe .invalidClient "client authentication is required")
  let client ← okOr (← repo (findClientByClientId auth.clientId))
    (.describe .invalidClient "client not found")
  check (validateGrantType client .clientCredentials)
  failIf (client.clientType != .confidential)
    (.describe .unauthorizedClient "client credentials requires a confidential client")
  failIf (secretExpired client (← utcNow))
    (.describe .invalidClient "client credentials have expired")
  check (authenticateClientForTokenEndpoint client (some auth))
  failIf (request.clientId != auth.clientId)
    (.describe .invalidClient "client_id does not match authenticated client")
  let audience ← okOr request.audience
    (.describe .invalidRequest "an audience is required for client credentials")
  failIf (!client.allowedAudiences.contains audience)
    (.describe .invalidRequest "client is not authorized for the requested audience")
  failIf (request.resource.any (· != audience))
    (.describe .invalidRequest "resource must match the approved audience")
  let scopes := requestedScopes request.scope
  failIf scopes.isEmpty
    (.describe .invalidScope "at least one scope is required for client credentials")
  check (validateScopes scopes client.allowedScopes)
  let key ← okOr (← repo (findActiveEntityRootKey .client client.id))
    (.describe .invalidClient "active client signing key not found")
  let principal ← okOr (← findPrincipal S key.id)
    (.describe .invalidClient "client principal is inactive")
  issueClientCredentialsAccessToken S client principal scopes audience request.resource

/-- The scopes a refresh asks for, which must all be in the refresh token. -/
def refreshScopes (scope : Option String) (granted : List String) :
    ErrorResponseResult (List String) :=
  let requested := requestedScopes scope
  if requested.isEmpty then .ok granted
  else
    let scopes := intersectScopes requested granted
    if scopes.length ≠ requested.length then
      .error (.describe .invalidScope "requested scope must be a subset of refresh token scope")
    else .ok scopes

/-- `OAuth2Service::refresh_token`: the claims are decoded before the signature is verified. -/
def refreshTokenGrant (request : RefreshTokenGrantRequest) (clientAuth : Option OAuth2ClientAuth) :
    ServiceTask TokenResponse := do
  let now ← utcNow
  let (jwtHeader, refreshToken) ← check
    (decodeJwt S.libs (standardClaimsFromSlice S.libs) request.refreshToken)
  failIf (refreshToken.use != .refresh)
    (.describe .invalidGrant "token is not a refresh token")
  failIf (decide (refreshToken.exp < now.timestamp))
    (.describe .invalidGrant "refresh token is expired")
  let keyId ← okOr (S.libs.parseId jwtHeader.kid)
    (.describe .invalidGrant "invalid refresh token signing key")
  let key ← okOr (← repo (findKeyById keyId))
    (.describe .invalidGrant "refresh token signing key not found")
  let client ← okOr (← repo (findClientByClientId refreshToken.clientId))
    (.describe .invalidClient "client not found")
  check (validateGrantType client .refreshToken)
  check (authenticateClientForTokenEndpoint client clientAuth)
  let scopes ← check (refreshScopes request.scope refreshToken.scope)
  let principal ← okOr (← findPrincipal S key.id)
    (.describe .invalidGrant "principal not found for refresh token")
  issueTokensForClient S client principal scopes refreshToken.resource
    refreshToken.authorizationDetails none

/-- The claims of a subject token that an exchange accepts. -/
def validSubjectToken (claims : StandardClaims) (now : ℤ) : Bool :=
  claims.type == .bearer && claims.use == .access && claims.iss == S.oauthConfig.issuer &&
    decide (now < claims.exp) && decide (claims.nbf ≤ now) && claims.aud != ""

/-- `OAuth2Service::token_exchange`: narrows an access token to a storage audience. -/
def tokenExchangeGrant (request : TokenExchangeGrantRequest)
    (clientAuth : Option OAuth2ClientAuth) : ServiceTask TokenResponse := do
  failIf (request.subjectTokenType != .accessToken)
    (.describe .invalidRequest "subject_token_type must be access_token")
  let (jwtHeader, _) ← check
    (decodeJwt S.libs (standardClaimsFromSlice S.libs) request.subjectToken)
  let keyId ← okOr (S.libs.parseId jwtHeader.kid)
    (.describe .invalidGrant "invalid subject token signing key")
  let jwk ← findPublicJwk S keyId
  let (_, subjectToken) ← check
    (verifyJwt S.libs (standardClaimsFromSlice S.libs) jwk request.subjectToken)
  let now := (← utcNow).timestamp
  failIf (!validSubjectToken S subjectToken now)
    (.describe .invalidGrant "invalid subject access token")
  let key ← okOr (← repo (findKeyById keyId))
    (.describe .invalidGrant "subject token signing key not found")
  let client ← okOr (← repo (findClientByClientId subjectToken.clientId))
    (.describe .invalidClient "client not found")
  check (validateGrantType client .tokenExchange)
  check (authenticateClientForTokenEndpoint client clientAuth)
  let requested := requestedScopes request.scope
  let scopes := if requested.isEmpty then subjectToken.scope
    else intersectScopes requested subjectToken.scope
  check (request.authorizationDetails.elim (.ok ()) validateAuthorizationDetails)
  let principal ← okOr (← findPrincipal S key.id)
    (.describe .invalidGrant "principal not found for subject_token")
  let resource := request.resource.or subjectToken.resource
  issueTokensForClient S client principal scopes resource request.authorizationDetails resource

/-- The token endpoint. -/
def token (request : TokenRequest) (clientAuth : Option OAuth2ClientAuth) :
    ServiceTask TokenResponse :=
  match request with
  | .password request => passwordGrant S request clientAuth
  | .authorizationCode request => authorizationCodeGrant S request clientAuth
  | .clientCredentials request => clientCredentialsGrant S request clientAuth
  | .refreshToken request => refreshTokenGrant S request clientAuth
  | .tokenExchange request => tokenExchangeGrant S request clientAuth

end

end LocalPlatform.Idp
