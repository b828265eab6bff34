import LocalPlatform.Idp.Grants

/-!
# Authorization, consent and bearer tokens

The rest of `OAuth2Service` that concerns users: authorization codes, the consents they depend
on and the removal of users and clients; and the check of a bearer token in
`idp-server/src/router/middleware/authorization.rs`.
-/

namespace LocalPlatform.Idp

open Resumption

section
variable (S : OAuth2Service)

/-! ## Consents -/

/-- `upsert_user_consent`, its errors already turned into responses. A consent that exists is
only touched, with a time that always moves forward. -/
def upsertUserConsent (id userId : Id) (clientId redirectUri scope : String) :
    ServiceTask OAuth2UserConsent := do
  let existing ← repo (findUserConsent userId clientId redirectUri scope)
  let now := (← utcNow).withoutNanoseconds
  match existing with
  | some consent => do
    let updatedAt ← if now.timestamp ≤ consent.updatedAt.timestamp
      then okOr (consent.updatedAt.addSeconds 1) (.panicked "DateTime + TimeDelta overflowed")
      else pure now
    repo (touchConsentRow consent.id updatedAt.timestamp)
    repo (ensureClear .userConsents consent.id "conflicted user consent")
    pure { consent with updatedAt }
  | none => do
    let consent : OAuth2UserConsent :=
      { id, userId, clientId, redirectUri, scope, createdAt := now, updatedAt := now }
    repo (insertConsentRow S.libs consent.toRow)
    repo (ensureClear .userConsents consent.id "conflicted user consent")
    pure consent

/-- `approve_for_user`, with the identifier of a new consent drawn by the caller. -/
def approveForUser (consentId : Id) (request : ApproveForUserRequest) (principal : Principal) :
    ServiceTask IsAllowedForUserResponse := do
  failIf (principal.entityType != .user)
    (.describe .accessDenied "only users can approve clients")
  let client ← okOr (← repo (findClientByClientId request.clientId))
    (.describe .invalidClient "client not found")
  failIf (!client.redirectUris.contains request.redirectUri)
    (.describe .invalidRequest "redirect_uri is not allowed for this client")
  let requestedScopes := parseScopes request.scope
  check (validateScopes requestedScopes client.allowedScopes)
  let effectiveScopes := intersectScopes requestedScopes client.allowedScopes
  let _ ← upsertUserConsent S consentId principal.entityId client.clientId request.redirectUri
    (normalizeScopes effectiveScopes)
  pure { allowed := true }

/-- `is_allowed_for_user`: a foreign redirect URI is answered with no, not with an error. -/
def isAllowedForUser (request : IsAllowedForUserRequest) (principal : Principal) :
    ServiceTask IsAllowedForUserResponse := do
  failIf (principal.entityType != .user)
    (.describe .accessDenied "only users can check client approval")
  let client ← okOr (← repo (findClientByClientId request.clientId))
    (.describe .invalidClient "client not found")
  if !client.redirectUris.contains request.redirectUri then pure { allowed := false }
  else do
    let requestedScopes := parseScopes request.scope
    check (validateScopes requestedScopes client.allowedScopes)
    let effectiveScopes := intersectScopes requestedScopes client.allowedScopes
    let consent ← repo (findUserConsent principal.entityId client.clientId request.redirectUri
      (normalizeScopes effectiveScopes))
    pure { allowed := consent.isSome }

/-- `revoke_user_consent`: the consent of another user is answered like a missing one. -/
def revokeUserConsent (userId consentId : Id) : ServiceTask Unit := do
  failIf (← repo (findUserById S.libs userId)).isNone (.describe .notFound "User not found")
  let consent ← okOr (← repo (findUserConsentById consentId))
    (.describe .notFound "User consent not found")
  failIf (consent.userId != userId) (.describe .notFound "User consent not found")
  repo (deleteUserConsentById consentId)

/-! ## Authorization codes -/

/-- The first half of `authorize`: everything it checks before it creates a code. -/
def checkAuthorization (request : AuthorizationRequest) (principal : Principal) :
    ServiceTask (Client × String × List String) := do
  let client ← okOr (← repo (findClientByClientId request.clientId))
    (.describe .invalidClient "client not found")
  check (validateAuthorizationRequest request client S.oauthConfig.requirePkce)
  let redirectUri ← check (resolveRedirectUri request client)
  let scopes := intersectScopes (requestedScopes request.scope) client.allowedScopes
  failIf (principal.entityType != .user)
    (.describe .accessDenied "only users can authorize clients")
  let consent ← repo (findUserConsent principal.entityId client.clientId redirectUri
    (normalizeScopes scopes))
  failIf consent.isNone (.describe .accessDenied "client approval required")
  pure (client, redirectUri, scopes)

/-- `authorize`: the code is drawn only after every check of the request. -/
def authorize (random : CodeRandomness) (request : AuthorizationRequest) (principal : Principal) :
    ServiceTask AuthorizationCodeResponse := do
  let (client, redirectUri, scopes) ← checkAuthorization S request principal
  let now ← utcNow
  let expiresAt ← okOr (now.addSeconds S.oauthConfig.authorizationCodeTtlSecs)
    (.panicked "DateTime + TimeDelta overflowed")
  let authorizationCode ← repo (createAuthorizationCode S.libs random client.clientId
    principal.key.id redirectUri scopes request.resource request.codeChallenge
    request.codeChallengeMethod request.nonce expiresAt)
  pure (.success authorizationCode.code request.state (some S.oauthConfig.issuer))

/-! ## Removal -/

/-- `delete_user`. -/
def deleteUser (userId : Id) : ServiceTask Unit := do
  failIf (← repo (findUserById S.libs userId)).isNone (.describe .notFound "User not found")
  repo (deleteUserById userId)

/-- `delete_client`. -/
def deleteClient (clientId : String) : ServiceTask Unit := repo (deleteClientByClientId clientId)

/-! ## Bearer tokens -/

/-- What a request is authorized by. -/
structure Authorization where
  principal : Principal
  claims : StandardClaims
  token : String
deriving DecidableEq, Repr

/-- The entity type a token claims its principal to be. -/
def PrincipalType.entityType : PrincipalType → EntityType
  | .user => .user
  | .client => .client

/-- The claims of a bearer token that the middleware accepts. -/
def validBearerClaims (claims : StandardClaims) (principal : Principal)
    (expectedPrincipal : Option PrincipalType) (now : ℤ) : Bool :=
  claims.type == .bearer && claims.use == .access &&
    claims.iss == S.oauthConfig.toMetadata.issuer && decide (now < claims.exp) &&
    decide (claims.nbf ≤ now) && principal.entityType == claims.principalType.entityType &&
    !(expectedPrincipal.any (· != claims.principalType)) &&
    claims.sub == S.libs.idToString principal.entityId && claims.aud != ""

/-- `authorize_bearer_with_principal`: the key named in the header has to be the active root of its
entity, and its claims have to name that entity. -/
def authorizeBearerWithPrincipal (authorizationString : String)
    (expectedPrincipal : Option PrincipalType) : ServiceTask Authorization := do
  let (jwtHeader, _) ← check
    (decodeJwt S.libs (standardClaimsFromSlice S.libs) authorizationString)
  let keyId ← okOr (S.libs.parseId jwtHeader.kid) (.response (.new .notAuthorized))
  let principal ← okOr (← findPrincipal S keyId)
    (.describe .notAuthorized "principal not found for key id")
  let jwk ← findPublicJwk S keyId
  let (_, claims) ← check
    (verifyJwt S.libs (standardClaimsFromSlice S.libs) jwk authorizationString)
  let now ← utcNow
  -- `duration_since(UNIX_EPOCH)`
  failIf (decide (now < 0)) (.response (.new .notAuthorized))
  failIf (!validBearerClaims S claims principal expectedPrincipal now.timestamp)
    (.describe .notAuthorized "invalid bearer token claims")
  pure { principal, claims, token := authorizationString }

/-- `authorize_bearer`: users only. -/
def authorizeBearer (authorizationString : String) : ServiceTask Authorization :=
  authorizeBearerWithPrincipal S authorizationString (some .user)

/-- `authorize_bearer_client`: clients only. -/
def authorizeBearerClient (authorizationString : String) : ServiceTask Authorization :=
  authorizeBearerWithPrincipal S authorizationString (some .client)

/-! ## Routes -/

namespace Router

/-- The handler `authorize_json`. -/
def authorizeJson (bearer : String) (random : CodeRandomness) (request : AuthorizationRequest) :
    ServiceTask AuthorizationCodeResponse := do
  let authorization ← authorizeBearer S bearer
  authorize S random request authorization.principal

/-- The handler `approve_for_user`. -/
def approveForUser (bearer : String) (consentId : Id) (request : ApproveForUserRequest) :
    ServiceTask IsAllowedForUserResponse := do
  let authorization ← authorizeBearer S bearer
  Idp.approveForUser S consentId request authorization.principal

end Router

end

end LocalPlatform.Idp
