import LocalPlatform.Idp.Repos

/-!
# The token service

`OAuth2Service` of `oauth2/service.rs`: dynamic registration of clients and the five grants of
the token endpoint, with the scope, PKCE and request checks they call.
-/

namespace LocalPlatform.Idp

open Resumption Text List

/-- A call of the service: steps over the store, failing with a response or a panic. -/
abbrev ServiceTask (α : Type) := Task Access Store Failure α

/-- What a service instance is built from: library code, settings and key ring namespace. -/
structure OAuth2Service where
  libs : Libraries
  oauthConfig : OAuth2Config
  keyNamespace : String

/-- `map_err(ErrorResponse::from)` on a repository call. -/
def repo {α : Type} (t : RepoTask α) : ServiceTask α := t.mapError fun e => .response e.toResponse

/-- A check that answers with an error response. -/
def check {α : Type} (r : ErrorResponseResult α) : ServiceTask α :=
  Task.lift (r.mapError .response)

/-- `From<KeyError> for ErrorResponse` -/
def keyResult {α : Type} (r : Except String α) : ErrorResponseResult α :=
  r.mapError fun error => .describe .serverError error

/-! ## Scopes -/

/-- `parse_scopes`; the pieces of `split_whitespace` are never empty. -/
def parseScopes (scope : String) : List String := (splitWhitespace scope).filter (· != "")

/-- The scopes a request names, none if it names no scope. -/
def requestedScopes (scope : Option String) : List String := (scope.map parseScopes).getD []

/-- `validate_scopes`: asking for nothing is always allowed. -/
def validateScopes (requested allowed : List String) : ErrorResponseResult Unit :=
  if requested.isEmpty then .ok ()
  else if allowed.isEmpty then
    .error (.describe .invalidScope "client is not authorized for the requested scopes")
  else
    let unauthorized := requested.filter fun scope => !allowed.contains scope
    if unauthorized.isEmpty then .ok ()
    else .error (.describe .invalidScope ("unsupported scopes: " ++ " ".intercalate unauthorized))

/-- Every requested scope is allowed. -/
@[simp] lemma validateScopes_ok {requested allowed : List String} :
    validateScopes requested allowed = .ok () ↔ ∀ scope ∈ requested, scope ∈ allowed := by
  have hunauthorized : (requested.filter fun scope => !allowed.contains scope).isEmpty = true ↔
      ∀ scope ∈ requested, scope ∈ allowed := by
    rw [List.isEmpty_iff, List.filter_eq_nil_iff]
    simp only [contains_eq_mem, Bool.not_eq_true', decide_eq_false_iff_not, not_not]
  unfold validateScopes
  split
  · simp_all
  · split
    · rename_i hrequested hallow
      obtain ⟨scope, hscope⟩ := exists_mem_of_ne_nil requested (by simpa using hrequested)
      obtain rfl : allowed = [] := by simpa using hallow
      simp only [reduceCtorEq, not_mem_nil, imp_false, false_iff, not_forall, not_not]
      exact ⟨scope, hscope⟩
    · dsimp only
      split <;> simp_all

/-- The scopes a request asks for are words. -/
lemma isWord_of_mem_requestedScopes {scope : Option String} {w : String}
    (h : w ∈ requestedScopes scope) : IsWord w := by
  cases scope with
  | none => simp [requestedScopes] at h
  | some text =>
    obtain ⟨hw, -⟩ := mem_filter.mp (show w ∈ parseScopes text from h)
    exact isWord_of_mem_splitWhitespace hw

/-- `intersect_scopes`: a request that names no scope gets all that is allowed. -/
def intersectScopes (requested allowed : List String) : List String :=
  if requested.isEmpty then allowed else requested.filter allowed.contains

/-- Whatever is requested, nothing but what is allowed is left. -/
lemma intersectScopes_subset (requested allowed : List String) :
    intersectScopes requested allowed ⊆ allowed := by
  unfold intersectScopes
  split
  · exact List.Subset.refl _
  · intro scope hscope
    simpa using (mem_filter.mp hscope).2

/-- `normalize_scopes`: sorted, without repetitions, joined by spaces. -/
def normalizeScopes (scopes : List String) : String := " ".intercalate (sortedSet scopes)

/-! ## Request checks -/

/-- `validate_dynamic_client_grants`. -/
def validateDynamicClientGrants (grantTypes : List GrantType) : ErrorResponseResult Unit :=
  if grantTypes.contains .clientCredentials then
    .error (.describe .unauthorizedClient
      "client credentials clients require trusted owner provisioning")
  else .ok ()

@[simp] lemma validateDynamicClientGrants_ok {grantTypes : List GrantType} :
    validateDynamicClientGrants grantTypes = .ok () ↔ .clientCredentials ∉ grantTypes := by
  unfold validateDynamicClientGrants
  split <;> simp_all

/-- Some action of the list occurs in it more than once. -/
def hasRepeatedAction : List StorageAuthorizationAction → Bool
  | [] => false
  | action :: rest => rest.contains action || hasRepeatedAction rest

/-- `validate_authorization_details`: one storage detail with actions that do not repeat. -/
def validateAuthorizationDetails (details : List AuthorizationDetail) : ErrorResponseResult Unit :=
  match details with
  | [.storage detail] =>
    if detail.actions.isEmpty || hasRepeatedAction detail.actions then
      .error (.describe .invalidRequest "storage actions must be non-empty and unique")
    else .ok ()
  | _ => .error (.describe .invalidRequest "exactly one storage authorization detail is required")

/-- `verify_code_challenge` -/
def verifyCodeChallenge (L : Libraries) (codeVerifier codeChallenge : String)
    (method : CodeChallengeMethod) : ErrorResponseResult Unit :=
  match method with
  | .s256 =>
    if L.urlSafeEncode (L.sha256 (asBytes codeVerifier)) = codeChallenge then .ok ()
    else .error (.new .invalidGrant)

/-- `validate_authorization_code_grant`: a redirect URI is compared only where both sides name one. -/
def validateAuthorizationCodeGrant (request : AuthorizationCodeGrantRequest)
    (expectedClientId : String) (expectedRedirectUri : Option String) : ErrorResponseResult Unit :=
  if request.code = "" then .error (.describe .invalidRequest "code is required")
  else if request.codeVerifier = "" then
    .error (.describe .invalidRequest "code_verifier is required")
  else if request.clientId.any (· != expectedClientId) then .error (.new .invalidClient)
  else if request.redirectUri.any fun uri => expectedRedirectUri.any (· != uri) then
    .error (.describe .invalidGrant "redirect_uri does not match the authorization request")
  else .ok ()

/-! ## Authorization requests -/

/-- `validate_response_type`: a client that registered no response type may use any. -/
def validateResponseType (request : AuthorizationRequest) (client : Client) :
    ErrorResponseResult Unit :=
  if request.responseType ≠ .code then .error (.new .unsupportedResponseType)
  else if client.responseTypes.isEmpty || client.responseTypes.contains request.responseType then
    .ok ()
  else .error (.new .invalidResponseType)

/-- `resolve_redirect_uri`: it may be left out where exactly one is registered. -/
def resolveRedirectUri (request : AuthorizationRequest) (client : Client) :
    ErrorResponseResult String :=
  match request.redirectUri, client.redirectUris with
  | some redirectUri, redirectUris =>
    if redirectUris.contains redirectUri then .ok redirectUri
    else .error (.describe .invalidRequest "redirect_uri is not registered for this client")
  | none, [redirectUri] => .ok redirectUri
  | none, _ => .error (.describe .invalidRequest
      "redirect_uri is required when multiple redirect URIs are registered")

/-- `validate_pkce`: challenge and method come together, and public clients need both. -/
def validatePkce (request : AuthorizationRequest) (client : Client) (requirePkce : Bool) :
    ErrorResponseResult Unit :=
  let pkceRequired := requirePkce || client.clientType == .publicClient
  match request.codeChallenge, request.codeChallengeMethod with
  | some _, some .s256 => .ok ()
  | some _, none => .error (.describe .invalidRequest
      "code_challenge_method is required when code_challenge is present")
  | none, some _ => .error (.describe .invalidRequest
      "code_challenge is required when code_challenge_method is present")
  | none, none =>
    if pkceRequired then
      .error (.describe .invalidRequest "PKCE is required for this authorization request")
    else .ok ()

/-- `validate_response_mode`. -/
def validateResponseMode (request : AuthorizationRequest) : ErrorResponseResult Unit :=
  match request.responseMode with
  | none | some .query | some .formPost => .ok ()

/-- `validate_authorization_request`: the first check that fails gives the error. -/
def validateAuthorizationRequest (request : AuthorizationRequest) (client : Client)
    (requirePkce : Bool) : ErrorResponseResult Unit := do
  if request.clientId ≠ client.clientId then .error (.new .invalidClient)
  validateResponseType request client
  let _ ← resolveRedirectUri request client
  validatePkce request client requirePkce
  validateResponseMode request
  match request.scope with
  | some scope => validateScopes (parseScopes scope) client.allowedScopes
  | none => pure ()

/-! ## Token requests -/

/-- An empty list of grant types allows every grant. -/
def validateGrantType (client : Client) (grantType : GrantType) : ErrorResponseResult Unit :=
  if client.allowedGrantTypes.isEmpty || client.allowedGrantTypes.contains grantType then .ok ()
  else .error (.describe .unauthorizedClient "client is not authorized for this grant type")

/-- The grant is registered, or no grant is. -/
@[simp] lemma validateGrantType_ok {client : Client} {grantType : GrantType} :
    validateGrantType client grantType = .ok () ↔
      client.allowedGrantTypes = [] ∨ grantType ∈ client.allowedGrantTypes := by
  unfold validateGrantType
  split <;> simp_all

/-- `authenticate_client_for_token_endpoint`: the method has to be the registered one, and one with
a secret. -/
def authenticateClientForTokenEndpoint (client : Client) (clientAuth : Option OAuth2ClientAuth) :
    ErrorResponseResult Unit :=
  match client.clientType, clientAuth with
  | .confidential, none =>
    .error (.describe .invalidClient "client authentication is required")
  | .confidential, some auth =>
    if auth.clientId ≠ client.clientId then
      .error (.describe .invalidClient "client_id does not match token subject")
    else if auth.method ≠ client.tokenEndpointAuthMethod ∨
        ¬(auth.method = .clientSecretBasic ∨ auth.method = .clientSecretPost) then
      .error (.describe .invalidClient "unsupported client authentication method")
    else if auth.clientSecret ≠ some client.clientSecret then
      .error (.describe .invalidClient "invalid client credentials")
    else .ok ()
  | .publicClient, none => .ok ()
  | .publicClient, some auth =>
    if auth.clientId ≠ client.clientId then
      .error (.describe .invalidClient "client_id does not match token subject")
    else .ok ()

/-- A confidential client authenticates with a secret, in the way it is registered for. -/
lemma authenticate_confidential {client : Client} {auth : OAuth2ClientAuth}
    (hcl : client.clientType = .confidential)
    (h : authenticateClientForTokenEndpoint client (some auth) = .ok ()) :
    client.tokenEndpointAuthMethod = .clientSecretBasic ∨
      client.tokenEndpointAuthMethod = .clientSecretPost := by
  unfold authenticateClientForTokenEndpoint at h
  simp only [hcl] at h
  split at h
  · cases h
  · split at h
    · cases h
    · rename_i hmeth
      rw [not_or, not_not, not_not] at hmeth
      rw [← hmeth.1]
      exact hmeth.2

/-! ## Dynamic registration -/

section
variable (S : OAuth2Service)

/-- `register_client`: identifier and secret are drawn unless the request names them. -/
def registerClient (random : RegistrationRandomness) (request : ClientRegistration) :
    ServiceTask ClientRegistration := do
  check (validateDynamicClientGrants request.allowedGrantTypes)
  let registration := { request with
    clientId := some (request.clientId.getD random.clientId)
    clientSecret := some (request.clientSecret.getD random.clientSecret) }
  let client ← repo (createClient S.libs S.keyNamespace random registration)
  pure client.toRegistration

/-- The record an update writes over an existing client. -/
def updatedClient (existing : Client) (request : ClientRegistration) (now : DateTime) : Client where
  id := existing.id
  applicationId := existing.applicationId
  clientId := existing.clientId
  clientSecret := request.clientSecret.getD existing.clientSecret
  clientIdIssuedAt := existing.clientIdIssuedAt
  clientSecretExpiresAt :=
    (request.clientSecretExpiresAt.bind DateTime.fromTimestamp).or existing.clientSecretExpiresAt
  clientName := request.clientName
  clientUri := request.clientUri.getD existing.clientUri
  redirectUris := request.redirectUris
  clientType := request.clientType
  profile := request.profile
  tokenEndpointAuthMethod := request.tokenEndpointAuthMethod
  allowedGrantTypes := request.allowedGrantTypes
  responseTypes := request.responseTypes
  allowedScopes := request.allowedScopes
  allowedAudiences := request.allowedAudiences
  logoUri := request.logoUri
  contacts := request.contacts
  termsOfServiceUri := request.termsOfServiceUri
  policyUri := request.policyUri
  softwareStatement := request.softwareStatement
  softwareId := request.softwareId
  softwareVersion := request.softwareVersion
  createdAt := existing.createdAt
  updatedAt := now

/-- `update_client`: the grants are checked before the client is looked up. -/
def updateClient (clientId : String) (request : ClientRegistration) :
    ServiceTask ClientRegistration := do
  check (validateDynamicClientGrants request.allowedGrantTypes)
  let existing ← okOr (← repo (findClientByClientId clientId))
    (.describe .invalidClient "client not found")
  let now ← utcNow
  let client ← repo (updateClientRow (updatedClient existing request now))
  pure client.toRegistration

end

end LocalPlatform.Idp
