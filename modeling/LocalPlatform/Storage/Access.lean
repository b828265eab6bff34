import LocalPlatform.Idp.Authorize
import LocalPlatform.Idp.TokenForm

/-!
# Access to storage

`StorageClient` exchanges the access token of a user for one with storage actions, and the storage
server decides by the claims of that token what its bearer may do.
-/

namespace LocalPlatform.Storage

open Idp (AuthorizationDetail OAuth2Service ServiceTask StandardClaims StorageAuthorizationAction
  Store TokenRequest TokenResponse)
open Resumption.Task (okOr failIf)

/-! ## The client -/

/-- `StorageClientOptions`, with the token that `bearerToken` returns. -/
structure StorageClientOptions where
  audience : String
  clientId : String
  bearerToken : String
deriving DecidableEq, Repr

/-- The JSON text of the authorization details that `exchangeToken` asks for. -/
def authorizationDetailsText (actions : List StorageAuthorizationAction) : String :=
  Json.stringify (.array
    [.object [("type", .string "storage"),
      ("actions", .array (actions.map fun action => .string action.text))]])

/-- The form that `exchangeToken` posts to the token endpoint, without an `Authorization` header. -/
def exchangeToken (options : StorageClientOptions) (actions : List StorageAuthorizationAction) :
    Except String Idp.Form :=
  if options.bearerToken.isEmpty then .error "Missing OIDC access token"
  else .ok
    [("grant_type", "urn:ietf:params:oauth:grant-type:token-exchange"),
      ("subject_token", options.bearerToken),
      ("subject_token_type", "urn:ietf:params:oauth:token-type:access_token"),
      ("audience", options.audience),
      ("client_id", options.clientId),
      ("authorization_details", authorizationDetailsText actions)]

/-- The token endpoint answers the form of the client with the response. -/
def Obtains (S : OAuth2Service) (s : Store) (options : StorageClientOptions)
    (actions : List StorageAuthorizationAction) (r : TokenResponse) : Prop :=
  ∃ form request, exchangeToken options actions = .ok form ∧
    TokenRequest.fromForm form = some request ∧
    (Idp.token S request (Idp.clientAuthWithoutHeader request)).eval s = .ok r

/-! ## The server -/

/-- Why a request of the storage server has no access. -/
inductive StorageAuthorizationError where
  | invalidToken
  | serviceUnavailable
deriving DecidableEq, Repr

/-- What the server knows of the bearer of a token. -/
structure StorageAuthorization where
  subject : String
  applicationId : String
  resource : String
  expiresAt : ℤ
  canRead : Bool
  canWrite : Bool
deriving DecidableEq, Repr

/-- The answer of the introspection endpoint about a valid token. -/
structure IntrospectionResponse where
  claims : StandardClaims
  applicationId : String
deriving DecidableEq, Repr

/-- The handler `introspect` of the identity provider, for the bearer token of a header. -/
def introspect (S : OAuth2Service) (serviceAudience : String) (bearer : Option String)
    (token : String) : ServiceTask IntrospectionResponse := do
  let callerToken ← okOr (bearer.filter (!·.isEmpty)) (.response (.new .notAuthorized))
  let caller ← Idp.authorizeBearerClient S callerToken
  failIf (caller.claims.aud != serviceAudience) (.response (.new .notAuthorized))
  failIf (!caller.claims.scope.contains "idp.token.validate") (.response (.new .accessDenied))
  let client ← okOr (← Idp.repo (Idp.findClientByClientId caller.claims.clientId))
    (.describe .invalidClient "client not found")
  let inspected ← Idp.authorizeBearerWithPrincipal S token none
  failIf (!client.allowedAudiences.contains inspected.claims.aud) (.response (.new .notAuthorized))
  let issuedTo ← okOr (← Idp.repo (Idp.findClientByClientId inspected.claims.clientId))
    (.response (.new .invalidClient))
  pure ⟨inspected.claims, S.libs.idToString issuedTo.applicationId⟩

/-- `storage_authorization`, at the given Unix time. -/
def storageAuthorization (now : ℤ) (response : IntrospectionResponse) :
    Except StorageAuthorizationError StorageAuthorization :=
  let claims := response.claims
  if claims.type ≠ .bearer ∨ claims.use ≠ .access ∨ claims.principalType ≠ .user ∨
      claims.exp ≤ now then .error .invalidToken
  else
    match claims.resource.filter (claims.aud == ·), claims.authorizationDetails with
    | some resource, some [.storage detail] =>
      let canRead := detail.actions.contains .read
      let canWrite := detail.actions.contains .write
      if !canRead && !canWrite then .error .invalidToken
      else .ok
        { subject := claims.sub
          applicationId := response.applicationId
          resource
          expiresAt := claims.exp
          canRead
          canWrite }
    | _, _ => .error .invalidToken

end LocalPlatform.Storage
