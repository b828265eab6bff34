import LocalPlatform.Idp.Contract
import LocalPlatform.Lib.Json

/-!
# The form of the token endpoint

The body of a call of `/oauth2/token` is a form, whose field `grant_type` tells what the other
fields are. Authorization details are a JSON text in one of the fields.
-/

namespace LocalPlatform.Idp

open Json (field optionalField)

/-- The fields of a form with their values. -/
abbrev Form := List (String × String)

/-! ## Authorization details -/

/-- The text of an action. -/
def StorageAuthorizationAction.text : StorageAuthorizationAction → String
  | .read => "read"
  | .write => "write"

/-- An action read from JSON; no other text is one. -/
def StorageAuthorizationAction.fromJson : Json → Option StorageAuthorizationAction
  | .string "read" => some .read
  | .string "write" => some .write
  | _ => none

/-- A detail read from JSON by its member `type`. -/
def AuthorizationDetail.fromJson : Json → Option AuthorizationDetail
  | .object members => do
    let type ← (← field members "type").asString
    if type = "storage" then
      let actions ← Json.asList StorageAuthorizationAction.fromJson (← field members "actions")
      pure (.storage { actions })
    else none
  | _ => none

/-- `deserialize_authorization_details`, at a text -/
def authorizationDetailsFromText (text : String) : Option (List AuthorizationDetail) := do
  Json.asList AuthorizationDetail.fromJson (← Json.parse text)

/-! ## Requests -/

/-- The token type URNs. -/
def SubjectTokenType.fromText (text : String) : Option SubjectTokenType :=
  if text = "urn:ietf:params:oauth:token-type:jwt" then some .jwt
  else if text = "urn:ietf:params:oauth:token-type:access_token" then some .accessToken
  else if text = "urn:ietf:params:oauth:token-type:refresh_token" then some .refreshToken
  else if text = "urn:ietf:params:oauth:token-type:id_token" then some .idToken
  else if text = "urn:ietf:params:oauth:token-type:saml1" then some .saml1
  else if text = "urn:ietf:params:oauth:token-type:saml2" then some .saml2
  else none

/-- The form of the password grant. -/
def PasswordGrantRequest.fromForm (form : Form) : Option PasswordGrantRequest := do
  pure
    { clientId := ← field form "client_id"
      username := ← field form "username"
      password := ← field form "password"
      scope := ← optionalField form "scope"
      resource := ← optionalField form "resource" }

/-- The form of the authorization code grant; without a verifier it is refused. -/
def AuthorizationCodeGrantRequest.fromForm (form : Form) :
    Option AuthorizationCodeGrantRequest := do
  pure
    { clientId := ← optionalField form "client_id"
      code := ← field form "code"
      codeVerifier := ← field form "code_verifier"
      redirectUri := ← optionalField form "redirect_uri" }

/-- The form of the client credentials grant. -/
def ClientCredentialsGrantRequest.fromForm (form : Form) :
    Option ClientCredentialsGrantRequest := do
  pure
    { clientId := ← field form "client_id"
      clientSecret := ← field form "client_secret"
      scope := ← optionalField form "scope"
      audience := ← optionalField form "audience"
      resource := ← optionalField form "resource" }

/-- The form of the refresh grant. -/
def RefreshTokenGrantRequest.fromForm (form : Form) : Option RefreshTokenGrantRequest := do
  pure
    { refreshToken := ← field form "refresh_token"
      scope := ← optionalField form "scope" }

/-- The form of the token exchange; `authorization_details` is a JSON text in one field. -/
def TokenExchangeGrantRequest.fromForm (form : Form) : Option TokenExchangeGrantRequest := do
  let details ← optionalField form "authorization_details"
  pure
    { subjectToken := ← field form "subject_token"
      subjectTokenType := ← SubjectTokenType.fromText (← field form "subject_token_type")
      actorToken := ← optionalField form "actor_token"
      actorTokenType := ← optionalField form "actor_token_type"
      resource := ← optionalField form "resource"
      audience := ← optionalField form "audience"
      authorizationDetails := ← details.mapM authorizationDetailsFromText
      scope := ← optionalField form "scope"
      requestedTokenType := ← optionalField form "requested_token_type" }

/-- The request in a form. Fields that the grant does not know are ignored. -/
def TokenRequest.fromForm (form : Form) : Option TokenRequest := do
  let grantType ← field form "grant_type"
  if grantType = "password" then
    (PasswordGrantRequest.fromForm form).map .password
  else if grantType = "authorization_code" then
    (AuthorizationCodeGrantRequest.fromForm form).map .authorizationCode
  else if grantType = "client_credentials" then
    (ClientCredentialsGrantRequest.fromForm form).map .clientCredentials
  else if grantType = "refresh_token" then
    (RefreshTokenGrantRequest.fromForm form).map .refreshToken
  else if grantType = "urn:ietf:params:oauth:grant-type:token-exchange" then
    (TokenExchangeGrantRequest.fromForm form).map .tokenExchange
  else none

/-- `parse_client_auth`, for a call without an `Authorization` header. -/
def clientAuthWithoutHeader : TokenRequest → Option OAuth2ClientAuth
  | .clientCredentials request =>
    some
      { clientId := request.clientId
        clientSecret := some request.clientSecret
        method := .clientSecretPost }
  | .password _ | .authorizationCode _ | .refreshToken _ | .tokenExchange _ => none

end LocalPlatform.Idp
