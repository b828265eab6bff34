import Mathlib.Data.Int.Notation
import Mathlib.Data.Nat.Notation

/-!
# Contract types of the identity provider

The request, response and record types of `idp-model` and `model` that the token service reads
and returns. Timestamps are nanoseconds since the Unix epoch, and an identifier is the number
its UUID spells.
-/

namespace LocalPlatform.Idp

/-- An identifier; the source's UUID. -/
abbrev Id := ℕ

/-- A byte string, `Vec<u8>`. -/
abbrev Bytes := List UInt8

/-! ## Time -/

/-- A point in time, in nanoseconds since the epoch. -/
abbrev DateTime := ℤ

namespace DateTime

/-- A `DateTime` counts nanoseconds. -/
def nanosPerSecond : ℤ := 1000000000

/-- Whole seconds since the epoch, rounded down. -/
def timestamp (t : DateTime) : ℤ := t / nanosPerSecond

/-- The seconds the calendar of the time library can represent. -/
def minTimestamp : ℤ := -8334601228800

/-- The last second `DateTime::from_timestamp` accepts. -/
def maxTimestamp : ℤ := 8210266876799

/-- `DateTime::from_timestamp` with no nanoseconds: `none` outside the calendar's range. -/
def fromTimestamp (secs : ℤ) : Option DateTime :=
  if minTimestamp ≤ secs ∧ secs ≤ maxTimestamp then some (secs * nanosPerSecond) else none

/-- A time that the calendar can represent. -/
def Representable (t : DateTime) : Prop :=
  minTimestamp ≤ t.timestamp ∧ t.timestamp ≤ maxTimestamp

/-- Drop the part below a second. -/
def withoutNanoseconds (t : DateTime) : DateTime := t.timestamp * nanosPerSecond

/-- The longest duration in seconds the time library accepts, `i64::MAX / 1000`. -/
def maxDurationSeconds : ℤ := 9223372036854775

/-- `t + Duration::seconds(ttl as i64)`. Both the duration and the sum panic when they leave
their range, which is `none` here. -/
def addSeconds (t : DateTime) (ttl : UInt64) : Option DateTime :=
  let secs := ttl.toInt64.toInt
  let sum := t + secs * nanosPerSecond
  if -maxDurationSeconds ≤ secs ∧ secs ≤ maxDurationSeconds ∧
      minTimestamp ≤ timestamp sum ∧ timestamp sum ≤ maxTimestamp then some sum else none

end DateTime

/-! ## Errors -/

/-- The codes of an error response. -/
inductive ErrorCode where
  | notFound
  | unauthorizedClient
  | accessDenied
  | notAuthorized
  | serverError
  | temporarilyUnavailable
  | invalidGrant
  | invalidClient
  | invalidRequest
  | invalidScope
  | invalidResponseType
  | unsupportedResponseType
  | unsupportedGrantType
  | notImplemented
deriving DecidableEq, Repr

/-- The JSON body of a failed request. -/
structure ErrorResponse where
  error : ErrorCode
  errorDescription : Option String := none
  errorUri : Option String := none
deriving DecidableEq, Repr

namespace ErrorResponse

/-- `ErrorResponse::new`. -/
def new (code : ErrorCode) : ErrorResponse := { error := code }

/-- `ErrorResponse::with_description`. -/
def withDescription (e : ErrorResponse) (description : String) : ErrorResponse :=
  { e with errorDescription := some description }

/-- An error response with a description. -/
def describe (code : ErrorCode) (description : String) : ErrorResponse :=
  (new code).withDescription description

end ErrorResponse

/-- The result of a service call. -/
abbrev ErrorResponseResult (α : Type) := Except ErrorResponse α

/-- How a request to the token service ends without a result: an error response, or a panic of
the handler. -/
inductive Failure where
  | response (e : ErrorResponse)
  | panicked (message : String)
deriving DecidableEq, Repr

/-- A described error response, as a service returns it. -/
def Failure.describe (code : ErrorCode) (description : String) : Failure :=
  .response (.describe code description)

/-! ## Enumerations -/

/-- The grant types a client may be registered for. -/
inductive GrantType where
  | password
  | authorizationCode
  | clientCredentials
  | refreshToken
  | tokenExchange
deriving DecidableEq, Repr

/-- Whether a client can keep a secret. -/
inductive ClientType where
  | confidential
  | publicClient
deriving DecidableEq, Repr

/-- Where a client runs. -/
inductive ClientProfile where
  | web
  | userAgentBased
  | native
deriving DecidableEq, Repr

/-- How a client authenticates at the token endpoint. -/
inductive TokenEndpointAuthMethod where
  | clientSecretBasic
  | clientSecretPost
  | privateKeyJwt
  | clientSecretJwt
  | none
deriving DecidableEq, Repr

/-- What the authorization endpoint answers with. -/
inductive ResponseType where
  | code
deriving DecidableEq, Repr

/-- How the authorization response travels. -/
inductive ResponseMode where
  | query
  | formPost
deriving DecidableEq, Repr

/-- The PKCE methods accepted; `plain` is not among them. -/
inductive CodeChallengeMethod where
  | s256
deriving DecidableEq, Repr

/-- The owner of a key. -/
inductive EntityType where
  | user
  | client
deriving DecidableEq, Repr

/-- The `Display` form of an entity type. -/
def EntityType.toString : EntityType → String
  | .user => "user"
  | .client => "client"

/-- The kinds of token that may be exchanged. -/
inductive SubjectTokenType where
  | jwt
  | accessToken
  | refreshToken
  | idToken
  | saml1
  | saml2
deriving DecidableEq, Repr

/-- How an access token is presented. -/
inductive TokenType where
  | bearer
  | dpop
deriving DecidableEq, Repr

/-- What a signed token is for, its claim `use`. -/
inductive TokenUse where
  | id
  | access
  | refresh
deriving DecidableEq, Repr

/-- Whom a token speaks for. -/
inductive PrincipalType where
  | user
  | client
deriving DecidableEq, Repr

/-- The member `use` of a JWK. -/
inductive KeyUse where
  | signature
  | encryption
deriving DecidableEq, Repr

/-- The signature algorithms a JWK may name. -/
inductive JwsAlgorithm where
  | rs256 | rs384 | rs512 | es256 | es384 | es512 | ps256 | ps384 | ps512 | edDSA
deriving DecidableEq, Repr

/-- A claim of a user's profile. -/
inductive Sex where
  | male
  | female
deriving DecidableEq, Repr

/-- The `Display` form of a sex. -/
def Sex.toString : Sex → String
  | .male => "male"
  | .female => "female"

/-! ## Claims -/

/-- What a storage grant allows. -/
inductive StorageAuthorizationAction where
  | read
  | write
deriving DecidableEq, Repr

/-- The actions a token is narrowed to on the storage server. -/
structure StorageAuthorizationDetail where
  actions : List StorageAuthorizationAction
deriving DecidableEq, Repr

/-- An element of `authorization_details`; storage is the one kind. -/
inductive AuthorizationDetail where
  | storage (detail : StorageAuthorizationDetail)
deriving DecidableEq, Repr

/-- The claims of an access or refresh token. -/
structure StandardClaims where
  type : TokenType
  use : TokenUse
  exp : ℤ
  iat : ℤ
  nbf : ℤ
  iss : String
  aud : String
  clientId : String
  sub : String
  principalType : PrincipalType
  resource : Option String
  authorizationDetails : Option (List AuthorizationDetail)
  scope : List String
deriving DecidableEq, Repr

/-- The profile claims of an ID token, also the answer of the userinfo endpoint. -/
structure UserInfo where
  sub : String
  permissions : List String
  name : Option String
  givenName : Option String
  familyName : Option String
  middleName : Option String
  nickname : Option String
  preferredUsername : Option String
  profile : Option String
  picture : Option String
  website : Option String
  email : Option String
  emailVerified : Option Bool
  phoneNumber : Option String
  phoneNumberVerified : Option Bool
  gender : Option String
  birthdate : Option String
  zoneinfo : Option String
  locale : Option String
  updatedAt : DateTime
deriving DecidableEq, Repr

/-- The claims of a signed token: the standard ones, with the profile in an ID token. -/
structure IdTokenClaims where
  standardClaims : StandardClaims
  userInfo : Option UserInfo
deriving DecidableEq, Repr

/-! ## Keys -/

/-- The members of a private JWK that depend on its key type. -/
inductive JwkPrivateParameters where
  | rsa (n e d p q : String)
  | ec (crv x y d : String)
  | opk (crv x d : String)
  | oct (k : String)
deriving DecidableEq, Repr

/-- The members of a public JWK that depend on its key type. -/
inductive JwkPublicParameters where
  | rsa (n e : String)
  | ec (crv x y : String)
  | opk (crv x : String)
deriving DecidableEq, Repr

/-- A private JWK. -/
structure JwkPrivate where
  use : KeyUse
  kid : String
  alg : JwsAlgorithm
  params : JwkPrivateParameters
deriving DecidableEq, Repr

/-- A public JWK, as `jwks_uri` publishes it. -/
structure JwkPublic where
  use : KeyUse
  kid : String
  alg : JwsAlgorithm
  params : JwkPublicParameters
deriving DecidableEq, Repr

/-! ## Requests and responses of the token endpoint -/

/-- The application a registration belongs to, named by its URI. -/
structure ApplicationRegistration where
  name : Option String
  uri : String
  description : Option String
deriving DecidableEq, Repr

/-- The body of a client registration. -/
structure ClientRegistration where
  application : ApplicationRegistration
  clientId : Option String
  clientSecret : Option String
  clientIdIssuedAt : Option ℤ
  clientSecretExpiresAt : Option ℤ
  clientName : String
  clientUri : Option String
  logoUri : Option String
  contacts : List String
  termsOfServiceUri : Option String
  policyUri : Option String
  clientType : ClientType
  profile : ClientProfile
  redirectUris : List String
  allowedGrantTypes : List GrantType
  responseTypes : List ResponseType
  allowedScopes : List String
  allowedAudiences : List String
  tokenEndpointAuthMethod : TokenEndpointAuthMethod
  softwareStatement : Option String
  softwareId : Option String
  softwareVersion : Option String
deriving DecidableEq, Repr

/-- What a request presents to authenticate its client. -/
structure OAuth2ClientAuth where
  clientId : String
  clientSecret : Option String
  method : TokenEndpointAuthMethod
deriving DecidableEq, Repr

/-- The parameters of the password grant. -/
structure PasswordGrantRequest where
  clientId : String
  username : String
  password : String
  scope : Option String
  resource : Option String
deriving DecidableEq, Repr

/-- The parameters of the authorization code grant. -/
structure AuthorizationCodeGrantRequest where
  clientId : Option String
  code : String
  codeVerifier : String
  redirectUri : Option String
deriving DecidableEq, Repr

/-- The parameters of the client credentials grant. -/
structure ClientCredentialsGrantRequest where
  clientId : String
  clientSecret : String
  scope : Option String
  audience : Option String
  resource : Option String
deriving DecidableEq, Repr

/-- The parameters of the refresh grant. -/
structure RefreshTokenGrantRequest where
  refreshToken : String
  scope : Option String
deriving DecidableEq, Repr

/-- The actor token, the audience and the requested token type are accepted by the endpoint and
read by nothing. -/
structure TokenExchangeGrantRequest where
  subjectToken : String
  subjectTokenType : SubjectTokenType
  actorToken : Option String
  actorTokenType : Option String
  resource : Option String
  audience : Option String
  authorizationDetails : Option (List AuthorizationDetail)
  scope : Option String
  requestedTokenType : Option String
deriving DecidableEq, Repr

/-- The body of a token request, by its `grant_type`. -/
inductive TokenRequest where
  | password (request : PasswordGrantRequest)
  | authorizationCode (request : AuthorizationCodeGrantRequest)
  | clientCredentials (request : ClientCredentialsGrantRequest)
  | refreshToken (request : RefreshTokenGrantRequest)
  | tokenExchange (request : TokenExchangeGrantRequest)
deriving DecidableEq, Repr

/-- The answer to a granted token request. -/
structure TokenResponse where
  idToken : Option String
  accessToken : String
  tokenType : TokenType
  expiresIn : Option UInt64
  refreshToken : Option String
  refreshTokenExpiresIn : Option UInt64
  scope : Option String
  issuer : Option String
deriving DecidableEq, Repr

/-! ## Requests and responses of the authorization endpoint -/

/-- The prompt, the hints and the locales are accepted by the endpoint and read by nothing. -/
structure AuthorizationRequest where
  responseType : ResponseType
  clientId : String
  redirectUri : Option String
  scope : Option String
  state : Option String
  resource : Option String
  codeChallenge : Option String
  codeChallengeMethod : Option CodeChallengeMethod
  nonce : Option String
  prompt : Option String
  responseMode : Option ResponseMode
  loginHint : Option String
  idTokenHint : Option String
  uiLocales : Option String
deriving DecidableEq, Repr

/-- What the authorization endpoint redirects with. -/
inductive AuthorizationCodeResponse where
  | success (code : String) (state : Option String) (issuer : Option String)
  | error (error : ErrorResponse) (state : String)
deriving DecidableEq, Repr

/-- A user's consent to a client at a redirect URI for a scope. -/
structure ApproveForUserRequest where
  clientId : String
  redirectUri : String
  scope : String
deriving DecidableEq, Repr

/-- The question whether such a consent exists. -/
structure IsAllowedForUserRequest where
  clientId : String
  redirectUri : String
  scope : String
deriving DecidableEq, Repr

/-- The answer to it. -/
structure IsAllowedForUserResponse where
  allowed : Bool
deriving DecidableEq, Repr

/-! ## Records -/

/-- A registered client. -/
structure Client where
  id : Id
  applicationId : Id
  clientId : String
  clientSecret : String
  clientIdIssuedAt : Option DateTime
  clientSecretExpiresAt : Option DateTime
  clientName : String
  clientUri : String
  redirectUris : List String
  clientType : ClientType
  profile : ClientProfile
  tokenEndpointAuthMethod : TokenEndpointAuthMethod
  allowedGrantTypes : List GrantType
  responseTypes : List ResponseType
  allowedScopes : List String
  allowedAudiences : List String
  logoUri : Option String
  contacts : List String
  termsOfServiceUri : Option String
  policyUri : Option String
  softwareStatement : Option String
  softwareId : Option String
  softwareVersion : Option String
  createdAt : DateTime
  updatedAt : DateTime
deriving DecidableEq, Repr

/-- What the registration endpoints answer with. -/
def Client.toRegistration (c : Client) : ClientRegistration where
  application := { name := some c.clientName, uri := c.clientUri, description := none }
  clientId := some c.clientId
  clientSecret := some c.clientSecret
  clientIdIssuedAt := c.clientIdIssuedAt.map DateTime.timestamp
  clientSecretExpiresAt := c.clientSecretExpiresAt.map DateTime.timestamp
  clientName := c.clientName
  clientUri := some c.clientUri
  redirectUris := c.redirectUris
  clientType := c.clientType
  profile := c.profile
  tokenEndpointAuthMethod := c.tokenEndpointAuthMethod
  allowedGrantTypes := c.allowedGrantTypes
  responseTypes := c.responseTypes
  allowedScopes := c.allowedScopes
  allowedAudiences := c.allowedAudiences
  logoUri := c.logoUri
  contacts := c.contacts
  termsOfServiceUri := c.termsOfServiceUri
  policyUri := c.policyUri
  softwareStatement := c.softwareStatement
  softwareId := c.softwareId
  softwareVersion := c.softwareVersion

/-- A key of the tree of an entity; the secret itself is in the key ring. -/
structure Key where
  id : Id
  parentId : Option Id
  entityType : EntityType
  entityId : Id
  derivationPath : String
  derivationIndex : ℕ
  name : String
  hardened : Bool
  revokedAt : Option DateTime
  expiresAt : Option DateTime
  createdAt : DateTime
  updatedAt : DateTime
deriving DecidableEq, Repr

/-- A user with the profile claims. -/
structure User where
  id : Id
  name : String
  givenName : Option String
  familyName : Option String
  middleName : Option String
  nickname : Option String
  profile : Option String
  picture : Option String
  website : Option String
  sex : Option Sex
  birthdate : Option DateTime
  zoneinfo : Option String
  locale : Option String
  createdAt : DateTime
  updatedAt : DateTime
deriving DecidableEq, Repr

/-- An address of a user. -/
structure UserEmail where
  id : Id
  userId : Id
  email : String
  verified : Bool
  primary : Bool
  createdAt : DateTime
  updatedAt : DateTime
deriving DecidableEq, Repr

/-- A password credential; only its hash is kept. -/
structure UserPassword where
  id : Id
  userId : Id
  active : Bool
  passwordHash : String
  createdAt : DateTime
  updatedAt : DateTime
deriving DecidableEq, Repr

/-- An authorization code with what it was issued for. -/
structure OAuth2AuthorizationCode where
  id : Id
  code : String
  clientId : String
  keyId : Id
  redirectUri : String
  scopes : List String
  resource : Option String
  codeChallenge : Option String
  codeChallengeMethod : Option CodeChallengeMethod
  nonce : Option String
  expiresAt : DateTime
  consumedAt : Option DateTime
  createdAt : DateTime
  updatedAt : DateTime
deriving DecidableEq, Repr

/-- A recorded consent. -/
structure OAuth2UserConsent where
  id : Id
  userId : Id
  clientId : String
  redirectUri : String
  scope : String
  createdAt : DateTime
  updatedAt : DateTime
deriving DecidableEq, Repr

/-! ## Settings -/

/-- The settings the token service reads. -/
structure OAuth2Config where
  issuer : String := "https://api.localhost:1355/idp"
  requirePkce : Bool := true
  tokenTtlSecs : UInt64 := 3600
  refreshTokenTtlSecs : UInt64 := 2592000
  authorizationCodeTtlSecs : UInt64 := 600
deriving DecidableEq, Repr

/-- The metadata document of the authorization server. -/
structure AuthorizationServerMetadata where
  issuer : String
  authorizationEndpoint : Option String
  tokenEndpoint : Option String
  jwksUri : Option String
  registrationEndpoint : Option String
  userinfoEndpoint : Option String
  scopesSupported : List String
  responseTypesSupported : List ResponseType
  responseModesSupported : List ResponseMode
  grantTypesSupported : List GrantType
  tokenEndpointAuthMethodsSupported : List TokenEndpointAuthMethod
  tokenEndpointAuthSigningAlgValuesSupported : List String
  serviceDocumentation : Option String
  uiLocalesSupported : List String
  opPolicyUri : Option String
  opTosUri : Option String
  revocationEndpoint : Option String
  revocationEndpointAuthMethodsSupported : List TokenEndpointAuthMethod
  revocationEndpointAuthSigningAlgValuesSupported : List String
  introspectionEndpoint : Option String
  introspectionEndpointAuthMethodsSupported : List TokenEndpointAuthMethod
  introspectionEndpointAuthSigningAlgValuesSupported : List String
  codeChallengeMethodsSupported : List CodeChallengeMethod
  signedMetadata : Option String
  pushedAuthorizationRequestEndpoint : Option String
  dpopSigningAlgValuesSupported : List String
  requirePkce : Bool

/-- `trim_end_matches('/')` -/
def trimEndSlashes (s : String) : String :=
  String.ofList (s.toList.reverse.dropWhile (· == '/')).reverse

/-- `to_metadata` -/
def OAuth2Config.toMetadata (config : OAuth2Config) : AuthorizationServerMetadata :=
  let issuer := trimEndSlashes config.issuer
  { issuer
    authorizationEndpoint := some (issuer ++ "/oauth2/auth")
    tokenEndpoint := some (issuer ++ "/oauth2/token")
    jwksUri := some (issuer ++ "/.well-known/jwks.json")
    registrationEndpoint := some (issuer ++ "/oauth2/register")
    userinfoEndpoint := some (issuer ++ "/userinfo")
    scopesSupported :=
      ["openid", "profile", "email", "address", "phone", "offline_access", "storage"]
    responseTypesSupported := [.code]
    responseModesSupported := [.query, .formPost]
    grantTypesSupported := [.authorizationCode, .clientCredentials, .refreshToken, .tokenExchange]
    tokenEndpointAuthMethodsSupported := [.clientSecretBasic, .clientSecretPost, .none]
    tokenEndpointAuthSigningAlgValuesSupported := []
    serviceDocumentation := none
    uiLocalesSupported := []
    opPolicyUri := none
    opTosUri := none
    revocationEndpoint := some (issuer ++ "/oauth2/revoke")
    revocationEndpointAuthMethodsSupported := [.clientSecretBasic, .clientSecretPost, .none]
    revocationEndpointAuthSigningAlgValuesSupported := []
    introspectionEndpoint := none
    introspectionEndpointAuthMethodsSupported := []
    introspectionEndpointAuthSigningAlgValuesSupported := []
    codeChallengeMethodsSupported := [.s256]
    signedMetadata := none
    pushedAuthorizationRequestEndpoint := none
    dpopSigningAlgValuesSupported := []
    requirePkce := config.requirePkce }

end LocalPlatform.Idp
