import LocalPlatform.Lib.Task
import LocalPlatform.Idp.Jwt

/-!
# Repositories of the identity provider

The tables the token service works on, and the repository functions of `idp-service/src/replica`
over them. A call of the database engine, of the key ring or of the clock is one atomic step.
A table lists its rows in the order in which the engine scans them. The engine answers every
call; only a violated unique index makes an insertion fail.
-/

namespace LocalPlatform.Idp

open Resumption

/-! ## Tables -/

/-- The tables of the identity provider. -/
inductive Table where
  | applications
  | clients
  | credentials
  | keys
  | users
  | userEmails
  | authorizationCodes
  | userConsents
deriving DecidableEq, Repr

/-- A text column that holds JSON, as `serde_json` reads it: the value, or the parse error. -/
abbrev JsonText (α : Type) := Except String α

/-- A row of the table `applications`. -/
structure ApplicationRow where
  id : Id
  name : String
  uri : String
  description : Option String
  createdAt : ℤ
  updatedAt : ℤ
deriving DecidableEq, Repr

/-- A row of the table `clients`; enumerations are integers and lists are JSON texts. -/
structure ClientRow where
  id : Id
  applicationId : Id
  clientId : String
  clientSecret : String
  clientIdIssuedAt : Option ℤ
  clientSecretExpiresAt : Option ℤ
  clientName : String
  clientUri : String
  redirectUris : JsonText (List String)
  clientType : ℤ
  profile : ℤ
  tokenEndpointAuthMethod : ℤ
  allowedGrantTypes : JsonText (List GrantType)
  responseTypes : JsonText (List ResponseType)
  allowedScopes : JsonText (List String)
  allowedAudiences : JsonText (List String)
  logoUri : Option String
  contacts : JsonText (List String)
  termsOfServiceUri : Option String
  policyUri : Option String
  softwareStatement : Option String
  softwareId : Option String
  softwareVersion : Option String
  createdAt : ℤ
  updatedAt : ℤ

/-- A row of the table `keys`. -/
structure KeyRow where
  id : Id
  parentId : Option Id
  entityType : ℤ
  entityId : Id
  derivationPath : String
  derivationIndex : ℤ
  hardened : ℤ
  name : String
  revokedAt : Option ℤ
  expiresAt : Option ℤ
  createdAt : ℤ
  updatedAt : ℤ
deriving DecidableEq, Repr

/-- A row of the table `users`. -/
structure UserRow where
  id : Id
  name : String
  givenName : Option String
  familyName : Option String
  middleName : Option String
  nickname : Option String
  profile : Option String
  picture : Option String
  website : Option String
  sex : Option ℤ
  birthdate : Option String
  zoneinfo : Option String
  locale : Option String
  createdAt : ℤ
  updatedAt : ℤ
  handle : String
deriving DecidableEq, Repr

/-- A row of the table `user_emails`. -/
structure EmailRow where
  id : Id
  userId : Id
  email : String
  verified : ℤ
  primary : ℤ
  createdAt : ℤ
  updatedAt : ℤ
deriving DecidableEq, Repr

/-- A row of the table `credentials`. -/
structure CredentialRow where
  id : Id
  userId : Id
  kind : String
  secretHash : String
  active : Bool
  revokedAt : Option ℤ
  createdAt : ℤ
  updatedAt : ℤ
deriving DecidableEq, Repr

/-- A row of the table `oauth2_authorization_codes`. -/
structure AuthorizationCodeRow where
  id : Id
  codeHash : String
  clientId : String
  keyId : Id
  redirectUri : String
  scopes : JsonText (List String)
  resource : Option String
  codeChallenge : Option String
  codeChallengeMethod : Option ℤ
  nonce : Option String
  expiresAt : ℤ
  consumedAt : Option ℤ
  createdAt : ℤ
  updatedAt : ℤ

/-- A row of the table `oauth2_user_consents`. -/
structure ConsentRow where
  id : Id
  userId : Id
  clientId : String
  redirectUri : String
  scope : String
  createdAt : ℤ
  updatedAt : ℤ
deriving DecidableEq, Repr

/-- Everything the token service can observe: the tables, the columns the engine reports as
conflicted, the key ring and the clock. -/
structure Store where
  applications : List ApplicationRow
  clients : List ClientRow
  keys : List KeyRow
  users : List UserRow
  userEmails : List EmailRow
  credentials : List CredentialRow
  authorizationCodes : List AuthorizationCodeRow
  userConsents : List ConsentRow := []
  conflicts : Table → Id → List String
  privateKeys : String → DerivationPath → Option DerivedKey
  now : DateTime

/-- What an atomic step does. -/
inductive Access where
  | clock
  | select (table : Table)
  | conflicts (table : Table) (id : Id)
  | insert (table : Table)
  | update (table : Table) (id : Id)
  | delete (table : Table) (id : Id)
  | loadPrivateKey
  | storePrivateKey
  | deletePrivateKey
deriving DecidableEq, Repr

/-! ## Errors -/

/-- The errors of the repositories. -/
inductive RepoError where
  | key (message : String)
  | invalidInput (message : String)
  | other (message : String)
deriving DecidableEq, Repr

/-- The `Display` form of a repository error. -/
def RepoError.toString : RepoError → String
  | .key message => s!"key error: {message}"
  | .invalidInput message => s!"invalid input: {message}"
  | .other message => message

/-- `From<RepoError> for ErrorResponse` -/
def RepoError.toResponse (e : RepoError) : ErrorResponse := .describe .serverError e.toString

/-- The result of a repository call. -/
abbrev RepoResult (α : Type) := Except RepoError α

/-- A repository call as steps over the store. -/
abbrev RepoTask (α : Type) := Task Access Store RepoError α

/-! ## Reading rows -/

/-- A stored number of seconds as a point in time. -/
def timestamp (what : String) (value : ℤ) : RepoResult DateTime :=
  (DateTime.fromTimestamp value).elim (.error (.invalidInput s!"invalid {what} timestamp")) .ok

/-- The same for a nullable column. -/
def timestampOption (what : String) (value : Option ℤ) : RepoResult (Option DateTime) :=
  match value with
  | none => .ok none
  | some secs => (timestamp what secs).map some

/-- `serde_json::from_str` of a JSON column. -/
def json {α : Type} (text : JsonText α) : RepoResult α := text.mapError .other

@[simp] lemma json_ok {α : Type} {a b : α} : json (.ok a : JsonText α) = .ok b ↔ a = b := by
  simp [json, Except.mapError]

/-- `client_type`: the column read back. -/
def clientTypeOfInteger : ℤ → RepoResult ClientType
  | 0 => .ok .confidential
  | 1 => .ok .publicClient
  | _ => .error (.invalidInput "invalid client type")

/-- The column `client_type`. -/
def ClientType.toInteger : ClientType → ℤ
  | .confidential => 0
  | .publicClient => 1

@[simp] lemma clientTypeOfInteger_toInteger (t : ClientType) :
    clientTypeOfInteger t.toInteger = .ok t := by
  cases t <;> rfl

/-- `profile`: the column read back. -/
def profileOfInteger : ℤ → RepoResult ClientProfile
  | 0 => .ok .web
  | 1 => .ok .userAgentBased
  | 2 => .ok .native
  | _ => .error (.invalidInput "invalid client profile")

/-- The column `profile`. -/
def ClientProfile.toInteger : ClientProfile → ℤ
  | .web => 0
  | .userAgentBased => 1
  | .native => 2

/-- `token_endpoint_auth_method`: the column read back. -/
def tokenEndpointAuthMethodOfInteger : ℤ → RepoResult TokenEndpointAuthMethod
  | 0 => .ok .clientSecretBasic
  | 1 => .ok .clientSecretPost
  | 2 => .ok .privateKeyJwt
  | 3 => .ok .clientSecretJwt
  | 4 => .ok .none
  | _ => .error (.invalidInput "invalid client token endpoint auth method")

/-- The column `token_endpoint_auth_method`. -/
def TokenEndpointAuthMethod.toInteger : TokenEndpointAuthMethod → ℤ
  | .clientSecretBasic => 0
  | .clientSecretPost => 1
  | .privateKeyJwt => 2
  | .clientSecretJwt => 3
  | .none => 4

@[simp] lemma tokenEndpointAuthMethodOfInteger_toInteger (m : TokenEndpointAuthMethod) :
    tokenEndpointAuthMethodOfInteger m.toInteger = .ok m := by
  cases m <;> rfl

/-- `Client::try_from` -/
def ClientRow.toClient (row : ClientRow) : RepoResult Client := do
  pure
    { id := row.id
      applicationId := row.applicationId
      clientId := row.clientId
      clientSecret := row.clientSecret
      clientIdIssuedAt := ← timestampOption "client" row.clientIdIssuedAt
      clientSecretExpiresAt := ← timestampOption "client" row.clientSecretExpiresAt
      clientName := row.clientName
      clientUri := row.clientUri
      redirectUris := ← json row.redirectUris
      clientType := ← clientTypeOfInteger row.clientType
      profile := ← profileOfInteger row.profile
      tokenEndpointAuthMethod := ← tokenEndpointAuthMethodOfInteger row.tokenEndpointAuthMethod
      allowedGrantTypes := ← json row.allowedGrantTypes
      responseTypes := ← json row.responseTypes
      allowedScopes := ← json row.allowedScopes
      allowedAudiences := ← json row.allowedAudiences
      logoUri := row.logoUri
      contacts := ← json row.contacts
      termsOfServiceUri := row.termsOfServiceUri
      policyUri := row.policyUri
      softwareStatement := row.softwareStatement
      softwareId := row.softwareId
      softwareVersion := row.softwareVersion
      createdAt := ← timestamp "client" row.createdAt
      updatedAt := ← timestamp "client" row.updatedAt }

/-- `ClientRow::from` -/
def Client.toRow (c : Client) : ClientRow where
  id := c.id
  applicationId := c.applicationId
  clientId := c.clientId
  clientSecret := c.clientSecret
  clientIdIssuedAt := c.clientIdIssuedAt.map DateTime.timestamp
  clientSecretExpiresAt := c.clientSecretExpiresAt.map DateTime.timestamp
  clientName := c.clientName
  clientUri := c.clientUri
  redirectUris := .ok c.redirectUris
  clientType := c.clientType.toInteger
  profile := c.profile.toInteger
  tokenEndpointAuthMethod := c.tokenEndpointAuthMethod.toInteger
  allowedGrantTypes := .ok c.allowedGrantTypes
  responseTypes := .ok c.responseTypes
  allowedScopes := .ok c.allowedScopes
  allowedAudiences := .ok c.allowedAudiences
  logoUri := c.logoUri
  contacts := .ok c.contacts
  termsOfServiceUri := c.termsOfServiceUri
  policyUri := c.policyUri
  softwareStatement := c.softwareStatement
  softwareId := c.softwareId
  softwareVersion := c.softwareVersion
  createdAt := c.createdAt.timestamp
  updatedAt := c.updatedAt.timestamp

/-- `ClientRow::assignments`: every column but the identifiers and the creation time. -/
def ClientRow.assign (row new : ClientRow) (updatedAt : ℤ) : ClientRow :=
  { new with id := row.id, clientId := row.clientId, createdAt := row.createdAt, updatedAt }

end LocalPlatform.Idp
