import LocalPlatform.Idp.Store

/-!
# Repository functions

`DbApplicationRepo`, `DbClientRepo`, `DbKeyRepo`, `DbUserRepo`, `DbOAuth2AuthorizationCodeRepo`,
`DbOAuth2UserConsentRepo` and `KeyService`, as tasks over the store.
-/

namespace LocalPlatform.Idp

open Resumption Text

/-- `Utc::now()` -/
def utcNow {ε : Type} : Task Access Store ε DateTime := .read .clock fun s => .ok s.now

/-- Run a selection and decode the rows it returns. -/
def selectRows {ρ α : Type} (table : Table) (rows : Store → List ρ) (predicate : ρ → Bool)
    (decode : ρ → RepoResult α) : RepoTask (List α) :=
  .read (.select table) fun s => ((rows s).filter predicate).mapM decode

/-- `ensure_clear`: the engine reports no conflicted column for the row. -/
def ensureClear (table : Table) (id : Id) (message : String) : RepoTask Unit :=
  .read (.conflicts table id) fun s =>
    if (s.conflicts table id).isEmpty then .ok () else .error (.invalidInput message)

/-! ## Clients -/

/-- `DbClientRepo::clients`: one row that does not decode fails the whole query. -/
def clientsWhere (predicate : ClientRow → Bool) : RepoTask (List Client) :=
  selectRows .clients Store.clients predicate ClientRow.toClient

/-- The first client of a selection, if the engine reports no conflict on it. -/
def clearClient (predicate : ClientRow → Bool) : RepoTask (Option Client) := do
  match (← clientsWhere predicate).head? with
  | some client =>
    ensureClear .clients client.id "conflicted client"
    pure (some client)
  | none => pure none

/-- `DbClientRepo::find_client_by_id`. -/
def findClientById (id : Id) : RepoTask (Option Client) := clearClient (·.id == id)

/-- `DbClientRepo::find_client_by_client_id`. -/
def findClientByClientId (clientId : String) : RepoTask (Option Client) :=
  clearClient (·.clientId == clientId)

/-- `update_client` of the repository. -/
def updateClientRow (client : Client) : RepoTask Client := do
  ensureClear .clients client.id "conflicted client"
  let updatedAt := (← utcNow).withoutNanoseconds
  Task.atomic (.update .clients client.id) fun s =>
    (.ok (), { s with clients := s.clients.map fun row =>
      if row.id = client.id then row.assign client.toRow updatedAt.timestamp else row })
  pure { client with updatedAt }

/-- `DbClientRepo::delete_client_by_client_id`: its keys stay in the table `keys`. -/
def deleteClientByClientId (clientId : String) : RepoTask Unit := do
  let client ← okOr (← findClientByClientId clientId) (.invalidInput "client not found")
  Task.atomic (.delete .clients client.id) fun s =>
    (.ok (), { s with clients := s.clients.filter fun row => row.id != client.id })

/-! ## Keys -/

/-- `Key::try_from`: integers outside the range of their column's type are refused. -/
def KeyRow.toKey (row : KeyRow) : RepoResult Key := do
  pure
    { id := row.id
      parentId := row.parentId
      entityType := ← match row.entityType with
        | 0 => Except.ok EntityType.user
        | 1 => Except.ok EntityType.client
        | _ => .error (.invalidInput "invalid key entity type")
      entityId := row.entityId
      derivationPath := row.derivationPath
      derivationIndex := ← if 0 ≤ row.derivationIndex ∧ row.derivationIndex < 2 ^ 32
        then Except.ok row.derivationIndex.toNat
        else .error (.invalidInput "invalid key derivation index")
      hardened := row.hardened != 0
      name := row.name
      revokedAt := ← timestampOption "key" row.revokedAt
      expiresAt := ← timestampOption "key" row.expiresAt
      createdAt := ← timestamp "key" row.createdAt
      updatedAt := ← timestamp "key" row.updatedAt }

/-- The column `entity_type`. -/
def EntityType.toInteger : EntityType → ℤ
  | .user => 0
  | .client => 1

/-- `KeyRow::from`. -/
def Key.toRow (k : Key) : KeyRow where
  id := k.id
  parentId := k.parentId
  entityType := k.entityType.toInteger
  entityId := k.entityId
  derivationPath := k.derivationPath
  derivationIndex := k.derivationIndex
  hardened := if k.hardened then 1 else 0
  name := k.name
  revokedAt := k.revokedAt.map DateTime.timestamp
  expiresAt := k.expiresAt.map DateTime.timestamp
  createdAt := k.createdAt.timestamp
  updatedAt := k.updatedAt.timestamp

/-- Neither revoked nor expired. -/
def Key.active (k : Key) (now : DateTime) : Bool :=
  k.revokedAt.all (now < ·) && k.expiresAt.all (now < ·)

/-- `DbKeyRepo::keys`: every key of the table, so one that does not decode fails each lookup. -/
def allKeys : RepoTask (List Key) := selectRows .keys Store.keys (fun _ => true) KeyRow.toKey

/-- The loop of `ensure_clear` over the keys found. -/
def ensureKeysClear : List Key → RepoTask Unit
  | [] => pure ()
  | key :: keys => do
    ensureClear .keys key.id "conflicted key"
    ensureKeysClear keys

/-- `DbKeyRepo::list_by_entity_type_and_id`: the active keys of one entity. -/
def listKeysByEntity (entityType : EntityType) (entityId : Id) : RepoTask (List Key) := do
  let now ← utcNow
  let keys := (← allKeys).filter fun key =>
    key.entityType == entityType && key.entityId == entityId && key.active now
  ensureKeysClear keys
  pure keys

/-- `DbKeyRepo::find_by_id`: a revoked or expired key is not found. -/
def findKeyById (id : Id) : RepoTask (Option Key) := do
  let keys ← allKeys
  let now ← utcNow
  match keys.find? fun key => key.id == id && key.active now with
  | some key =>
    ensureClear .keys key.id "conflicted key"
    pure (some key)
  | none => pure none

/-- `Iterator::max_by_key`: the last of the elements with the largest key. -/
def maxByKey {α : Type} (f : α → ℤ) (l : List α) : Option α :=
  l.foldl (fun best a => match best with
    | none => some a
    | some b => if f b ≤ f a then some a else some b) none

/-- `DbKeyRepo::find_active_entity_root_key`: the newest active key without parent. -/
def findActiveEntityRootKey (entityType : EntityType) (entityId : Id) : RepoTask (Option Key) := do
  let keys ← listKeysByEntity entityType entityId
  pure (maxByKey (·.createdAt) (keys.filter (·.parentId.isNone)))

/-- `Key::build_derivation_path` -/
def buildDerivationPath (parent : Option String) (index : ℕ) (hardened : Bool) : String :=
  parent.getD "m" ++ s!"/{index}" ++ if hardened then "'" else ""

/-- One more than the largest index among the siblings. -/
def nextDerivationIndex (siblings : List Key) : RepoResult ℕ :=
  match (siblings.map (·.derivationIndex)).max? with
  | none => .ok 0
  | some index =>
    if index + 1 < 2 ^ 32 then .ok (index + 1)
    else .error (.invalidInput "key derivation index exhausted")

/-- The parent of a new key, which must exist. -/
def parentKey : Option Id → RepoTask (Option Key)
  | some parentId => do
    let key ← okOr (← findKeyById parentId) (.invalidInput "parent key not found")
    pure (some key)
  | none => pure none

/-- The `INSERT` of `create_key` with the unique indexes of the table `keys`. -/
def insertKeyRow (L : Libraries) (key : Key) : RepoTask Unit :=
  .atomic (.insert .keys) fun s =>
    if s.keys.any fun row => row.id == key.id || row.derivationPath == key.derivationPath ||
        (row.parentId == key.parentId && row.derivationIndex == key.derivationIndex) then
      (.error (.invalidInput L.uniqueViolation), s)
    else (.ok (), { s with keys := s.keys ++ [key.toRow] })

/-- `create_key` of the repository. The new identifier is drawn by the caller. -/
def createKeyRow (L : Libraries) (id : Id) (parentId : Option Id) (entityType : EntityType)
    (entityId : Id) (hardened : Bool) (name : String) (expiresAt : Option DateTime) :
    RepoTask Key := do
  let parent ← parentKey parentId
  let siblings := (← allKeys).filter (·.parentId == parentId)
  let derivationIndex ← Task.lift (nextDerivationIndex siblings)
  let now := (← utcNow).withoutNanoseconds
  let key : Key :=
    { id, parentId, entityType, entityId
      derivationPath := buildDerivationPath (parent.map (·.derivationPath)) derivationIndex hardened
      derivationIndex, name, hardened, revokedAt := none, expiresAt
      createdAt := now, updatedAt := now }
  insertKeyRow L key
  pure key

/-! ## Key material -/

/-- `PrivateKeyRepo::load`. -/
def loadPrivateKey (ns : String) (path : DerivationPath) : RepoTask (Option DerivedKey) :=
  .read .loadPrivateKey fun s => .ok (s.privateKeys ns path)

/-- `PrivateKeyRepo::store`: it overwrites what the namespace holds under the path. -/
def storePrivateKey (ns : String) (key : DerivedKey) : RepoTask Unit :=
  .atomic .storePrivateKey fun s =>
    (.ok (), { s with privateKeys := fun ns' path =>
      if ns' = ns ∧ path = key.derivationPath then some key else s.privateKeys ns' path })

/-- `to_xy` -/
def DerivedKey.toXy (L : Libraries) (k : DerivedKey) : Except String (Bytes × Bytes) :=
  match L.publicPoint k.key with
  | (none, _) => .error "invalid encoded point x value"
  | (some _, none) => .error "invalid encoded point y value"
  | (some x, some y) => .ok (x, y)

/-- `derive_from_derivation_path` -/
def DerivedKey.deriveAlong (L : Libraries) (k : DerivedKey) (path : DerivationPath) :
    Except String DerivedKey :=
  if path.length < k.derivationPath.length then
    .error "invalid derivation path: child derivation path is shorter than parent derivation path"
  else if !(k.derivationPath.isPrefixOf path) then
    .error "invalid derivation path: child derivation path does not start with parent derivation path"
  else do
    let key ← (path.drop k.derivationPath.length).foldlM L.deriveChild k.key
    pure { key, derivationPath := path }

/-- `ensure_master_key_with_passphrase`, with the entropy drawn by the caller. -/
def ensureMasterKey (L : Libraries) (entropy : Bytes) (ns passphrase : String) :
    RepoTask DerivedKey := do
  match ← loadPrivateKey ns [] with
  | some key => pure key
  | none => do
    let key ← Task.lift ((L.masterKey entropy passphrase).mapError .key)
    let derived : DerivedKey := { key, derivationPath := [] }
    storePrivateKey ns derived
    pure derived

/-- `ensure_derivation_path`, on the reversed path so that the parent is the tail. -/
def ensureDerivationPath (L : Libraries) (ns : String) : List ChildNumber → RepoTask DerivedKey
  | [] => do
    match ← loadPrivateKey ns [] with
    | some key => pure key
    | none => Task.lift (.error (.invalidInput "Cannot ensure parent for root derivation path"))
  | child :: parents => do
    let path := (child :: parents).reverse
    match ← loadPrivateKey ns path with
    | some key => pure key
    | none => do
      let parent ← ensureDerivationPath L ns parents
      let derived ← Task.lift ((parent.deriveAlong L path).mapError .key)
      storePrivateKey ns derived
      pure derived

/-- The key ring namespace of an entity. -/
def scopedNamespace (L : Libraries) (base : String) (entityType : EntityType) (entityId : Id) :
    String :=
  base ++ ":" ++ entityType.toString ++ ":" ++ L.idToString entityId

/-- `create_key` of the key service: the row, then the key material along its path. -/
def createKey (L : Libraries) (base : String) (id : Id) (parentId : Option Id)
    (entityType : EntityType) (entityId : Id) (hardened : Bool) (name : String)
    (expiresAt : Option DateTime) : RepoTask (Key × DerivedKey) := do
  let key ← createKeyRow L id parentId entityType entityId hardened name expiresAt
  let path ← Task.lift ((L.parseDerivationPath key.derivationPath).mapError .key)
  let privateKey ← ensureDerivationPath L (scopedNamespace L base entityType entityId) path.reverse
  pure (key, privateKey)

/-! ## Creating clients -/

/-- What a registration draws at random. -/
structure RegistrationRandomness where
  clientId : String
  clientSecret : String
  applicationId : Id
  id : Id
  keyId : Id
  entropy : Bytes
deriving DecidableEq, Repr

/-- The `INSERT` of a new application; its URI is unique. -/
def insertApplicationRow (L : Libraries) (row : ApplicationRow) : RepoTask Unit :=
  .atomic (.insert .applications) fun s =>
    if s.applications.any fun other => other.id == row.id || other.uri == row.uri then
      (.error (.invalidInput L.uniqueViolation), s)
    else (.ok (), { s with applications := s.applications ++ [row] })

/-- `application_id`: the application with the registered URI, created when there is none. -/
def applicationIdFor (L : Libraries) (random : RegistrationRandomness)
    (registration : ClientRegistration) : RepoTask Id := do
  let ids ← selectRows .applications Store.applications (·.uri == registration.application.uri)
    (fun row => .ok row.id)
  match ids.head? with
  | some id => pure id
  | none => do
    let now := (← utcNow).withoutNanoseconds
    let row : ApplicationRow :=
      { id := random.applicationId
        name := registration.application.name.getD registration.clientName
        uri := registration.application.uri
        description := registration.application.description
        createdAt := now.timestamp
        updatedAt := now.timestamp }
    insertApplicationRow L row
    pure row.id

/-- The secret a client is created with. A confidential client needs one that is not blank. -/
def registrationSecret (registration : ClientRegistration) : RepoResult String :=
  match registration.clientType with
  | .confidential =>
    match registration.clientSecret.filter (!isBlank ·) with
    | some secret => .ok secret
    | none =>
      .error (.invalidInput "client_secret is required for confidential client key material")
  | .publicClient => .ok (registration.clientSecret.getD "")

/-- The record a registration creates. -/
def newClient (registration : ClientRegistration) (id applicationId : Id)
    (clientId clientSecret : String) (now : DateTime) : RepoResult Client := do
  pure
    { id, applicationId, clientId, clientSecret
      clientIdIssuedAt := ← timestampOption "client" registration.clientIdIssuedAt
      clientSecretExpiresAt := ← timestampOption "client" registration.clientSecretExpiresAt
      clientName := registration.clientName
      clientUri := registration.clientUri.getD registration.application.uri
      redirectUris := registration.redirectUris
      clientType := registration.clientType
      profile := registration.profile
      tokenEndpointAuthMethod := registration.tokenEndpointAuthMethod
      allowedGrantTypes := registration.allowedGrantTypes
      responseTypes := registration.responseTypes
      allowedScopes := registration.allowedScopes
      allowedAudiences := registration.allowedAudiences
      logoUri := registration.logoUri
      contacts := registration.contacts
      termsOfServiceUri := registration.termsOfServiceUri
      policyUri := registration.policyUri
      softwareStatement := registration.softwareStatement
      softwareId := registration.softwareId
      softwareVersion := registration.softwareVersion
      createdAt := now
      updatedAt := now }

/-- The `INSERT` of `create_client`; `client_id` is unique. -/
def insertClientRow (L : Libraries) (client : Client) : RepoTask Unit :=
  .atomic (.insert .clients) fun s =>
    if s.clients.any fun row => row.id == client.id || row.clientId == client.clientId then
      (.error (.invalidInput L.uniqueViolation), s)
    else (.ok (), { s with clients := s.clients ++ [client.toRow] })

/-- `create_client`. The row stays when creating the key material fails after it. -/
def createClient (L : Libraries) (base : String)
    (random : RegistrationRandomness) (registration : ClientRegistration) : RepoTask Client := do
  let clientId ← okOr registration.clientId (.invalidInput "client_id is required")
  let clientSecret ← Task.lift (registrationSecret registration)
  let applicationId ← applicationIdFor L random registration
  let now := (← utcNow).withoutNanoseconds
  let client ← Task.lift
    (newClient registration random.id applicationId clientId clientSecret now)
  insertClientRow L client
  let passphrase := if client.clientType = .confidential then client.clientSecret else ""
  let _ ← ensureMasterKey L random.entropy (scopedNamespace L base .client client.id) passphrase
  let _ ← createKey L base random.keyId none .client client.id true client.clientName none
  pure client

/-! ## Users -/

/-- `User::try_from`. -/
def UserRow.toUser (L : Libraries) (row : UserRow) : RepoResult User := do
  pure
    { id := row.id
      name := row.name
      givenName := row.givenName
      familyName := row.familyName
      middleName := row.middleName
      nickname := row.nickname
      profile := row.profile
      picture := row.picture
      website := row.website
      sex := ← match row.sex with
        | none => Except.ok none
        | some 0 => Except.ok (some Sex.male)
        | some 1 => Except.ok (some Sex.female)
        | some _ => .error (.invalidInput "invalid user sex")
      birthdate := ← match row.birthdate with
        | none => Except.ok none
        | some text => match L.parseRfc3339 text with
          | some t => Except.ok (some t)
          | none => .error (.invalidInput "invalid user birthdate")
      zoneinfo := row.zoneinfo
      locale := row.locale
      createdAt := ← timestamp "user" row.createdAt
      updatedAt := ← timestamp "user" row.updatedAt }

/-- `UserEmail::try_from`. -/
def EmailRow.toEmail (row : EmailRow) : RepoResult UserEmail := do
  pure
    { id := row.id
      userId := row.userId
      email := row.email
      verified := row.verified != 0
      primary := row.primary != 0
      createdAt := ← timestamp "user" row.createdAt
      updatedAt := ← timestamp "user" row.updatedAt }

/-- `UserPassword::try_from`. -/
def CredentialRow.toPassword (row : CredentialRow) : RepoResult UserPassword := do
  pure
    { id := row.id
      userId := row.userId
      active := row.active
      passwordHash := row.secretHash
      createdAt := ← timestamp "user" row.createdAt
      updatedAt := ← timestamp "user" row.updatedAt }

/-- `DbUserRepo::users`. -/
def usersWhere (L : Libraries) (predicate : UserRow → Bool) : RepoTask (List User) :=
  selectRows .users Store.users predicate (UserRow.toUser L)

/-- `DbUserRepo::find_user_by_id`. -/
def findUserById (L : Libraries) (id : Id) : RepoTask (Option User) := do
  pure (← usersWhere L (·.id == id)).head?

/-- `max_by_key` on `(primary, Reverse(id))`: primary addresses first, then the smallest
identifier. -/
def preferredEmail (emails : List UserEmail) : Option UserEmail :=
  emails.foldl (fun best e => match best with
    | none => some e
    | some b =>
      if (b.primary && !e.primary) || (b.primary == e.primary && b.id < e.id) then some b
      else some e) none

/-- `DbUserRepo::find_user_by_username_or_email`: a handle is looked for before an address. -/
def findUserByUsernameOrEmail (L : Libraries) (identifier : String) : RepoTask (Option User) := do
  match (← usersWhere L (·.handle == identifier)).head? with
  | some user => pure (some user)
  | none => do
    let emails ← selectRows .userEmails Store.userEmails (·.email == identifier) EmailRow.toEmail
    match preferredEmail emails with
    | some email => findUserById L email.userId
    | none => pure none

/-- `DbUserRepo::find_user_password_by_user_id`: the first credential in use. -/
def findUserPasswordByUserId (userId : Id) : RepoTask (Option UserPassword) := do
  let credentials ← selectRows .credentials Store.credentials
    (fun row => row.userId == userId && row.kind == "password") (fun row => .ok row)
  match credentials.find? fun row => row.active && row.revokedAt.isNone with
  | some row => do
    ensureClear .credentials row.id "conflicted credential"
    Task.lift (row.toPassword.map some)
  | none => pure none

/-- The column `sex`. -/
def Sex.toInteger : Sex → ℤ
  | .male => 0
  | .female => 1

/-- `UserRow::from`: a new user is known by its name. -/
def User.toRow (L : Libraries) (u : User) : UserRow where
  id := u.id
  name := u.name
  givenName := u.givenName
  familyName := u.familyName
  middleName := u.middleName
  nickname := u.nickname
  profile := u.profile
  picture := u.picture
  website := u.website
  sex := u.sex.map Sex.toInteger
  birthdate := u.birthdate.map L.toRfc3339
  zoneinfo := u.zoneinfo
  locale := u.locale
  createdAt := u.createdAt.timestamp
  updatedAt := u.updatedAt.timestamp
  handle := u.name

/-- What the creation of a user draws at random. -/
structure UserRandomness where
  id : Id
  credentialId : Id
  salt : Bytes
deriving DecidableEq, Repr

/-- The user and its credential are inserted in one transaction. -/
def insertUserRows (L : Libraries) (user : UserRow) (credential : CredentialRow) : RepoTask Unit :=
  .atomic (.insert .users) fun s =>
    if (s.users.any fun row => row.id == user.id || row.handle == user.handle) ||
        s.credentials.any fun row => row.id == credential.id then
      (.error (.invalidInput L.uniqueViolation), s)
    else (.ok (), { s with
      users := s.users ++ [user], credentials := s.credentials ++ [credential] })

/-- `DbUserRepo::create_user_with_password`: the user and the credential are two inserts. -/
def createUserWithPassword (L : Libraries) (random : UserRandomness) (name password : String) :
    RepoTask User := do
  failIf (isBlank password) (.invalidInput "password is required")
  let now := (← utcNow).withoutNanoseconds
  let user : User :=
    { id := random.id
      name
      givenName := none
      familyName := none
      middleName := none
      nickname := none
      profile := none
      picture := none
      website := none
      sex := none
      birthdate := none
      zoneinfo := none
      locale := none
      createdAt := now
      updatedAt := now }
  let secretHash ← Task.lift ((L.hashEncoded (asBytes password) random.salt).mapError .other)
  let credential : CredentialRow :=
    { id := random.credentialId
      userId := user.id
      kind := "password"
      secretHash
      active := true
      revokedAt := none
      createdAt := now.timestamp
      updatedAt := now.timestamp }
  insertUserRows L (user.toRow L) credential
  pure user

/-- `delete_user_by_id`: only the row of the user goes. -/
def deleteUserById (userId : Id) : RepoTask Unit :=
  Task.atomic (.delete .users userId) fun s =>
    (.ok (), { s with users := s.users.filter fun row => row.id != userId })

/-! ## Authorization codes -/

/-- A digit of the lowercase hexadecimal text. -/
def hexDigit (n : ℕ) : Char :=
  if n < 10 then Char.ofNat (48 + n) else Char.ofNat (87 + n)

/-- Lower-case hexadecimal, as `:x` formats a digest. -/
def hex (b : Bytes) : String :=
  String.ofList (b.flatMap fun byte => [hexDigit (byte.toNat / 16), hexDigit (byte.toNat % 16)])

/-- `code_hash`: only the hash of an authorization code is stored. -/
def codeHash (L : Libraries) (code : String) : String := hex (L.sha256 (asBytes code))

/-- `code_challenge_method`: the column of the PKCE method. -/
def challengeMethod : Option ℤ → RepoResult (Option CodeChallengeMethod)
  | none => .ok none
  | some 0 => .ok (some .s256)
  | some _ => .error (.invalidInput "invalid code challenge method")

/-- `OAuth2AuthorizationCode::try_from`; the field `code` still holds the hash. -/
def AuthorizationCodeRow.toCode (row : AuthorizationCodeRow) :
    RepoResult OAuth2AuthorizationCode := do
  pure
    { id := row.id
      code := row.codeHash
      clientId := row.clientId
      keyId := row.keyId
      redirectUri := row.redirectUri
      scopes := ← json row.scopes
      resource := row.resource
      codeChallenge := row.codeChallenge
      codeChallengeMethod := ← challengeMethod row.codeChallengeMethod
      nonce := row.nonce
      expiresAt := ← timestamp "authorization code" row.expiresAt
      consumedAt := ← timestampOption "authorization code" row.consumedAt
      createdAt := ← timestamp "authorization code" row.createdAt
      updatedAt := ← timestamp "authorization code" row.updatedAt }

/-- `DbOAuth2AuthorizationCodeRepo::rows`. -/
def codeRows (predicate : AuthorizationCodeRow → Bool) : RepoTask (List AuthorizationCodeRow) :=
  selectRows .authorizationCodes Store.authorizationCodes predicate (fun row => .ok row)

/-- `find_authorization_code_by_code`: looked up by hash, returned with the code presented. -/
def findAuthorizationCodeByCode (L : Libraries) (code : String) :
    RepoTask (Option OAuth2AuthorizationCode) := do
  match (← codeRows (·.codeHash == codeHash L code)).head? with
  | some row => do
    let found ← Task.lift row.toCode
    ensureClear .authorizationCodes found.id "conflicted authorization code"
    pure (some { found with code })
  | none => pure none

/-- The column `code_challenge_method`. -/
def CodeChallengeMethod.toInteger : CodeChallengeMethod → ℤ
  | .s256 => 0

@[simp] lemma challengeMethod_toInteger (method : Option CodeChallengeMethod) :
    challengeMethod (method.map CodeChallengeMethod.toInteger) = .ok method := by
  rcases method with _ | ⟨⟩ <;> rfl

/-- `AuthorizationCodeRow::from` -/
def OAuth2AuthorizationCode.toRow (L : Libraries) (c : OAuth2AuthorizationCode) :
    AuthorizationCodeRow where
  id := c.id
  codeHash := codeHash L c.code
  clientId := c.clientId
  keyId := c.keyId
  redirectUri := c.redirectUri
  scopes := .ok c.scopes
  resource := c.resource
  codeChallenge := c.codeChallenge
  codeChallengeMethod := c.codeChallengeMethod.map CodeChallengeMethod.toInteger
  nonce := c.nonce
  expiresAt := c.expiresAt.timestamp
  consumedAt := none
  createdAt := c.createdAt.timestamp
  updatedAt := c.updatedAt.timestamp

/-- What the creation of a code draws at random. -/
structure CodeRandomness where
  id : Id
  code : String
deriving DecidableEq, Repr

/-- The `INSERT` of an authorization code; its hash is unique. -/
def insertCodeRow (L : Libraries) (row : AuthorizationCodeRow) : RepoTask Unit :=
  .atomic (.insert .authorizationCodes) fun s =>
    if s.authorizationCodes.any fun other =>
        other.id == row.id || other.codeHash == row.codeHash then
      (.error (.invalidInput L.uniqueViolation), s)
    else (.ok (), { s with authorizationCodes := s.authorizationCodes ++ [row] })

/-- `create_authorization_code`: the drawn code is returned and never stored. -/
def createAuthorizationCode (L : Libraries) (random : CodeRandomness) (clientId : String)
    (keyId : Id) (redirectUri : String) (scopes : List String) (resource : Option String)
    (codeChallenge : Option String) (codeChallengeMethod : Option CodeChallengeMethod)
    (nonce : Option String) (expiresAt : DateTime) : RepoTask OAuth2AuthorizationCode := do
  let now := (← utcNow).withoutNanoseconds
  let code : OAuth2AuthorizationCode :=
    { id := random.id
      code := random.code
      clientId, keyId, redirectUri, scopes, resource, codeChallenge, codeChallengeMethod, nonce
      expiresAt
      consumedAt := none
      createdAt := now
      updatedAt := now }
  insertCodeRow L (code.toRow L)
  ensureClear .authorizationCodes code.id "conflicted authorization code"
  pure code

/-- `consume_authorization_code`: the check and the update are separate engine calls. -/
def consumeAuthorizationCode (id : Id) (consumedAt : DateTime) : RepoTask Unit := do
  ensureClear .authorizationCodes id "conflicted authorization code"
  let row ← okOr (← codeRows (·.id == id)).head?
    (.invalidInput "authorization code not found")
  failIf row.consumedAt.isSome (.invalidInput "authorization code already consumed")
  Task.atomic (.update .authorizationCodes id) fun s =>
    (.ok (), { s with authorizationCodes := s.authorizationCodes.map fun row =>
      if row.id = id then
        { row with consumedAt := some consumedAt.timestamp, updatedAt := consumedAt.timestamp }
      else row })
  ensureClear .authorizationCodes id "conflicted authorization code"

/-! ## Consents -/

/-- `OAuth2UserConsent::try_from`. -/
def ConsentRow.toConsent (row : ConsentRow) : RepoResult OAuth2UserConsent := do
  pure
    { id := row.id
      userId := row.userId
      clientId := row.clientId
      redirectUri := row.redirectUri
      scope := row.scope
      createdAt := ← timestamp "user consent" row.createdAt
      updatedAt := ← timestamp "user consent" row.updatedAt }

/-- `ConsentRow::from`. -/
def OAuth2UserConsent.toRow (c : OAuth2UserConsent) : ConsentRow where
  id := c.id
  userId := c.userId
  clientId := c.clientId
  redirectUri := c.redirectUri
  scope := c.scope
  createdAt := c.createdAt.timestamp
  updatedAt := c.updatedAt.timestamp

/-- The columns that identify a consent, `identity`. -/
def ConsentRow.matches (userId : Id) (clientId redirectUri scope : String) (row : ConsentRow) :
    Bool :=
  row.userId == userId && (row.clientId == clientId && (row.redirectUri == redirectUri &&
    row.scope == scope))

/-- The first consent of a selection, if the engine reports no conflict on it. -/
def clearConsent (predicate : ConsentRow → Bool) : RepoTask (Option OAuth2UserConsent) := do
  let rows ← selectRows .userConsents Store.userConsents predicate (fun row => .ok row)
  match rows.head? with
  | some row => do
    let consent ← Task.lift row.toConsent
    ensureClear .userConsents consent.id "conflicted user consent"
    pure (some consent)
  | none => pure none

/-- `DbOAuth2UserConsentRepo::find_user_consent`: all four columns of its identity have to agree. -/
def findUserConsent (userId : Id) (clientId redirectUri scope : String) :
    RepoTask (Option OAuth2UserConsent) :=
  clearConsent (ConsentRow.matches userId clientId redirectUri scope)

/-- `DbOAuth2UserConsentRepo::find_user_consent_by_id`. -/
def findUserConsentById (consentId : Id) : RepoTask (Option OAuth2UserConsent) :=
  clearConsent (·.id == consentId)

/-- The `INSERT` of `upsert_user_consent`; user, client, redirect URI and scope are unique together. -/
def insertConsentRow (L : Libraries) (row : ConsentRow) : RepoTask Unit :=
  .atomic (.insert .userConsents) fun s =>
    if s.userConsents.any fun other => other.id == row.id ||
        other.matches row.userId row.clientId row.redirectUri row.scope then
      (.error (.invalidInput L.uniqueViolation), s)
    else (.ok (), { s with userConsents := s.userConsents ++ [row] })

/-- The `UPDATE` of `upsert_user_consent`: a consent given again keeps its row. -/
def touchConsentRow (id : Id) (updatedAt : ℤ) : RepoTask Unit :=
  .atomic (.update .userConsents id) fun s =>
    (.ok (), { s with userConsents := s.userConsents.map fun row =>
      if row.id = id then { row with updatedAt } else row })

/-- `DbOAuth2UserConsentRepo::delete_user_consent_by_id`: no owner is checked here. -/
def deleteUserConsentById (consentId : Id) : RepoTask Unit := do
  ensureClear .userConsents consentId "conflicted user consent"
  Task.atomic (.delete .userConsents consentId) fun s =>
    (.ok (), { s with userConsents := s.userConsents.filter fun row => row.id != consentId })

end LocalPlatform.Idp
