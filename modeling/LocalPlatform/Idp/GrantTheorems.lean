import LocalPlatform.Idp.ClaimsTheorems
import LocalPlatform.Idp.RefreshTheorems
import LocalPlatform.Idp.RegistrationTheorems

/-!
# What each grant issues

A successful grant finds a principal by its key, decides on a client, scopes, a resource and an
audience, and signs claims made from them with the key of the principal. `Issue` is that
decision; for each grant there is one lemma that says where it comes from.
-/

namespace LocalPlatform.Idp

open Resumption List Except Option

/-! ## Principals -/

variable {key : Key} {id keyId : Id} {s : Store} {L : Libraries} {user : User} {clientId : String}
  {client : Client} {S : OAuth2Service} {jwk : JwkPrivate} {principal : Principal}

/-- Decoding keeps identity, owner and parent. -/
lemma KeyRow.toKey_ok {row : KeyRow} (h : row.toKey = .ok key) :
    key.id = row.id ∧ key.entityId = row.entityId ∧ row.entityType = key.entityType.toInteger ∧
      key.parentId = row.parentId := by
  unfold KeyRow.toKey at h
  dsimp only at h
  split at h
  case h_3 => cases h
  all_goals
    rename_i htype
    split at h
    case isFalse => cases h
    simp only [except_bind_ok] at h
    obtain ⟨_, hentityType, _, -, _, -, _, -, _, -, _, -, hkey⟩ := h
    obtain rfl := ok.inj hentityType
    obtain rfl := ok.inj hkey
    exact ⟨rfl, rfl, htype, rfl⟩

/-- A key that is found is active and stands in the table. -/
lemma findKeyById_active (h : (findKeyById id).eval s = .ok (some key)) :
    key.id = id ∧ key.active s.now = true ∧ ∃ row ∈ s.keys, row.toKey = .ok key := by
  obtain ⟨_, hkeys, h1⟩ := eval_bind_iff.mp h
  obtain ⟨now, hnow, h2⟩ := eval_bind_iff.mp h1
  obtain rfl : s.now = now := by simpa using hnow
  split at h2
  · rename_i found hfound
    obtain ⟨_, -, h3⟩ := eval_bind_iff.mp h2
    obtain rfl : found = key := by simpa using h3
    obtain ⟨row, hrow, hdec⟩ := exists_of_mem_mapM hkeys (mem_of_find?_eq_some hfound)
    have hmatch := find?_some hfound
    simp only [Bool.and_eq_true, beq_iff_eq] at hmatch
    exact ⟨hmatch.1, hmatch.2, row, (mem_filter.mp hrow).1, hdec⟩
  · simp at h2

/-- A key that is found is a row of the table. -/
lemma findKeyById_ok (h : (findKeyById id).eval s = .ok (some key)) :
    key.id = id ∧ ∃ row ∈ s.keys, row.toKey = .ok key := by
  obtain ⟨hid, -, hrow⟩ := findKeyById_active h
  exact ⟨hid, hrow⟩

lemma UserRow.toUser_id {row : UserRow} (h : row.toUser L = .ok user) : user.id = row.id := by
  unfold UserRow.toUser at h
  dsimp only at h
  -- every way to read the sex and the birth date
  repeat' split at h
  all_goals first
    | cases h
    | simp only [except_bind_ok] at h
      obtain ⟨_, -, _, -, _, -, _, -, huser⟩ := h
      obtain rfl := ok.inj huser
      rfl

/-- A user that is found has the identifier asked for. -/
lemma findUserById_ok (h : (findUserById L id).eval s = .ok (some user)) :
    user.id = id ∧ ∃ row ∈ s.users, row.id = id := by
  obtain ⟨users, husers, h1⟩ := eval_bind_iff.mp h
  have hmem : user ∈ users := mem_of_mem_head? (by simpa using h1)
  obtain ⟨row, hrow, hdec⟩ := exists_of_mem_mapM husers hmem
  obtain ⟨hrow, hid⟩ := mem_filter.mp hrow
  have hid : row.id = id := by simpa using hid
  exact ⟨(UserRow.toUser_id hdec).trans hid, row, hrow, hid⟩

lemma findClientByClientId_clientId
    (h : (findClientByClientId clientId).eval s = .ok (some client)) :
    client.clientId = clientId := by
  obtain ⟨_, -, hrow, hdec⟩ := clearClient_ok h
  obtain ⟨-, hcid, -⟩ := ClientRow.toClient_ok hdec
  rw [hcid]
  simpa using hrow

/-- The row of an entity stands in its table. -/
def EntityPresent (entityType : EntityType) (id : Id) (s : Store) : Prop :=
  match entityType with
  | .user => ∃ row ∈ s.users, row.id = id
  | .client => ∃ row ∈ s.clients, row.id = id

section
variable {S : OAuth2Service} {s : Store}

variable (h : (findPrincipal S keyId).eval s = .ok (some principal))
include h

/-- A principal that is found belongs to an active root key, and its entity is there. -/
lemma findPrincipal_ok :
    (findKeyById keyId).eval s = .ok (some principal.key) ∧
      (ensureKeyIsActiveEntityRoot principal.key).eval s = .ok () ∧
      principal.key.entityType = principal.entityType ∧
      principal.key.entityId = principal.entityId ∧
      EntityPresent principal.entityType principal.entityId s := by
  obtain ⟨key?, hkey?, h1⟩ := eval_bind_iff.mp h
  rw [eval_repo_ok] at hkey?
  cases key? with
  | none => simp at h1
  | some key =>
    rw [Task.eval_handle] at h1
    cases hroot : (ensureKeyIsActiveEntityRoot key).eval s with
    | error e =>
      rw [hroot] at h1
      simp at h1
    | ok u =>
      rw [hroot] at h1
      cases htype : key.entityType with
      | user =>
        simp only [htype] at h1
        obtain ⟨user?, huser?, h2⟩ := eval_bind_iff.mp h1
        rw [eval_repo_ok] at huser?
        obtain ⟨user, rfl, rfl⟩ : ∃ user, user? = some user ∧ .user user key = principal := by
          simpa using h2
        obtain ⟨hid, hrow⟩ := findUserById_ok huser?
        refine ⟨hkey?, hroot, htype, hid.symm, ?_⟩
        rw [← hid] at hrow
        exact hrow
      | client =>
        simp only [htype] at h1
        obtain ⟨client?, hcl?, h2⟩ := eval_bind_iff.mp h1
        rw [eval_repo_ok] at hcl?
        obtain ⟨client, rfl, rfl⟩ : ∃ client, client? = some client ∧
            .client client key = principal := by
          simpa using h2
        obtain ⟨row, hmem, hrow, hdec⟩ := clearClient_ok hcl?
        have hrowId : row.id = key.entityId := by simpa using hrow
        have hid : client.id = row.id := (ClientRow.toClient_ok hdec).1
        exact ⟨hkey?, hroot, htype, (hid.trans hrowId).symm, row, hmem, hid.symm⟩

/-- The principal of a key carries that key. -/
lemma findPrincipal_keyId : principal.key.id = keyId :=
  (findKeyById_ok (findPrincipal_ok h).1).1

end

lemma principalType_user (h : principal.entityType = .user) :
    principal.principalType = .user := by
  cases principal with
  | user user key => rfl
  | client client key => cases h

/-- The client is what the repository has under its id. -/
def KnownClient (s : Store) (client : Client) : Prop :=
  (findClientByClientId client.clientId).eval s = .ok (some client)

/-- A client that is found is known. -/
lemma knownClient_of_found
    (h : (findClientByClientId clientId).eval s = .ok (some client)) : KnownClient s client := by
  rw [KnownClient, findClientByClientId_clientId h]
  exact h

/-! ## Issues -/

/-- What a grant has decided to put into its tokens. -/
structure Issue where
  client : Client
  principal : Principal
  scopes : List String
  resource : Option String
  details : Option (List AuthorizationDetail)
  audience : Option String

/-- The claims of the access token of an issue. -/
def Issue.claims (S : OAuth2Service) (i : Issue) (now : DateTime) (exp : ℤ) : StandardClaims :=
  accessClaims S i.client i.principal i.scopes i.resource i.details i.audience now exp

/-- The response holds tokens for the issue, signed with the key of its principal. -/
structure Issues (S : OAuth2Service) (s : Store) (i : Issue) (r : TokenResponse) : Prop where
  found : (findPrincipal S i.principal.key.id).eval s = .ok (some i.principal)
  signed : ∃ jwk exp, (loadSigningJwk S i.principal.key).eval s = .ok jwk ∧
    (s.now.addSeconds S.oauthConfig.tokenTtlSecs).map DateTime.timestamp = some exp ∧
    Signs S.libs jwk (i.claims S s.now exp) r.accessToken ∧
    (∀ token, r.refreshToken = some token → ∃ refreshExp,
      Signs S.libs jwk (refreshClaims (i.claims S s.now exp) refreshExp) token) ∧
    ∀ token, r.idToken = some token → ∃ userInfo, SignsId S.libs jwk
      { standardClaims := { i.claims S s.now exp with use := .id }, userInfo } token

/-- All tokens of a response. -/
def TokenResponse.allTokens (r : TokenResponse) : List String :=
  r.accessToken :: (r.refreshToken.toList ++ r.idToken.toList)

/-- Every token of a response bears the claims of the issue, for some use and lifetime. -/
lemma Issues.bears {i : Issue} {r : TokenResponse}
    (h : Issues S s i r) {token : String} (htoken : token ∈ r.allTokens) :
    ∃ exp use, Bears S.libs token { i.claims S s.now exp with use } := by
  obtain ⟨jwk, exp, -, -, hacc, href, hid⟩ := h.signed
  rw [TokenResponse.allTokens, mem_cons, mem_append] at htoken
  rcases htoken with rfl | htoken | htoken
  · exact ⟨exp, .access, .inl ⟨jwk, hacc⟩⟩
  · obtain ⟨refreshExp, hsigns⟩ := href token (mem_toList.mp htoken)
    exact ⟨refreshExp, .refresh, .inl ⟨jwk, hsigns⟩⟩
  · obtain ⟨userInfo, hsigns⟩ := hid token (mem_toList.mp htoken)
    exact ⟨exp, .id, .inr ⟨jwk, userInfo, hsigns⟩⟩

/-- Everything but the codes is the same. -/
def OnlyCodes (s s' : Store) : Prop := s' = { s with authorizationCodes := s'.authorizationCodes }

/-- A private key is found under its path in the namespace of its owner. -/
lemma storedPrivateKey_ok_iff {derived : DerivedKey} :
    (storedPrivateKey S key).eval s = .ok derived ↔ ∃ path,
      S.libs.parseDerivationPath key.derivationPath = .ok path ∧
      s.privateKeys (scopedNamespace S.libs S.keyNamespace key.entityType key.entityId) path =
        some derived := by
  unfold storedPrivateKey
  rw [eval_bind_iff]
  simp only [eval_check_ok, keyResult_ok]
  refine exists_congr fun path => and_congr_right fun _ => ?_
  rw [eval_bind_iff]
  simp [loadPrivateKey]

/-- The signing key is the stored one in JWK form. -/
lemma loadSigningJwk_ok_iff : (loadSigningJwk S key).eval s = .ok jwk ↔ ∃ derived,
      (storedPrivateKey S key).eval s = .ok derived ∧ key.toJwkPrivate S.libs derived = .ok jwk := by
  unfold loadSigningJwk
  rw [eval_bind_iff]
  simp only [eval_check_ok, keyResult_ok]

/-- A public key is found for an active root key whose material is stored. -/
lemma findPublicJwk_ok_iff {jwk : JwkPublic} :
    (findPublicJwk S keyId).eval s = .ok jwk ↔ ∃ key derived,
      (findKeyById keyId).eval s = .ok (some key) ∧
      (ensureKeyIsActiveEntityRoot key).eval s = .ok () ∧
      (storedPrivateKey S key).eval s = .ok derived ∧ key.toJwkPublic S.libs derived = .ok jwk := by
  unfold findPublicJwk
  rw [eval_bind_iff]
  constructor
  · rintro ⟨key?, hkey?, h1⟩
    simp only [eval_bind_iff] at h1
    obtain ⟨key, hkey, _, hroot, derived, hder, h4⟩ := h1
    rw [eval_okOr_ok] at hkey
    rw [eval_check_ok, keyResult_ok] at h4
    subst hkey
    exact ⟨key, derived, eval_repo_ok.mp hkey?, hroot, hder, h4⟩
  · rintro ⟨key, derived, hkey, hroot, hder, hpub⟩
    refine ⟨_, eval_repo_ok.mpr hkey, ?_⟩
    refine eval_bind_iff.mpr ⟨key, eval_okOr_ok.mpr rfl, ?_⟩
    refine eval_bind_iff.mpr ⟨_, hroot, ?_⟩
    refine eval_bind_iff.mpr ⟨derived, hder, ?_⟩
    rw [eval_check_ok, keyResult_ok]
    exact hpub

/-- A token names the key that signs it. -/
lemma loadSigningJwk_kid
    (h : (loadSigningJwk S key).eval s = .ok jwk) : jwk.kid = S.libs.idToString key.id := by
  obtain ⟨_, -, hjwk⟩ := loadSigningJwk_ok_iff.mp h
  obtain ⟨_, -, hjwk⟩ := except_bind_ok.mp hjwk
  obtain rfl := ok.inj hjwk
  rfl

/-- Spending a code changes neither the clock nor the key ring. -/
lemma OnlyCodes.loadSigningJwk_iff {s' : Store} (h : OnlyCodes s s') :
    (loadSigningJwk S key).eval s' = .ok jwk ↔ (loadSigningJwk S key).eval s = .ok jwk := by
  have hring : s'.privateKeys = s.privateKeys := by rw [h]
  simp only [loadSigningJwk_ok_iff, storedPrivateKey_ok_iff, hring]

lemma onlyCodes_refl (s : Store) : OnlyCodes s s := rfl

lemma onlyCodes_trans {s₁ s₂ s3 : Store} (h12 : OnlyCodes s₁ s₂) (h23 : OnlyCodes s₂ s3) :
    OnlyCodes s₁ s3 := by
  rw [OnlyCodes, h23, h12]

/-- Consuming a code changes codes only. -/
lemma consumeAuthorizationCode_onlyCodes (id : Id) (now : DateTime) (s : Store) :
    OnlyCodes s ((repo (consumeAuthorizationCode id now)).run s).2 := by
  have honly : (consumeAuthorizationCode id now).Within OnlyCodes :=
    consumeAuthorizationCode_within onlyCodes_refl fun _ => rfl
  exact (repo_within honly).run onlyCodes_refl (fun _ _ _ => onlyCodes_trans) s

section
variable {S : OAuth2Service} {s : Store} {r : TokenResponse}

/-- Issuing to a user, possibly after a code was spent since the principal was found. -/
lemma issues_of_issueTokensForClient {s' : Store} {client : Client}
    {scopes : List String} {resource : Option String} {details : Option (List AuthorizationDetail)}
    {audience : Option String}
    (hfound : (findPrincipal S keyId).eval s = .ok (some principal))
    (hcodes : OnlyCodes s s')
    (h : (issueTokensForClient S client principal scopes resource details audience).eval s' =
      .ok r) :
    Issues S s ⟨client, principal, scopes, resource, details, audience⟩ r ∧
      principal.entityType = .user := by
  obtain ⟨user, key, jwk, exp, refreshExp, _, _, rfl, -, hjwk, hrefTok,
    hidToken, hacc, href, hid, hexp⟩ := issueTokensForClient_ok h
  have hnow : s'.now = s.now := by rw [hcodes]
  have hkey : (loadSigningJwk S key).eval s = .ok jwk := hcodes.loadSigningJwk_iff.mp hjwk
  rw [hnow] at hacc href hid hexp
  refine ⟨⟨?_, jwk, exp, hkey, hexp, hacc, fun token htoken => ⟨refreshExp, ?_⟩,
    fun token htoken => ⟨some (user.toUserInfo S.libs), ?_⟩⟩, rfl⟩
  · rw [findPrincipal_keyId hfound]
    exact hfound
  · rw [hrefTok, some.injEq] at htoken
    exact htoken ▸ href
  · rw [hidToken, some.injEq] at htoken
    exact htoken ▸ hid

variable {auth : Option OAuth2ClientAuth} {s₁ : Store}

/-- A user who signs in by password gets the scopes that are both requested and allowed. -/
lemma passwordGrant_ok {request : PasswordGrantRequest}
    (h : (passwordGrant S request auth).eval s = .ok r) :
    ∃ i, Issues S s i r ∧ i.principal.entityType = .user ∧
      (findClientByClientId request.clientId).eval s = .ok (some i.client) ∧
      i.scopes = intersectScopes (requestedScopes request.scope) i.client.allowedScopes ∧
      i.audience = none := by
  simp only [passwordGrant, eval_bind_iff] at h
  obtain ⟨_?, hcl?, _, hcl, _, -, _, -, _?, -, _, -, _?, -,
    _, -, _, -, _, -, _?, -, _, -, _?, hprin?, _, hprin,
    hissue⟩ := h
  rw [eval_okOr_ok] at hcl hprin
  subst hcl hprin
  obtain ⟨hiss, huser⟩ := issues_of_issueTokensForClient hprin? (onlyCodes_refl s) hissue
  exact ⟨_, hiss, huser, eval_repo_ok.mp hcl?, rfl, rfl⟩

/-- A redemption hands on what stands in the code, to the principal of the key that is named
there. -/
lemma authorizationCodeGrant_ok {request : AuthorizationCodeGrantRequest}
    (h : (authorizationCodeGrant S request auth).run s = (.ok r, s₁)) :
    ∃ i code, Issues S s i r ∧ i.principal.entityType = .user ∧
      (findAuthorizationCodeByCode S.libs request.code).eval s = .ok (some code) ∧
      s.now ≤ code.expiresAt ∧ i.principal.key.id = code.keyId ∧
      i.client.clientId = code.clientId ∧
      validateAuthorizationCodeGrant request code.clientId (some code.redirectUri) = .ok () ∧
      checkCodeChallenge S.libs request.codeVerifier code = .ok () ∧ i.scopes = code.scopes ∧
      i.resource = code.resource ∧ KnownClient s i.client ∧ i.audience = none := by
  obtain ⟨now, hnow, h1⟩ := run_bind_iff.mp h
  obtain ⟨code?, hcode?, h2⟩ := run_bind_iff.mp h1
  obtain ⟨code, hcode, h3⟩ := run_bind_iff.mp h2
  obtain ⟨_, -, h4⟩ := run_bind_iff.mp h3
  obtain ⟨_, hexpiry, h5⟩ := run_bind_iff.mp h4
  obtain ⟨principal?, hprin?, h6⟩ := run_bind_iff.mp h5
  obtain ⟨principal, hprin, h7⟩ := run_bind_iff.mp h6
  obtain ⟨client?, hcl?, h8⟩ := run_bind_iff.mp h7
  simp only [run_bind_iff] at h8
  obtain ⟨client, hcl, _, -, _, -, _, hreq, _, hchal, h13⟩ := h8
  obtain ⟨_, s', hconsume, hissue⟩ := run_bind_ok.mp h13
  have hcodes : OnlyCodes s s' := by
    have honly := consumeAuthorizationCode_onlyCodes code.id now s
    rwa [hconsume] at honly
  have hissued : (issueTokensForClient S client principal code.scopes code.resource none
      none).eval s' = .ok r := by
    rw [Task.eval, hissue]
  simp only [eval_check_ok, eval_repo_ok, eval_okOr_ok, eval_failIf_ok, eval_utcNow,
    ok.injEq] at *
  subst hcode hprin hcl hnow
  obtain ⟨hiss, huser⟩ := issues_of_issueTokensForClient hprin? hcodes hissued
  exact ⟨_, code, hiss, huser, hcode?, by simpa using hexpiry,
    findPrincipal_keyId hprin?, findClientByClientId_clientId hcl?, hreq, hchal,
    rfl, rfl, knownClient_of_found hcl?, rfl⟩

/-- A client that acts for itself gets exactly the scopes and the audience it asks for. -/
lemma clientCredentialsGrant_issues {request : ClientCredentialsGrantRequest}
    (h : (clientCredentialsGrant S request auth).eval s = .ok r) :
    ∃ i, Issues S s i r ∧ i.principal.entityType = .client ∧ r.refreshToken = none ∧
      KnownClient s i.client ∧ ∃ audience ∈ i.client.allowedAudiences, i.audience = some audience := by
  simp only [clientCredentialsGrant, eval_bind_iff] at h
  obtain ⟨_, -, client?, hcl?, client, hcl, _, -, _, -, now, -, _, -, _, -, _, -,
    audience, -, _, hallow, _, -, _, -, _, -, key?, -, key, -, principal?, hprin?,
    principal, hprin, hissue⟩ := h
  rw [eval_okOr_ok] at hcl hprin
  subst hcl hprin
  have hknown : KnownClient s client := knownClient_of_found (eval_repo_ok.mp hcl?)
  have hmem : audience ∈ client.allowedAudiences := by
    simpa [eval_failIf_ok] using hallow
  -- issuing to the client itself
  obtain ⟨_, hself, h18⟩ := eval_bind_iff.mp hissue
  obtain ⟨now, hnow, h19⟩ := eval_bind_iff.mp h18
  obtain ⟨jwk, hjwk, h20⟩ := eval_bind_iff.mp h19
  obtain ⟨exp, hexp, h21⟩ := eval_bind_iff.mp h20
  obtain ⟨_, hacc, h22⟩ := eval_bind_iff.mp h21
  obtain rfl : s.now = now := by simpa using hnow
  obtain rfl : _ = r := by simpa using h22
  rw [eval_check_ok] at hacc
  cases principal with
  | user user key => simp [Principal.entityType] at hself
  | client self key =>
    have hid : self.id = client.id := by
      simpa [Principal.entityType, Principal.entityId] using hself
    refine ⟨⟨client, .client self key, requestedScopes request.scope, request.resource, none,
      some audience⟩, ⟨?_, jwk, exp, hjwk, ?_, ?_, (fun token htoken => by cases htoken),
        fun token htoken => by cases htoken⟩, rfl, rfl, hknown, audience, hmem, rfl⟩
    · rw [findPrincipal_keyId hprin?]
      exact hprin?
    · obtain ⟨t, ht, htexp⟩ := eval_expiry_ok.mp hexp
      simp [ht, htexp]
    · rw [← hid] at hacc
      exact hacc

/-- A refresh hands on what stands in the claims it decodes, and forgets their audience. -/
lemma refreshTokenGrant_issues {request : RefreshTokenGrantRequest}
    (h : (refreshTokenGrant S request auth).eval s = .ok r) :
    ∃ i header claims, Issues S s i r ∧ i.principal.entityType = .user ∧
      decodeJwt S.libs (standardClaimsFromSlice S.libs) request.refreshToken =
        .ok (header, claims) ∧
      claims.use = .refresh ∧ S.libs.parseId header.kid = some i.principal.key.id ∧
      i.client.clientId = claims.clientId ∧
      refreshScopes request.scope claims.scope = .ok i.scopes ∧ i.resource = claims.resource ∧
      i.details = claims.authorizationDetails ∧ i.audience = none ∧ KnownClient s i.client := by
  obtain ⟨header, claims, _, _, _, _, _, hdec, huse, hkeyId, hkey,
    hcl, -, -, hsc, hprin, hissue⟩ := refreshTokenGrant_ok h
  obtain ⟨hiss, huser⟩ := issues_of_issueTokensForClient hprin (onlyCodes_refl s) hissue
  refine ⟨_, header, claims, hiss, huser, hdec, huse, ?_,
    findClientByClientId_clientId hcl, hsc, rfl, rfl, rfl, knownClient_of_found hcl⟩
  rw [hkeyId, findPrincipal_keyId hprin, (findKeyById_ok hkey).1]

/-- An exchange hands on the scopes of the token it verifies, or fewer, and makes the resource
the audience. -/
lemma tokenExchangeGrant_ok {request : TokenExchangeGrantRequest}
    (h : (tokenExchangeGrant S request auth).eval s = .ok r) :
    ∃ i header claims, Issues S s i r ∧ i.principal.entityType = .user ∧
      decodeJwt S.libs (standardClaimsFromSlice S.libs) request.subjectToken =
        .ok (header, claims) ∧
      claims.use = .access ∧ S.libs.parseId header.kid = some i.principal.key.id ∧
      i.client.clientId = claims.clientId ∧
      i.scopes = (if (requestedScopes request.scope).isEmpty then claims.scope
        else intersectScopes (requestedScopes request.scope) claims.scope) ∧
      i.resource = request.resource.or claims.resource ∧
      i.details = request.authorizationDetails ∧ i.audience = i.resource ∧
      KnownClient s i.client ∧
      request.authorizationDetails.elim (.ok ()) validateAuthorizationDetails = .ok () := by
  obtain ⟨_, -, h1⟩ := eval_bind_iff.mp h
  obtain ⟨⟨header, _⟩, hdec, h2⟩ := eval_bind_iff.mp h1
  obtain ⟨_, hkeyId, h3⟩ := eval_bind_iff.mp h2
  obtain ⟨_, -, h4⟩ := eval_bind_iff.mp h3
  obtain ⟨⟨_, subject⟩, hver, h5⟩ := eval_bind_iff.mp h4
  simp only [eval_bind_iff] at h5
  obtain ⟨_, -, _, hvalid, _?, hkey?, _, hkey, _?, hcl?, _, hcl, _, -, _,
    -, _, hdet, _?, hprin?, _, hprin, hissue⟩ := h5
  simp only [eval_check_ok, eval_repo_ok, eval_okOr_ok, eval_failIf_ok] at *
  subst hkey hcl hprin
  have huse : subject.use = .access := by
    simp only [validSubjectToken, Bool.not_eq_false', Bool.and_eq_true, beq_iff_eq] at hvalid
    tauto
  -- verifying and decoding read the same header and claims
  have hsame := decodeJwt_of_verifyJwt hver
  rw [hdec, ok.injEq, Prod.mk.injEq] at hsame
  obtain ⟨rfl, hcs⟩ := hsame
  subst hcs
  obtain ⟨hiss, huser⟩ := issues_of_issueTokensForClient hprin? (onlyCodes_refl s) hissue
  refine ⟨_, header, _, hiss, huser, hdec, huse, ?_,
    findClientByClientId_clientId hcl?, rfl, rfl, rfl, rfl, knownClient_of_found hcl?,
    hdet⟩
  rw [hkeyId, findPrincipal_keyId hprin?, (findKeyById_ok hkey?).1]

/-- The token that is issued for a client itself comes from the client credentials grant. -/
def TokenRequest.principalType : TokenRequest → PrincipalType
  | .clientCredentials _ => .client
  | .password _ | .authorizationCode _ | .refreshToken _ | .tokenExchange _ => .user

/-- The token that a refresh or an exchange presents. -/
def TokenRequest.presented : TokenRequest → Option String
  | .refreshToken request => some request.refreshToken
  | .tokenExchange request => some request.subjectToken
  | .password _ | .authorizationCode _ | .clientCredentials _ => none

/-- Every successful grant issues something. -/
lemma token_issues {request : TokenRequest} (h : (token S request auth).run s = (.ok r, s₁)) :
    ∃ i, Issues S s i r ∧ i.principal.principalType = request.principalType := by
  cases request with
  | password request =>
    obtain ⟨i, hiss, htype, -⟩ := passwordGrant_ok (eval_of_run h)
    exact ⟨i, hiss, principalType_user htype⟩
  | authorizationCode request =>
    obtain ⟨i, -, hiss, htype, -⟩ := authorizationCodeGrant_ok h
    exact ⟨i, hiss, principalType_user htype⟩
  | clientCredentials request =>
    obtain ⟨i, hiss, htype, -⟩ := clientCredentialsGrant_issues (eval_of_run h)
    refine ⟨i, hiss, ?_⟩
    cases hprin : i.principal with
    | user user key => simp [hprin, Principal.entityType] at htype
    | client client key => rfl
  | refreshToken request =>
    obtain ⟨i, _, _, hiss, htype, -⟩ := refreshTokenGrant_issues (eval_of_run h)
    exact ⟨i, hiss, principalType_user htype⟩
  | tokenExchange request =>
    obtain ⟨i, _, _, hiss, htype, -⟩ := tokenExchangeGrant_ok (eval_of_run h)
    exact ⟨i, hiss, principalType_user htype⟩

end

end LocalPlatform.Idp
