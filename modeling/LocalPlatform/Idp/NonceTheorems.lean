import LocalPlatform.Lib.Json
import LocalPlatform.Idp.CodeTheorems

/-!
# The nonce of an authorization

`authorize` stores the nonce of its request with the code, and the redemption reads it back. The
claims of an ID token have no member for it: the document that is signed has the standard claims and
what is told of the user, flattened into one object.
-/

namespace LocalPlatform.Idp

open Resumption List Prod Except Option Json

/-! ## The document of an ID token -/

/-- The serialisation of the claim `type`. -/
def TokenType.toJson : TokenType → Json
  | .bearer => .string "Bearer"
  | .dpop => .string "DPoP"

/-- The serialisation of the claim `use`. -/
def TokenUse.toJson : TokenUse → Json
  | .id => .string "Id"
  | .access => .string "Access"
  | .refresh => .string "Refresh"

/-- The serialisation of the claim `principal_type`. -/
def PrincipalType.toJson : PrincipalType → Json
  | .user => .string "user"
  | .client => .string "client"

/-- The serialisation of an action. -/
def StorageAuthorizationAction.toJson : StorageAuthorizationAction → Json
  | .read => .string "read"
  | .write => .string "write"

/-- The serialisation of an element of `authorization_details`, tagged by `type`. -/
def AuthorizationDetail.toJson : AuthorizationDetail → Json
  | .storage detail =>
    .object [("type", .string "storage"),
      ("actions", .array (detail.actions.map StorageAuthorizationAction.toJson))]

/-- The members of the standard claims. -/
def ClaimsObject.fields (c : ClaimsObject) : List (String × Option Json) :=
  [("type", some c.type.toJson),
    ("use", some c.use.toJson),
    ("exp", some (.number c.exp)),
    ("iat", some (.number c.iat)),
    ("nbf", some (.number c.nbf)),
    ("iss", some (.string c.iss)),
    ("aud", some (.string c.aud)),
    ("client_id", some (.string c.clientId)),
    ("sub", some (.string c.sub)),
    ("principal_type", some c.principalType.toJson),
    ("resource", c.resource.map .string),
    ("authorization_details", c.authorizationDetails.map fun details =>
      .array (details.map AuthorizationDetail.toJson)),
    ("scope", some (.string c.scope))]

/-- The members of what is told of a user; times are written by a function of their crate. -/
def UserInfo.fields (dateText : DateTime → String) (u : UserInfo) : List (String × Option Json) :=
  [("sub", some (.string u.sub)),
    ("permissions", some (.array (u.permissions.map .string))),
    ("name", u.name.map .string),
    ("given_name", u.givenName.map .string),
    ("family_name", u.familyName.map .string),
    ("middle_name", u.middleName.map .string),
    ("nickname", u.nickname.map .string),
    ("preferred_username", u.preferredUsername.map .string),
    ("profile", u.profile.map .string),
    ("picture", u.picture.map .string),
    ("website", u.website.map .string),
    ("email", u.email.map .string),
    ("email_verified", u.emailVerified.map .bool),
    ("phone_number", u.phoneNumber.map .string),
    ("phone_number_verified", u.phoneNumberVerified.map .bool),
    ("gender", u.gender.map .string),
    ("birthdate", u.birthdate.map .string),
    ("zoneinfo", u.zoneinfo.map .string),
    ("locale", u.locale.map .string),
    ("updated_at", some (.string (dateText u.updatedAt)))]

/-- `IdTokenClaims` in JSON, both parts flattened. -/
def idTokenMembers (dateText : DateTime → String) (c : ClaimsObject) (u : Option UserInfo) :
    List (String × Json) :=
  present (c.fields ++ u.elim [] (UserInfo.fields dateText))

/-- A reader of JSON documents, which reads back what was written for ID claims. -/
structure DocumentReader (L : Libraries) where
  dateText : DateTime → String
  fromSlice : Bytes → Except String Json
  idToken : ∀ c u b, L.idTokenToVec c u = .ok b →
    fromSlice b = .ok (.object (idTokenMembers dateText c u))

/-- The token has the nonce, or none, among its claims. -/
def NonceClaim {L : Libraries} (J : DocumentReader L) (token : String) (nonce : Option String) :
    Prop :=
  ∃ header members, decodeJwt L J.fromSlice token = .ok (header, .object members) ∧
    lastMember members "nonce" = nonce.map .string

/-! ## Redemptions -/

/-- Neither part of the claims has a nonce. -/
lemma lastMember_idTokenMembers (dateText : DateTime → String) (c : ClaimsObject)
    (u : Option UserInfo) : lastMember (idTokenMembers dateText c u) "nonce" = none := by
  rw [lastMember, map_eq_none_iff, find?_eq_none]
  intro member hmember hname
  obtain ⟨field, hfield, hvalue⟩ := mem_filterMap.mp (mem_reverse.mp hmember)
  obtain ⟨value, -, rfl⟩ := map_eq_some_iff.mp hvalue
  have hnonce : field.1 = "nonce" := by simpa using hname
  have hmem : "nonce" ∈ (c.fields ++ u.elim [] (UserInfo.fields dateText)).map fst :=
    hnonce ▸ mem_map_of_mem hfield
  cases u <;> simp [ClaimsObject.fields, UserInfo.fields] at hmem

/-- A signed ID token carries no nonce, so only an absent one agrees with it. -/
lemma SignsId.nonceClaim_iff {L : Libraries} (hL : L.Lawful) (J : DocumentReader L)
    {jwk : JwkPrivate} {claims : IdTokenClaims} {token : String} (h : SignsId L jwk claims token)
    (nonce : Option String) : NonceClaim J token nonce ↔ nonce = none := by
  obtain ⟨b, hb⟩ := idTokenClaimsToVec_total hL claims
  rw [SignsId, hb] at h
  obtain ⟨_, -, hvec⟩ := except_bind_ok.mp hb
  have hdec := decodeJwt_encodeJwt hL h (J.idToken _ _ _ hvec)
  constructor
  · rintro ⟨header, members, hread, hnonce⟩
    rw [hdec] at hread
    obtain rfl := object.inj (mk.inj (ok.inj hread)).2
    rw [lastMember_idTokenMembers] at hnonce
    exact map_eq_none_iff.mp hnonce.symm
  · rintro rfl
    exact ⟨_, _, hdec, lastMember_idTokenMembers _ _ _⟩

/-- A redemption finds the nonce of the authorization with the code, and its ID token has it exactly
if there was none. -/
theorem idToken_nonce_iff {S : OAuth2Service} (hL : S.libs.Lawful) (J : DocumentReader S.libs)
    {s s₁ : Store} {random : CodeRandomness} {request : AuthorizationRequest}
    {principal : Principal} {code : String} {state issuer : Option String}
    (hauthorize : (authorize S random request principal).run s =
      (.ok (.success code state issuer), s₁))
    (ops : List Operation) {redemption : AuthorizationCodeGrantRequest}
    {auth : Option OAuth2ClientAuth} {r : TokenResponse} (hcode : redemption.code = code)
    (hredeem : (authorizationCodeGrant S redemption auth).eval (performAll S s₁ ops) = .ok r)
    {token : String} (htoken : r.idToken = some token) :
    (∃ found, (findAuthorizationCodeByCode S.libs redemption.code).eval (performAll S s₁ ops) =
        .ok (some found) ∧ found.nonce = request.nonce) ∧
      (NonceClaim J token request.nonce ↔ request.nonce = none) := by
  obtain ⟨_, found, hiss, -, hfound, -⟩ := authorizationCodeGrant_ok (run_of_eval hredeem)
  obtain ⟨hresp, _, _, _, _, -, -, hrec⟩ := authorize_ok hauthorize
  obtain rfl : code = random.code := by
    injection hresp
  refine ⟨⟨found, hfound, ?_⟩, ?_⟩
  · rw [hcode] at hfound
    exact hrec.nonce_eq (performAll_evolves S s₁ ops) hfound
  · obtain ⟨_, _, -, -, -, -, hid⟩ := hiss.signed
    obtain ⟨_, hsigns⟩ := hid token htoken
    exact hsigns.nonceClaim_iff hL J request.nonce

/-! ## The reference installation -/

namespace Reference

/-- The short libraries with ID tokens in JSON. -/
def documentLibraries : Libraries :=
  { knownLibraries with
    idTokenToVec := fun c u => .ok (toVec (stringify (.object (idTokenMembers (fun _ => "") c u)))) }

lemma documentLibraries_lawful : documentLibraries.Lawful := by
  have hknown : knownLibraries.Lawful := shortLibraries_lawful _ _
  exact { hknown with idToken_total := fun _ _ => ⟨_, rfl⟩ }

/-- The parser of JSON texts as a reader. -/
def documentReader : DocumentReader documentLibraries where
  dateText _ := ""
  fromSlice b := do
    let text : String ← fromSlice b
    (parse text).elim (.error "invalid document") .ok
  idToken c u b hb := by
    obtain rfl := ok.inj hb
    rw [fromSlice_toVec]
    show (parse _).elim _ _ = _
    rw [parse_stringify]
    rfl

/-- The fixture's service, with ID tokens serialised as JSON documents. -/
def documentService : OAuth2Service := { service with libs := documentLibraries }

/-- The request with a nonce or without one. -/
def nonceRequest (nonce : Option String) : AuthorizationRequest :=
  { authorizationRequest with nonce }

/-- The store after its authorization. -/
def nonceStore (nonce : Option String) : Store :=
  ((authorize documentService codeRandomness (nonceRequest nonce) principal).run consentStore).2

/-- The authorization with a nonce or without one, and the redemption of its code. -/
lemma redemption_of_nonce {nonce : Option String} (hnonce : nonce = none ∨ nonce = some "n") :
    (authorize documentService codeRandomness (nonceRequest nonce) principal).run consentStore =
        (.ok (.success "code" none (some documentService.oauthConfig.issuer)), nonceStore nonce) ∧
      ∃ r token, (authorizationCodeGrant documentService codeRequest none).eval
        (nonceStore nonce) = .ok r ∧ r.idToken = some token := by
  have hisOk : ((authorize documentService codeRandomness (nonceRequest nonce) principal).eval
      consentStore).isOk = true := by
    rcases hnonce with rfl | rfl <;> decide +kernel
  have hisSome : (((authorizationCodeGrant documentService codeRequest none).eval
      (nonceStore nonce)).toOption.bind TokenResponse.idToken).isSome = true := by
    rcases hnonce with rfl | rfl <;> decide +kernel
  obtain ⟨_, hresp⟩ := exists_of_isOk hisOk
  have hrun := run_of_eval hresp
  obtain ⟨rfl, -⟩ := authorize_ok hrun
  obtain ⟨token, htoken⟩ := isSome_iff_exists.mp hisSome
  rcases hred : (authorizationCodeGrant documentService codeRequest none).eval
    (nonceStore nonce) with _ | r <;> rw [hred] at htoken
  · cases htoken
  · exact ⟨hrun, r, token, rfl, htoken⟩

/-- Without a nonce the ID token has none. -/
theorem idToken_nonce_iff_reference :
    ∃ r token, (authorizationCodeGrant documentService codeRequest none).eval (nonceStore none) =
        .ok r ∧ r.idToken = some token ∧ NonceClaim documentReader token none := by
  obtain ⟨hrun, r, token, hred, htoken⟩ := redemption_of_nonce (.inl rfl)
  exact ⟨r, token, hred, htoken, (idToken_nonce_iff documentLibraries_lawful documentReader hrun []
    rfl hred htoken).2.mpr rfl⟩

/-- The nonce of the request is stored with the code and then lost. -/
theorem redemption_loses_nonce :
    (authorize documentService codeRandomness (nonceRequest (some "n")) principal).run
        consentStore = (.ok (.success "code" none (some documentService.oauthConfig.issuer)),
          nonceStore (some "n")) ∧
      (nonceStore (some "n")).authorizationCodes.map (·.nonce) = [some "n"] ∧
      ∃ r token, (authorizationCodeGrant documentService codeRequest none).eval
          (nonceStore (some "n")) = .ok r ∧ r.idToken = some token ∧
        ¬NonceClaim documentReader token (some "n") := by
  obtain ⟨hrun, r, token, hred, htoken⟩ := redemption_of_nonce (.inr rfl)
  refine ⟨hrun, by decide +kernel, r, token, hred, htoken, fun hnonce => ?_⟩
  obtain ⟨_, _, hiss, -⟩ := authorizationCodeGrant_ok (run_of_eval hred)
  obtain ⟨_, _, -, -, -, -, hid⟩ := hiss.signed
  obtain ⟨_, hsigns⟩ := hid token htoken
  cases (hsigns.nonceClaim_iff documentLibraries_lawful documentReader _).mp hnonce

end Reference

end LocalPlatform.Idp
