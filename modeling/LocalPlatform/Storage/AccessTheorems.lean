import LocalPlatform.Idp.BearerTheorems
import LocalPlatform.Idp.DescentTheorems
import LocalPlatform.Idp.ExchangeTheorems
import LocalPlatform.Idp.RegistrationTheorems
import LocalPlatform.Storage.Access

/-!
# The tokens of the storage client

The client asks for an audience, which an exchange ignores, and for no resource, so the token it
obtains has the resource of the token it presents. The storage server accepts the token for the
audience of the client exactly when that resource is the audience.
-/

namespace LocalPlatform.Storage

open Idp Resumption Json Option

/-! ## The request -/

lemma fromJson_text (action : StorageAuthorizationAction) :
    StorageAuthorizationAction.fromJson (.string action.text) = some action := by
  cases action <;> rfl

/-- The server reads the actions that the client writes. -/
lemma authorizationDetailsFromText_text (actions : List StorageAuthorizationAction) :
    authorizationDetailsFromText (authorizationDetailsText actions) =
      some [.storage { actions }] := by
  have hactions := asList_map fromJson_text actions
  have hdetail : AuthorizationDetail.fromJson (.object [("type", .string "storage"),
      ("actions", .array (actions.map fun action => .string action.text))]) =
        some (.storage { actions }) := by
    show (do
      let actions ← asList StorageAuthorizationAction.fromJson
        (.array (actions.map fun action : StorageAuthorizationAction => .string action.text))
      pure (AuthorizationDetail.storage { actions })) = _
    rw [hactions]
    rfl
  rw [authorizationDetailsFromText, authorizationDetailsText, parse_stringify]
  simp [asList, hdetail]

/-- The exchange that the client asks for. -/
def exchangeRequest (options : StorageClientOptions) (actions : List StorageAuthorizationAction) :
    TokenExchangeGrantRequest where
  subjectToken := options.bearerToken
  subjectTokenType := .accessToken
  actorToken := none
  actorTokenType := none
  resource := none
  audience := some options.audience
  authorizationDetails := some [.storage { actions }]
  scope := none
  requestedTokenType := none

variable {options : StorageClientOptions} {actions : List StorageAuthorizationAction}

/-- The form the client sends is read as the exchange it means. -/
lemma fromForm_exchangeToken {form : Form} (h : exchangeToken options actions = .ok form) :
    TokenRequest.fromForm form = some (.tokenExchange (exchangeRequest options actions)) := by
  rw [exchangeToken] at h
  split at h
  · cases h
  · obtain rfl := Except.ok.inj h
    have hdet := authorizationDetailsFromText_text actions
    simp [TokenRequest.fromForm, TokenExchangeGrantRequest.fromForm, field,
      optionalField, SubjectTokenType.fromText, exchangeRequest, hdet]

lemma Obtains.exchange {S : OAuth2Service} {s : Idp.Store} {r : TokenResponse}
    (h : Obtains S s options actions r) :
    (tokenExchangeGrant S (exchangeRequest options actions) none).eval s = .ok r := by
  obtain ⟨_, _, hform, hreq, hgrant⟩ := h
  rw [fromForm_exchangeToken hform, some.injEq] at hreq
  subst hreq
  exact hgrant

/-! ## The token -/

/-- What the storage server asks of the claims of a token, and what it takes from them. -/
structure Authorizes (now : ℤ) (response : IntrospectionResponse) (a : StorageAuthorization) :
    Prop where
  bearer : response.claims.type = .bearer
  access : response.claims.use = .access
  user : response.claims.principalType = .user
  unexpired : now < response.claims.exp
  resource : response.claims.resource = some a.resource
  audience : response.claims.aud = a.resource
  detail : ∃ actions, response.claims.authorizationDetails = some [.storage { actions }] ∧
    (.read ∈ actions ∨ .write ∈ actions) ∧
    a.canRead = actions.contains .read ∧ a.canWrite = actions.contains .write
  subject : a.subject = response.claims.sub
  application : a.applicationId = response.applicationId
  expiry : a.expiresAt = response.claims.exp

/-- The answer of introspection that gives access. -/
lemma storageAuthorization_ok_iff {now : ℤ} {response : IntrospectionResponse}
    {a : StorageAuthorization} :
    storageAuthorization now response = .ok a ↔ Authorizes now response a := by
  constructor
  · intro h
    unfold storageAuthorization at h
    dsimp only at h
    split at h
    · cases h
    rename_i hvalid
    simp only [not_or, not_not, not_le] at hvalid
    obtain ⟨hbearer, hacc, huser, hexp⟩ := hvalid
    split at h
    · rename_i resource detail hres hdetail
      rw [filter_eq_some_iff, beq_iff_eq] at hres
      split at h
      · cases h
      rename_i hactions
      obtain rfl := Except.ok.inj h
      have hone : .read ∈ detail.actions ∨ .write ∈ detail.actions := by
        simpa [imp_iff_not_or] using hactions
      exact ⟨hbearer, hacc, huser, hexp, hres.1, hres.2,
        ⟨detail.actions, hdetail, hone, rfl, rfl⟩, rfl, rfl, rfl⟩
    · cases h
  · rintro ⟨hbearer, hacc, huser, hexp, hres, haud, ⟨actions, hdetail, hone, hread,
      hwrite⟩, hsub, happ, hexpiry⟩
    have hvalid : ¬ (response.claims.type ≠ .bearer ∨ response.claims.use ≠ .access ∨
        response.claims.principalType ≠ .user ∨ response.claims.exp ≤ now) := by
      simp [hbearer, hacc, huser, hexp]
    have hfil : response.claims.resource.filter (response.claims.aud == ·) = some a.resource := by
      simp [hres, haud, Option.filter]
    have hsome : ¬ (!actions.contains .read && !actions.contains .write) = true := by
      simpa [imp_iff_not_or] using hone
    rw [storageAuthorization, if_neg hvalid]
    simp only [hfil, hdetail]
    rw [if_neg hsome, ← hread, ← hwrite, ← hsub, ← happ, ← hexpiry]

/-- The client obtains a token that the storage server accepts for the audience of the client, with
the requested actions and until it expires, exactly when the token it presents has that audience as
its resource. -/
theorem storage_token_accepted_iff (S : OAuth2Service) (hL : S.libs.Lawful)
    (hJ : S.libs.LawfulStrings) {s : Idp.Store} {options : StorageClientOptions}
    {actions : List StorageAuthorizationAction} {r : TokenResponse} {subject claims : StandardClaims}
    (hobtains : Obtains S s options actions r)
    (hsubject : Carries S.libs options.bearerToken subject)
    (hclaims : Carries S.libs r.accessToken claims) :
    (∀ now < claims.exp, ∀ applicationId, ∃ authorization,
      storageAuthorization now ⟨claims, applicationId⟩ = .ok authorization ∧
        authorization.resource = options.audience ∧
        (authorization.canRead ↔ .read ∈ actions) ∧
        (authorization.canWrite ↔ .write ∈ actions)) ↔
      subject.resource = some options.audience := by
  obtain ⟨i, _, read, hissues, huser, hdec, -, -, -, -, hres, hdet, haudience, -,
    hvalid⟩ := tokenExchangeGrant_ok hobtains.exchange
  obtain ⟨_, hsubject⟩ := hsubject
  obtain ⟨-, -, rfl⟩ := (hsubject.decodeJwt_ok_iff hL hJ).mp hdec
  obtain ⟨_, _, -, -, hsigns, -⟩ := hissues.signed
  obtain ⟨_, hclaims⟩ := hclaims
  have hiss := hsigns.claims_eq hL hclaims
  -- the request has no resource, so the one of the presented token is handed on
  have hcsRes : claims.resource = read.resource := by
    rw [hiss]
    exact hres
  constructor
  · intro hacc
    obtain ⟨a, hauthorized, hresourceEq, -⟩ := hacc (claims.exp - 1) (by omega) ""
    have hsome := (storageAuthorization_ok_iff.mp hauthorized).resource
    rw [← hcsRes, ← hresourceEq]
    exact hsome
  · intro hsome now hnow applicationId
    have hactions : actions ≠ [] := by
      rintro rfl
      cases hvalid
    have hone : .read ∈ actions ∨ .write ∈ actions := by
      obtain ⟨action, _, rfl⟩ := List.exists_cons_of_ne_nil hactions
      cases action <;> simp
    have haud : claims.aud = options.audience := by
      have hissueAudience : i.audience = some options.audience := by
        rw [haudience, hres, hsome]
        rfl
      rw [hiss]
      show i.audience.getD i.client.clientId = options.audience
      rw [hissueAudience, getD_some]
    refine ⟨⟨claims.sub, applicationId, options.audience, claims.exp, actions.contains .read,
      actions.contains .write⟩, storageAuthorization_ok_iff.mpr ⟨?_, ?_, ?_, hnow, ?_, haud,
        ⟨actions, ?_, hone, rfl, rfl⟩, rfl, rfl, rfl⟩, rfl, by simp, by simp⟩
    · rw [hiss]
      rfl
    · rw [hiss]
      rfl
    · rw [hiss]
      exact principalType_user huser
    · exact hcsRes.trans hsome
    · rw [hiss]
      exact hdet

/-- Whatever happens after a token was issued: what the storage server authorizes its bearer for by
introspection is the user, the resource, the storage actions and the lifetime of the issue, in the
application of its client. -/
theorem storageAuthorization_of_issue (S : OAuth2Service) (hL : S.libs.Lawful)
    (hJ : S.libs.LawfulStrings) {request : TokenRequest} {auth : Option OAuth2ClientAuth}
    {s s₁ s' : Idp.Store} {r : TokenResponse} (hgrant : (token S request auth).run s = (.ok r, s₁))
    {serviceAudience : String} {bearer : Option String} {response : IntrospectionResponse}
    (hresp : (introspect S serviceAudience bearer r.accessToken).eval s' = .ok response)
    {now : ℤ} {a : StorageAuthorization} (ha : storageAuthorization now response = .ok a) :
    ∃ i actions client, Issues S s i r ∧ i.principal.principalType = .user ∧
      a.subject = S.libs.idToString i.principal.entityId ∧ i.resource = some a.resource ∧
      i.details = some [.storage { actions }] ∧ a.canRead = actions.contains .read ∧
      a.canWrite = actions.contains .write ∧
      (s.now.addSeconds S.oauthConfig.tokenTtlSecs).map DateTime.timestamp = some a.expiresAt ∧
      max now s'.now.timestamp < a.expiresAt ∧
      (findClientByClientId i.client.clientId).eval s' = .ok (some client) ∧
      a.applicationId = S.libs.idToString client.applicationId := by
  obtain ⟨i, hiss, -⟩ := token_issues hgrant
  obtain ⟨jwk, exp, -, hexp, hsigns, -⟩ := hiss.signed
  simp only [introspect, authorizeBearerClient, eval_bind_iff] at hresp
  obtain ⟨_, -, _, -, _, -, _, -, _, -, _, -, inspected, hbearer, _, -, client?, hcl?, client,
    hcl, hpure⟩ := hresp
  obtain ⟨_, _, _, _, _, _, _, -, -, -, -, hver, -, hvalid, rfl⟩ :=
    authorizeBearerWithPrincipal_ok_iff.mp hbearer
  -- the claims that the provider verifies are those it has signed
  obtain ⟨-, -, rfl⟩ := (hsigns.decodeJwt_ok_iff hL hJ).mp (decodeJwt_of_verifyJwt hver)
  obtain rfl : _ = response := by simpa using hpure
  have hauth := storageAuthorization_ok_iff.mp ha
  obtain ⟨actions, hdet, -, hread, hwrite⟩ := hauth.detail
  have hunexp : s'.now.timestamp < exp := by
    simp only [validBearerClaims, Bool.and_eq_true, decide_eq_true_eq] at hvalid
    exact hvalid.1.1.1.1.1.2
  rw [eval_okOr_ok] at hcl
  subst hcl
  refine ⟨i, actions, client, hiss, hauth.user, hauth.subject, hauth.resource, hdet, hread,
    hwrite, ?_, ?_, eval_repo_ok.mp hcl?, hauth.application⟩
  · rw [hauth.expiry]
    exact hexp
  · rw [hauth.expiry]
    exact max_lt hauth.unexpired hunexp

/-! ## The reference installation -/

namespace Reference

open Idp.Reference

/-- Claims of an access token of the user, whose resource is also its audience. -/
def userClaims (resource : Option String) (details : Option (List AuthorizationDetail)) :
    StandardClaims :=
  accessClaims service scopedClient principal ["write", "read"] resource details resource 0 3600

/-- The claims after they are exchanged for reading. -/
def readingClaims (resource : Option String) : StandardClaims :=
  userClaims resource (some [.storage { actions := [.read] }])

/-- The claims of the access tokens the fixtures issue. -/
def storageClaims : List StandardClaims :=
  [userClaims none none, userClaims (some "files") none, readingClaims none,
    readingClaims (some "files")]

/-- The identity provider that issues them. -/
def storageIdp : OAuth2Service :=
  { service with
    libs := shortLibraries [userHeader]
      (storageClaims ++ storageClaims.map fun claims => refreshClaims claims 2592000) }

/-- The token of the user with these claims. -/
def userToken (resource : Option String) : String :=
  match encodeJwt storageIdp.libs signingJwk
    (standardClaimsToVec storageIdp.libs (userClaims resource none)) with
  | .ok token => token
  | .error _ => ""

/-- A client for the audience `files` that presents this token. -/
def clientOptions (resource : Option String) : StorageClientOptions where
  audience := "files"
  clientId := "app"
  bearerToken := userToken resource

/-- The answer of the token endpoint to that client. -/
def storageResponse (resource : Option String) : TokenResponse :=
  responseOf ((tokenExchangeGrant storageIdp (exchangeRequest (clientOptions resource) [.read])
    none).eval consentStore)

/-- The client obtains that answer, by way of its form. -/
lemma obtains_storageResponse (resource : Option String)
    (htoken : (clientOptions resource).bearerToken.isEmpty = false)
    (hok : ((tokenExchangeGrant storageIdp (exchangeRequest (clientOptions resource) [.read])
      none).eval consentStore).isOk = true) :
    Obtains storageIdp consentStore (clientOptions resource) [.read]
      (storageResponse resource) := by
  have hform : exchangeToken (clientOptions resource) [.read] = .ok _ := if_neg (by simp [htoken])
  exact ⟨_, _, hform, fromForm_exchangeToken hform, eq_ok_responseOf hok⟩

end Reference

open Reference

/-- A token for the resource `files` is exchanged for one that may read there. -/
theorem storage_token_accepted_iff_reference :
    Obtains storageIdp Idp.Reference.consentStore
        (clientOptions (some "files")) [.read]
        (storageResponse (some "files")) ∧
      ∃ authorization, storageAuthorization 0 ⟨readingClaims (some "files"), "app"⟩ = .ok authorization ∧
        authorization.resource = "files" ∧ (authorization.canRead ↔ .read ∈ [StorageAuthorizationAction.read]) ∧
        (authorization.canWrite ↔ .write ∈ [StorageAuthorizationAction.read]) := by
  have hobtains := obtains_storageResponse (some "files") (by decide +kernel) (by decide +kernel)
  have hsub : Carries storageIdp.libs (userToken (some "files"))
      (userClaims (some "files") none) := ⟨Idp.Reference.signingJwk, by decide +kernel⟩
  have hcs : Carries storageIdp.libs (storageResponse (some "files")).accessToken
      (readingClaims (some "files")) :=
    ⟨Idp.Reference.signingJwk, by decide +kernel⟩
  have hiff := storage_token_accepted_iff storageIdp
    (Idp.Reference.shortLibraries_lawful ..) (Idp.Reference.shortLibraries_lawfulStrings ..)
    hobtains hsub hcs
  exact ⟨hobtains, hiff.mpr rfl 0 (by decide) "app"⟩

/-- A token without a resource is exchanged for one that the storage server refuses. -/
theorem storage_token_refused :
    Obtains storageIdp Idp.Reference.consentStore (clientOptions none) [.read]
        (storageResponse none) ∧
      Carries storageIdp.libs (clientOptions none).bearerToken
        (userClaims none none) ∧
      Carries storageIdp.libs (storageResponse none).accessToken
        (readingClaims none) ∧
      storageAuthorization 0 ⟨readingClaims none, "app"⟩ = .error .invalidToken :=
  ⟨obtains_storageResponse none (by decide +kernel) (by decide +kernel),
    ⟨Idp.Reference.signingJwk, by decide +kernel⟩, ⟨Idp.Reference.signingJwk, by decide +kernel⟩,
    by decide +kernel⟩

namespace Reference

open Idp.Reference

/-- The claims of the service token of a storage server. -/
def serviceClaims : StandardClaims :=
  { userClaims none none with
    aud := "api", clientId := "batch", sub := idToString 10, principalType := .client
    scope := ["idp.device.lookup", "idp.device.list", "idp.token.validate"] }

/-- The same, for the storage server's own token as well. -/
def serviceIdp : OAuth2Service :=
  { service with
    libs := shortLibraries [userHeader, { userHeader with kid := idToString 11 }]
      (storageClaims ++ storageClaims.map (refreshClaims · 2592000) ++ [serviceClaims]) }

/-- The store after the storage server is registered as a client. -/
def serviceStore : Idp.Store :=
  ((registerClient serviceIdp registrationRandomness { serviceRegistration with
    allowedScopes := serviceClaims.scope, allowedAudiences := ["api", "files"] }).run
      consentStore).2

/-- The service token. -/
def serviceResponse : TokenResponse :=
  responseOf ((token serviceIdp (.clientCredentials ⟨"batch", "secret",
    some "idp.device.lookup idp.device.list idp.token.validate", some "api", none⟩)
      (some serviceAuth)).eval serviceStore)

/-- A token exchanged for reading only. -/
def readingResponse : TokenResponse :=
  responseOf ((tokenExchangeGrant serviceIdp (exchangeRequest (clientOptions (some "files"))
    [.read]) none).eval serviceStore)

/-- The token for reading `files` is introspected, and gives what it was issued for. -/
theorem storageAuthorization_of_issue_reference :
    ∃ i actions, Issues serviceIdp serviceStore i readingResponse ∧ i.resource = some "files" ∧
      i.details = some [.storage { actions }] ∧ actions.contains .read = true := by
  have hresp : (introspect serviceIdp "api" (some serviceResponse.accessToken)
      readingResponse.accessToken).eval serviceStore =
        .ok ⟨readingClaims (some "files"), idToString 4⟩ := by
    decide +kernel
  have hgrant : (token serviceIdp (.tokenExchange _) none).eval serviceStore = .ok readingResponse :=
    eq_ok_responseOf (by decide +kernel)
  obtain ⟨i, actions, _, hiss, -, -, hres, hdet, hread, -⟩ :=
    storageAuthorization_of_issue serviceIdp (shortLibraries_lawful ..)
      (shortLibraries_lawfulStrings ..) (run_of_eval hgrant) hresp
      (show storageAuthorization 0 _ = .ok ⟨_, _, "files", 3600, true, false⟩ from rfl)
  exact ⟨i, actions, hiss, hres, hdet, hread.symm⟩

end Reference

end LocalPlatform.Storage
