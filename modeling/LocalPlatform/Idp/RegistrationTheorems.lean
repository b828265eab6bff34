import LocalPlatform.Idp.LookupTheorems
import LocalPlatform.Idp.Reference

/-!
# Dynamically registered clients and the client credentials grant

Registration and update refuse a grant list that names client credentials, but the token endpoint
reads an empty list as permission for every grant. The invariant that no dynamic client passes
the checks of the client credentials grant is therefore kept by exactly those requests that do
not combine an empty list with everything else the grant asks for.
-/

namespace LocalPlatform.Idp

open Resumption Text ClientRow Except

/-- The record passes every check the client credentials grant makes on it. -/
def Client.ServiceCapable (c : Client) : Prop :=
  validateGrantType c .clientCredentials = .ok () ∧ c.clientType = .confidential ∧
    (c.tokenEndpointAuthMethod = .clientSecretBasic ∨
      c.tokenEndpointAuthMethod = .clientSecretPost) ∧
    c.allowedAudiences ≠ [] ∧ ∃ scope ∈ c.allowedScopes, IsWord scope

/-- A registration or update with an empty grant list that asks for everything else a service
client needs. -/
def ClientRegistration.ServiceShaped (r : ClientRegistration) : Prop :=
  r.allowedGrantTypes = [] ∧ r.clientType = .confidential ∧
    (r.tokenEndpointAuthMethod = .clientSecretBasic ∨
      r.tokenEndpointAuthMethod = .clientSecretPost) ∧
    r.allowedAudiences ≠ [] ∧ ∃ scope ∈ r.allowedScopes, IsWord scope

/-- The row decodes to no client that could use the client credentials grant. -/
def ClientRow.NotService (row : ClientRow) : Prop :=
  ∀ c, row.toClient = .ok c → ¬c.ServiceCapable

/-! ## Rows written by registration and update -/

/-- The columns of a row that the client credentials grant looks at. -/
lemma ClientRow.toClient_ok {row : ClientRow} {c : Client} (h : row.toClient = .ok c) :
    c.id = row.id ∧ c.clientId = row.clientId ∧
      clientTypeOfInteger row.clientType = .ok c.clientType ∧
      tokenEndpointAuthMethodOfInteger row.tokenEndpointAuthMethod = .ok c.tokenEndpointAuthMethod ∧
      json row.allowedGrantTypes = .ok c.allowedGrantTypes ∧
      json row.allowedScopes = .ok c.allowedScopes ∧
      json row.allowedAudiences = .ok c.allowedAudiences := by
  simp only [toClient, except_bind_ok] at h
  obtain ⟨_, -, _, -, _, -, _, htype, _, -, _, hmeth, _, hgrs, _, -,
    _, hsc, _, hauds, _, -, _, -, _, -, hc⟩ := h
  obtain rfl : _ = c := by simpa [pure, Except.pure] using hc
  exact ⟨rfl, rfl, htype, hmeth, hgrs, hsc, hauds⟩

/-- A row that spells out the settings of an accepted request that is not service-shaped. -/
lemma ClientRow.notService_of_request {row : ClientRow} {request : ClientRegistration}
    (hgrs : validateDynamicClientGrants request.allowedGrantTypes = .ok ())
    (hshape : ¬request.ServiceShaped)
    (htype : row.clientType = request.clientType.toInteger)
    (hmeth : row.tokenEndpointAuthMethod = request.tokenEndpointAuthMethod.toInteger)
    (hgrantTypes : row.allowedGrantTypes = .ok request.allowedGrantTypes)
    (hsc : row.allowedScopes = .ok request.allowedScopes)
    (hauds : row.allowedAudiences = .ok request.allowedAudiences) : row.NotService := by
  intro c hc hcapable
  obtain ⟨-, -, hctype, hcmethod, hcgrants, hcscopes, hcaudiences⟩ := toClient_ok hc
  rw [htype, clientTypeOfInteger_toInteger, ok.injEq] at hctype
  rw [hmeth, tokenEndpointAuthMethodOfInteger_toInteger, ok.injEq] at hcmethod
  rw [hgrantTypes, json_ok] at hcgrants
  rw [hsc, json_ok] at hcscopes
  rw [hauds, json_ok] at hcaudiences
  obtain ⟨hgrant, hconf, _, _, _⟩ := hcapable
  rw [validateDynamicClientGrants_ok] at hgrs
  rw [validateGrantType_ok, ← hcgrants] at hgrant
  -- the list has no client credentials entry, so only an empty one lets the client through
  have hempty : request.allowedGrantTypes = [] := hgrant.resolve_right hgrs
  apply hshape
  refine ⟨hempty, hctype.trans hconf, ?_, ?_, ?_⟩
  · rwa [hcmethod]
  · rwa [hcaudiences]
  · rwa [hcscopes]

/-! ## Steps -/

/-- Client rows outside `trusted` are old or cannot use the client credentials grant. -/
def AddsNoService (trusted : Set Id) (s s' : Store) : Prop :=
  ∀ row ∈ s'.clients, row.id ∉ trusted → row ∈ s.clients ∨ row.NotService

/-- Where no client changes, none becomes a service. -/
lemma addsNoService_of_clients_eq {trusted : Set Id} {s s' : Store}
    (h : s'.clients = s.clients) : AddsNoService trusted s s' := by
  intro row hrow _
  exact .inl (h ▸ hrow)

section
variable {trusted : Set Id} {client : Client}

/-- The outcome of a check that let the request pass. -/
lemma validateDynamicClientGrants_of_check {grantTypes : List GrantType} {u : Unit}
    (h : (validateDynamicClientGrants grantTypes).mapError Failure.response = .ok u) :
    validateDynamicClientGrants grantTypes = .ok () := by
  cases hgrs : validateDynamicClientGrants grantTypes with
  | ok u => rfl
  | error e =>
    rw [hgrs] at h
    cases h

/-- The settings of a new record are those of the registration. -/
lemma newClient_ok {registration : ClientRegistration} {id applicationId : Id}
    {clientId clientSecret : String} {now : DateTime}
    (h : newClient registration id applicationId clientId clientSecret now = .ok client) :
    client.clientType = registration.clientType ∧
      client.tokenEndpointAuthMethod = registration.tokenEndpointAuthMethod ∧
      client.allowedGrantTypes = registration.allowedGrantTypes ∧
      client.allowedScopes = registration.allowedScopes ∧
      client.allowedAudiences = registration.allowedAudiences := by
  simp only [newClient, except_bind_ok] at h
  obtain ⟨_, -, _, -, hcl⟩ := h
  obtain rfl : _ = client := by simpa [pure, Except.pure] using hcl
  exact ⟨rfl, rfl, rfl, rfl, rfl⟩

lemma insertClientRow_addsNoService (L : Libraries) (hcl : client.toRow.NotService) :
    (insertClientRow L client).Within (AddsNoService trusted) := by
  refine .atomic fun s => ?_
  split
  · exact addsNoService_of_clients_eq rfl
  · intro row hrow _
    rcases mem_concat.mp hrow with hold | rfl
    · exact .inl hold
    · exact .inr hcl

lemma savesKeys_addsNoService (L : Libraries) : SavesKeys L (AddsNoService trusted) where
  refl _ := addsNoService_of_clients_eq rfl
  storePrivateKey _ _ := .atomic fun _ => addsNoService_of_clients_eq rfl
  insertKeyRow _ := .atomic fun _ => addsNoService_of_clients_eq (by split <;> rfl)
  insertApplicationRow _ := .atomic fun _ => addsNoService_of_clients_eq (by split <;> rfl)

variable {request : ClientRegistration}

/-- A registration of another shape adds no service. -/
lemma registerClient_addsNoService (S : OAuth2Service) (random : RegistrationRandomness)
    (hshape : ¬request.ServiceShaped) :
    (registerClient S random request).Within (AddsNoService trusted) := by
  refine .lift_bind fun _ hcheck => .bind (repo_within ?_) fun _ => .pure _
  have hgrs := validateDynamicClientGrants_of_check hcheck
  refine createClient_within (savesKeys_addsNoService S.libs) fun _ hcl => ?_
  obtain ⟨htype, hmeth, hgrantTypes, hsc, hauds⟩ := newClient_ok hcl
  refine insertClientRow_addsNoService _ (notService_of_request hgrs hshape ?_ ?_ ?_ ?_ ?_)
  · exact congrArg ClientType.toInteger htype
  · exact congrArg TokenEndpointAuthMethod.toInteger hmeth
  · exact congrArg ok hgrantTypes
  · exact congrArg ok hsc
  · exact congrArg ok hauds

/-- Nor does an update of another shape. -/
lemma updateClient_addsNoService (clientId : String) (hshape : ¬request.ServiceShaped) :
    (updateClient clientId request).Within (AddsNoService trusted) := by
  refine updateClient_within (fun _ => addsNoService_of_clients_eq rfl) clientId
    fun _ hcheck _ _ _ s row hrow _ => ?_
  have hgrs := validateDynamicClientGrants_of_check hcheck
  obtain ⟨_, hold, hrow⟩ := List.mem_map.mp hrow
  split at hrow
  · subst hrow
    exact .inr (notService_of_request hgrs hshape rfl rfl rfl rfl rfl)
  · exact .inl (hrow ▸ hold)

end

/-! ## The client credentials grant -/

/-- A token from the client credentials grant goes to a client that passes its checks. -/
lemma clientCredentialsGrant_ok {S : OAuth2Service} {request : ClientCredentialsGrantRequest}
    {auth : Option OAuth2ClientAuth} {s : Store} {r : TokenResponse}
    (h : (clientCredentialsGrant S request auth).eval s = .ok r) :
    ∃ a client, auth = some a ∧ (findClientByClientId a.clientId).eval s = .ok (some client) ∧
      client.ServiceCapable := by
  obtain ⟨a, ha, h1⟩ := eval_bind_iff.mp h
  obtain ⟨client?, hcl?, h2⟩ := eval_bind_iff.mp h1
  obtain ⟨client, hcl, h3⟩ := eval_bind_iff.mp h2
  obtain ⟨_, hgrant, h4⟩ := eval_bind_iff.mp h3
  obtain ⟨_, htype, h5⟩ := eval_bind_iff.mp h4
  obtain ⟨_, -, h6⟩ := eval_bind_iff.mp h5
  obtain ⟨_, -, h7⟩ := eval_bind_iff.mp h6
  obtain ⟨_, hauth, h8⟩ := eval_bind_iff.mp h7
  obtain ⟨_, -, h9⟩ := eval_bind_iff.mp h8
  obtain ⟨_, -, h10⟩ := eval_bind_iff.mp h9
  obtain ⟨_, haud, h11⟩ := eval_bind_iff.mp h10
  obtain ⟨_, -, h12⟩ := eval_bind_iff.mp h11
  obtain ⟨_, hsome, h13⟩ := eval_bind_iff.mp h12
  obtain ⟨_, hsc, -⟩ := eval_bind_iff.mp h13
  rw [eval_okOr_ok] at ha hcl
  rw [eval_repo_ok, hcl] at hcl?
  rw [eval_check_ok] at hgrant hauth hsc
  have hconf : client.clientType = .confidential := by simpa using htype
  refine ⟨a, client, ha, hcl?, hgrant, hconf,
    authenticate_confidential hconf hauth, ?_, ?_⟩
  · rintro hnone
    simp [hnone] at haud
  · obtain ⟨w, hw⟩ := List.exists_mem_of_ne_nil _ (by simpa using hsome)
    exact ⟨w, validateScopes_ok.mp hsc w hw, isWord_of_mem_requestedScopes hw⟩

/-! ## Runs -/

/-- What can happen to the clients outside `trusted`: a registration or an update whose request
meets `allowed`, or anything elsewhere that leaves their rows alone or deletes them. -/
inductive RegistrationStep (S : OAuth2Service) (trusted : Set Id)
    (allowed : ClientRegistration → Prop) (s : Store) : Store → Prop where
  | register (random : RegistrationRandomness) (request : ClientRegistration)
      (h : allowed request) :
      RegistrationStep S trusted allowed s ((registerClient S random request).run s).2
  | update (clientId : String) (request : ClientRegistration) (h : allowed request) :
      RegistrationStep S trusted allowed s ((updateClient clientId request).run s).2
  | elsewhere (s' : Store) (h : ∀ row ∈ s'.clients, row.id ∉ trusted → row ∈ s.clients) :
      RegistrationStep S trusted allowed s s'

/-- No client outside `trusted` passes the checks of the client credentials grant. -/
def NoDynamicService (trusted : Set Id) (s : Store) : Prop :=
  ∀ row ∈ s.clients, row.id ∉ trusted → row.NotService

section
variable {S : OAuth2Service} {trusted : Set Id} {s s' : Store}

lemma addsNoService_trans (a b c : Store) (hab : AddsNoService trusted a b)
    (hbc : AddsNoService trusted b c) : AddsNoService trusted a c := by
  intro row hrow hdyn
  rcases hbc row hrow hdyn with hold | hnot
  · exact hab row hold hdyn
  · exact .inr hnot

variable (h : NoDynamicService trusted s)
include h

/-- The invariant survives such a step. -/
lemma NoDynamicService.of_addsNoService
    (hstep : AddsNoService trusted s s') : NoDynamicService trusted s' := by
  intro row hrow hdyn
  rcases hstep row hrow hdyn with hold | hnot
  · exact h row hold hdyn
  · exact hnot

/-- One step keeps the invariant when its request is not service-shaped. -/
lemma NoDynamicService.step (hstep : RegistrationStep S trusted (fun r => ¬r.ServiceShaped) s s') :
    NoDynamicService trusted s' := by
  have hrefl : ∀ s, AddsNoService trusted s s := fun _ => addsNoService_of_clients_eq rfl
  refine h.of_addsNoService ?_
  cases hstep with
  | register random request hshape =>
    exact (registerClient_addsNoService S random hshape).run hrefl addsNoService_trans s
  | update clientId request hshape =>
    exact (updateClient_addsNoService clientId hshape).run hrefl addsNoService_trans s
  | elsewhere s' hold =>
    exact fun row hrow hdyn => .inl (hold row hrow hdyn)

/-- A run whose requests are not service-shaped keeps the invariant. -/
lemma NoDynamicService.run (hrun : Relation.ReflTransGen
    (RegistrationStep S trusted fun r => ¬r.ServiceShaped) s s') :
    NoDynamicService trusted s' := by
  induction hrun with
  | refl => exact h
  | tail _ hstep ih => exact ih.step hstep

end

/-- Along every run in which no registration or update is service-shaped, the client credentials
grant only ever issues tokens to clients that existed outside dynamic registration. -/
theorem clientCredentials_token_trusted (S : OAuth2Service) (trusted : Set Id) {s₀ s : Store}
    (hstart : ∀ row ∈ s₀.clients, row.id ∈ trusted)
    (hrun : Relation.ReflTransGen
      (RegistrationStep S trusted fun r => ¬r.ServiceShaped) s₀ s)
    (request : ClientCredentialsGrantRequest) (auth : Option OAuth2ClientAuth)
    (r : TokenResponse) (h : (token S (.clientCredentials request) auth).eval s = .ok r) :
    ∃ a client, auth = some a ∧ (findClientByClientId a.clientId).eval s = .ok (some client) ∧
      client.id ∈ trusted := by
  have hinv : NoDynamicService trusted s :=
    .run (fun row hrow hdyn => absurd (hstart row hrow) hdyn) hrun
  obtain ⟨a, client, hauth, hfind, hcapable⟩ := clientCredentialsGrant_ok h
  refine ⟨a, client, hauth, hfind, ?_⟩
  obtain ⟨row, hrow, hdec⟩ := findClientByClientId_ok hfind
  by_contra hdyn
  rw [(toClient_ok hdec).1] at hdyn
  exact hinv row hrow hdyn client hdec hcapable

/-! ## The reference installation -/

namespace Reference

/-- A registration that names no grant type and asks for everything else of a service client. -/
def serviceRegistration : ClientRegistration where
  application := { name := none, uri := "https://batch", description := none }
  clientId := some "batch"
  clientSecret := some "secret"
  clientIdIssuedAt := none
  clientSecretExpiresAt := none
  clientName := "batch"
  clientUri := none
  logoUri := none
  contacts := []
  termsOfServiceUri := none
  policyUri := none
  clientType := .confidential
  profile := .web
  redirectUris := []
  allowedGrantTypes := []
  responseTypes := []
  allowedScopes := ["read"]
  allowedAudiences := ["api"]
  tokenEndpointAuthMethod := .clientSecretBasic
  softwareStatement := none
  softwareId := none
  softwareVersion := none

/-- The draws of one registration. -/
def registrationRandomness : RegistrationRandomness where
  clientId := ""
  clientSecret := ""
  applicationId := 9
  id := 10
  keyId := 11
  entropy := []

/-- The installation before any client is registered. -/
def noClients : Store := { store with clients := [] }

/-- The store after the registration. -/
def registered : Store :=
  ((registerClient service registrationRandomness serviceRegistration).run noClients).2

/-- Another registration, which names the grant it wants. -/
def laterRegistration : ClientRegistration :=
  { serviceRegistration with clientId := some "notes", allowedGrantTypes := [.refreshToken] }

/-- The draws of a later registration. -/
def laterRandomness : RegistrationRandomness :=
  { registrationRandomness with id := 20, keyId := 21 }

/-- The store after both registrations. -/
def laterRegistered : Store :=
  ((registerClient service laterRandomness laterRegistration).run registered).2

/-- The credentials the registration answered with. -/
def serviceAuth : OAuth2ClientAuth :=
  { clientId := "batch", clientSecret := some "secret", method := .clientSecretBasic }

/-- A client credentials request of the registered client. -/
def serviceRequest : ClientCredentialsGrantRequest where
  clientId := "batch"
  clientSecret := "secret"
  scope := some "read"
  audience := some "api"
  resource := none

end Reference

open Reference

/-- Without any trusted client, a single dynamic registration is enough to obtain a token from
the client credentials grant. -/
theorem dynamicClient_obtains_service_token :
    noClients.clients = [] ∧
      ∃ r, (token service (.clientCredentials serviceRequest)
        (some serviceAuth)).eval registered = .ok r :=
  ⟨rfl, _, rfl⟩

/-- The same client as a trusted one, with a later dynamic registration that names a grant. -/
theorem clientCredentials_token_trusted_reference :
    ¬laterRegistration.ServiceShaped ∧
      ∃ a client, some serviceAuth = some a ∧
        (findClientByClientId a.clientId).eval laterRegistered = .ok (some client) ∧
        client.id ∈ ({10} : Set Id) := by
  have hshape : ¬laterRegistration.ServiceShaped := fun h => absurd h.1 (by decide)
  have hstart : ∀ row ∈ registered.clients, row.id ∈ ({10} : Set Id) := by
    intro row hrow
    obtain rfl := List.mem_singleton.mp hrow
    rfl
  have hstep : RegistrationStep service {10} (fun r => ¬r.ServiceShaped)
      registered laterRegistered :=
    .register laterRandomness laterRegistration hshape
  exact ⟨hshape, clientCredentials_token_trusted service {10} hstart (.single hstep)
    serviceRequest (some serviceAuth) _ rfl⟩

end LocalPlatform.Idp
