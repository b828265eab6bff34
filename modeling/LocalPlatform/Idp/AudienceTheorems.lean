import LocalPlatform.Idp.DescentTheorems
import LocalPlatform.Idp.ExchangeTheorems

/-!
# Audiences along a chain of grants

Only the client credentials grant compares an audience with those that a client is allowed. The
other grants issue tokens for the client itself, except for an exchange, whose tokens are meant for
the resource of the request or of the subject token, whatever that is.
-/

namespace LocalPlatform.Idp

open Resumption Option

/-- Successful calls of the token endpoint, the last one first. Refreshes and exchanges present
tokens of earlier responses. -/
inductive GrantChain (S : OAuth2Service) : List (GrantCall × TokenResponse) → Prop
  | nil : GrantChain S []
  | grant {links : List (GrantCall × TokenResponse)} (chain : GrantChain S links)
      (call : GrantCall) (r : TokenResponse)
      (hpresented : ∀ presented, call.request.presented = some presented →
        ∃ link ∈ links, presented ∈ link.2.allTokens)
      (hgrant : (token S call.request call.auth).eval call.store = .ok r) :
      GrantChain S ((call, r) :: links)

/-- The audience is the client itself or one that it is allowed. -/
def AllowedAudience (client : Client) (audience : String) : Prop :=
  audience = client.clientId ∨ audience ∈ client.allowedAudiences

/-- The access token is meant for an audience of its client. -/
def AudienceGiven (S : OAuth2Service) (link : GrantCall × TokenResponse) : Prop :=
  ∃ client claims, Carries S.libs link.2.accessToken claims ∧ KnownClient link.1.store client ∧
    claims.clientId = client.clientId ∧ AllowedAudience client claims.aud

/-- The client of the subject token of an exchange, and the resource that the exchange is for: that
of the request, or else that of the token. -/
def exchangeTarget (S : OAuth2Service) : TokenRequest → Option (String × Option String)
  | .tokenExchange request =>
    match decodeJwt S.libs (standardClaimsFromSlice S.libs) request.subjectToken with
    | .ok (_, subject) => some (subject.clientId, request.resource.or subject.resource)
    | .error _ => none
  | .password _ | .authorizationCode _ | .clientCredentials _ | .refreshToken _ => none

/-- If the call is an exchange for a resource, then this is an audience of the client. -/
def TargetGiven (S : OAuth2Service) (call : GrantCall) : Prop :=
  ∀ client resource, KnownClient call.store client →
    exchangeTarget S call.request = some (client.clientId, some resource) →
    AllowedAudience client resource

/-! ## One grant -/

section
variable {S : OAuth2Service} {s : Store} {r : TokenResponse}

/-- What decides the audience of a grant. -/
lemma token_audience {request : TokenRequest} {auth : Option OAuth2ClientAuth}
    (h : (token S request auth).eval s = .ok r) :
    ∃ i, Issues S s i r ∧ KnownClient s i.client ∧
      (exchangeTarget S request = none ∧ (∀ audience, i.audience = some audience →
          audience ∈ i.client.allowedAudiences) ∨
        exchangeTarget S request = some (i.client.clientId, i.resource) ∧
          i.audience = i.resource) := by
  cases request with
  | password request =>
    obtain ⟨i, hiss, -, hcl, -, haud⟩ := passwordGrant_ok h
    exact ⟨i, hiss, knownClient_of_found hcl, .inl ⟨rfl, by simp [haud]⟩⟩
  | authorizationCode request =>
    obtain ⟨i, _, hiss, -, -, -, -, -, -, -, -, -, hknown, haud⟩ :=
      authorizationCodeGrant_ok (run_of_eval h)
    exact ⟨i, hiss, hknown, .inl ⟨rfl, by simp [haud]⟩⟩
  | clientCredentials request =>
    obtain ⟨i, hiss, -, -, hknown, _, hallow, haud⟩ :=
      clientCredentialsGrant_issues h
    refine ⟨i, hiss, hknown, .inl ⟨rfl, fun other hother => ?_⟩⟩
    obtain rfl := some.inj (haud.symm.trans hother)
    exact hallow
  | refreshToken request =>
    obtain ⟨i, _, _, hiss, -, -, -, -, -, -, -, -, haud, hknown⟩ :=
      refreshTokenGrant_issues h
    exact ⟨i, hiss, hknown, .inl ⟨rfl, by simp [haud]⟩⟩
  | tokenExchange request =>
    obtain ⟨i, _, _, hiss, -, hdec, -, -, hcl, -, hres, -, haud,
      hknown, -⟩ := tokenExchangeGrant_ok h
    refine ⟨i, hiss, hknown, .inr ⟨?_, haud⟩⟩
    simp [exchangeTarget, hdec, hcl, hres]

/-- Two clients of a store with the same id are the same. -/
lemma KnownClient.eq {client client' : Client} (h : KnownClient s client)
    (h' : KnownClient s client') (hid : client.clientId = client'.clientId) : client = client' := by
  rw [KnownClient, hid, h'] at h
  exact (some.inj (Except.ok.inj h)).symm

/-- A grant stays within the audiences of the client exactly when it is no exchange for a resource
beyond them. -/
lemma audienceGiven_iff (hL : S.libs.Lawful) {call : GrantCall}
    (h : (token S call.request call.auth).eval call.store = .ok r) :
    AudienceGiven S (call, r) ↔ TargetGiven S call := by
  obtain ⟨i, hissues, hknown, haudience⟩ := token_audience h
  obtain ⟨jwk, exp, -, -, hsigns, -⟩ := hissues.signed
  have haud : (i.claims S call.store.now exp).aud = i.audience.getD i.client.clientId := rfl
  constructor
  · rintro ⟨client, claims, ⟨_, hcs⟩, hcl, hid, hallow⟩ _ resource htgt hexc
    rcases haudience with ⟨hnone, -⟩ | ⟨hsome, haudience⟩
    · rw [hnone] at hexc
      cases hexc
    · rw [hsome, some.injEq, Prod.mk.injEq] at hexc
      obtain ⟨htgtId, hres⟩ := hexc
      have hiss := hsigns.claims_eq hL hcs
      have hcid : i.client.clientId = client.clientId := by
        rw [← hid, hiss]
        rfl
      obtain rfl := hknown.eq hcl hcid
      obtain rfl := hknown.eq htgt htgtId
      have haudEq : claims.aud = resource := by
        rw [hiss]
        show i.audience.getD i.client.clientId = resource
        rw [haudience, hres, getD_some]
      rwa [haudEq] at hallow
  · intro hgiven
    refine ⟨i.client, _, ⟨jwk, hsigns⟩, hknown, rfl, ?_⟩
    rw [haud]
    cases hvalue : i.audience with
    | none => exact .inl rfl
    | some audience =>
      rcases haudience with ⟨-, hallow⟩ | ⟨hsome, haudience⟩
      · exact .inr (hallow audience hvalue)
      · rw [← haudience, hvalue] at hsome
        exact hgiven i.client audience hknown hsome

end

/-! ## The whole chain -/

/-- Every access token of a chain of grants is meant for an audience of its client exactly when
every exchange in the chain is for no resource beyond them. -/
theorem grantChain_audiences_iff (S : OAuth2Service) (hL : S.libs.Lawful)
    {links : List (GrantCall × TokenResponse)} (chain : GrantChain S links) :
    (∀ link ∈ links, AudienceGiven S link) ↔ ∀ link ∈ links, TargetGiven S link.1 := by
  induction chain with
  | nil => simp
  | grant chain call r hpres hgrant ih =>
    rw [List.forall_mem_cons, List.forall_mem_cons, ih, audienceGiven_iff hL hgrant]

/-! ## The reference installation -/

namespace Reference

/-- The redemption of the code of the user. -/
def redemptionCall : GrantCall where
  store := authorizedStore
  request := .authorizationCode codeRequest
  auth := none

/-- An exchange of the access token from the redemption. -/
def exchangeOf (resource : Option String) : GrantCall where
  store := consentStore
  request := .tokenExchange { databaseRequest with resource }
  auth := none

/-- The redemption, and then the exchange with its response. -/
def exchangeChain (resource : Option String) (r : TokenResponse) :
    List (GrantCall × TokenResponse) :=
  [(exchangeOf resource, r), (redemptionCall, redeemed)]

/-- The fixture's exchange follows from its grant. -/
lemma exchangeChain_grantChain {resource : Option String} {r : TokenResponse}
    (hgrant : (tokenExchangeGrant shortService { databaseRequest with resource } none).eval
      consentStore = .ok r) : GrantChain shortService (exchangeChain resource r) := by
  have hred : (token shortService redemptionCall.request redemptionCall.auth).eval
      redemptionCall.store = .ok redeemed := redeemed_eq
  have hfirst : GrantChain shortService [(redemptionCall, redeemed)] :=
    .grant .nil _ _ (fun _ hpres => absurd hpres.symm (some_ne_none _)) hred
  refine .grant hfirst _ _ ?_ hgrant
  intro presented hpres
  obtain rfl := some.inj hpres
  exact ⟨_, List.mem_cons_self, List.mem_cons_self⟩

/-- The claims of the exchanged access token. -/
lemma exchanged_signs : Signs shortService.libs signingJwk (claimsFor (some "db") (some "db"))
    exchanged.accessToken := by
  decide +kernel

lemma knownClient_scopedClient : KnownClient consentStore scopedClient := by
  show (findClientByClientId "app").eval consentStore = .ok (some scopedClient)
  decide +kernel

end Reference

open Reference

/-- A code is redeemed, and the access token is exchanged for one without a resource. -/
theorem grantChain_audiences_iff_reference :
    ∃ r, GrantChain shortService (exchangeChain none r) ∧
      ((∀ link ∈ exchangeChain none r, AudienceGiven shortService link) ↔
        ∀ link ∈ exchangeChain none r, TargetGiven shortService link.1) := by
  have hisOk : ((tokenExchangeGrant shortService
      { databaseRequest with resource := none } none).eval consentStore).isOk = true := by
    decide +kernel
  obtain ⟨r, hr⟩ := exists_of_isOk hisOk
  have hchain := exchangeChain_grantChain hr
  exact ⟨r, hchain, grantChain_audiences_iff shortService (shortLibraries_lawful ..) hchain⟩

/-- A code is redeemed, and the access token is exchanged for one that is meant for `db`, though
the client is allowed no audience. -/
theorem exchange_for_foreign_audience :
    GrantChain shortService
        (exchangeChain (some "db") exchanged) ∧
      scopedClient.clientId = "app" ∧ scopedClient.allowedAudiences = [] ∧
      Carries shortService.libs exchanged.accessToken
        (claimsFor (some "db") (some "db")) ∧
      (claimsFor (some "db") (some "db")).aud = "db" ∧
      ¬ AudienceGiven shortService
        (exchangeOf (some "db"), exchanged) := by
  refine ⟨exchangeChain_grantChain exchanged_eq, rfl, rfl, ⟨_, exchanged_signs⟩, rfl, ?_⟩
  rintro ⟨client, claims, ⟨_, hcs⟩, hcl, hid, hallow⟩
  have hiss := exchanged_signs.claims_eq (shortLibraries_lawful ..) hcs
  have hcid : scopedClient.clientId = client.clientId := by
    rw [← hid, hiss]
    rfl
  obtain rfl := knownClient_scopedClient.eq hcl hcid
  have haud : claims.aud = "db" := by
    rw [hiss]
    rfl
  rw [haud] at hallow
  rcases hallow with hself | hlst
  · exact absurd hself (by decide)
  · exact absurd hlst (by decide)

end LocalPlatform.Idp
