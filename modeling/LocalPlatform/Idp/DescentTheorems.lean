import LocalPlatform.Idp.CodeTheorems

/-!
# Tokens that come from tokens

A refresh or an exchange reads the claims of the token it is given and issues new ones from them.
The client and the key are handed on as they are and the scopes can only become fewer. A refresh
also hands on the resource and the authorization details, but it sets the audience to the client,
whatever it was.
-/

namespace LocalPlatform.Idp

open Resumption List Option

/-! ## Reading a token of an issue -/

section
variable {S : OAuth2Service} (hL : S.libs.Lawful) (hJ : S.libs.LawfulStrings)
  (hI : S.libs.LawfulIdTokens) {s s' : Store} {i : Issue} {a b : TokenResponse}
include hL hJ hI

/-- The claims that are read from a token of an issue, if it is not taken for an ID token. -/
lemma Issues.claims_eq (h : Issues S s i a) {token : String} (htoken : token ∈ a.allTokens)
    {header : JwtHeader} {read : StandardClaims}
    (hdec : decodeJwt S.libs (standardClaimsFromSlice S.libs) token = .ok (header, read))
    (huse : read.use ≠ .id) :
    header.kid = S.libs.idToString i.principal.key.id ∧
      ∃ now exp use, read = { i.claims S now exp with use } := by
  obtain ⟨jwk, exp, hjwk, -, hacc, href, hid⟩ := h.signed
  have hkid : (jwtHeader jwk).kid = S.libs.idToString i.principal.key.id := loadSigningJwk_kid hjwk
  rw [TokenResponse.allTokens, mem_cons, mem_append] at htoken
  rcases htoken with rfl | htoken | htoken
  · obtain ⟨-, rfl, rfl⟩ := (hacc.decodeJwt_ok_iff hL hJ).mp hdec
    exact ⟨hkid, s.now, exp, .access, rfl⟩
  · obtain ⟨refreshExp, hsigns⟩ := href token (mem_toList.mp htoken)
    obtain ⟨-, rfl, rfl⟩ := (hsigns.decodeJwt_ok_iff hL hJ).mp hdec
    exact ⟨hkid, s.now, refreshExp, .refresh, rfl⟩
  · obtain ⟨_, hsigns⟩ := hid token (mem_toList.mp htoken)
    exact absurd (hsigns.use_eq hL hI hdec) huse

/-! ## One refresh or exchange -/

omit hL hJ hI in
/-- A refresh cannot widen the scopes. -/
lemma refreshScopes_subset {scope : Option String} {granted scopes : List String}
    (h : refreshScopes scope granted = .ok scopes) : scopes ⊆ granted := by
  unfold refreshScopes at h
  dsimp only at h
  split at h
  · obtain rfl := Except.ok.inj h
    exact List.Subset.refl _
  · split at h
    · cases h
    · obtain rfl := Except.ok.inj h
      exact intersectScopes_subset _ _

variable {auth : Option OAuth2ClientAuth}

/-- A refresh hands on everything but the audience, and may drop scopes. -/
lemma Issues.refresh (h : Issues S s i a) {request : RefreshTokenGrantRequest}
    (hpres : request.refreshToken ∈ a.allTokens)
    (href : (refreshTokenGrant S request auth).eval s' = .ok b) :
    ∃ i', Issues S s' i' b ∧ i'.principal.key.id = i.principal.key.id ∧
      i'.client.clientId = i.client.clientId ∧ i'.scopes ⊆ i.scopes ∧
      i'.resource = i.resource ∧ i'.details = i.details ∧ i'.audience = none := by
  obtain ⟨i', _, _, hiss, -, hdec, huse, hkeyId, hcl, hsc, hres,
    hdet, haud, -⟩ := refreshTokenGrant_issues href
  obtain ⟨hkid, _, _, _, rfl⟩ :=
    h.claims_eq hL hJ hI hpres hdec (by rw [huse]; decide)
  rw [hkid, hL.id_roundtrip, some.injEq] at hkeyId
  exact ⟨i', hiss, hkeyId.symm, hcl, refreshScopes_subset hsc, hres, hdet,
    haud⟩

/-- An exchange hands on the client and the key, and may drop scopes. -/
lemma Issues.exchange (h : Issues S s i a) {request : TokenExchangeGrantRequest}
    (hpres : request.subjectToken ∈ a.allTokens)
    (hexc : (tokenExchangeGrant S request auth).eval s' = .ok b) :
    ∃ i', Issues S s' i' b ∧ i'.principal.key.id = i.principal.key.id ∧
      i'.client.clientId = i.client.clientId ∧ i'.scopes ⊆ i.scopes := by
  obtain ⟨i', _, _, hiss, -, hdec, huse, hkeyId, hcl, hsc, -⟩ :=
    tokenExchangeGrant_ok hexc
  obtain ⟨hkid, _, _, _, rfl⟩ :=
    h.claims_eq hL hJ hI hpres hdec (by rw [huse]; decide)
  rw [hkid, hL.id_roundtrip, some.injEq] at hkeyId
  refine ⟨i', hiss, hkeyId.symm, hcl, ?_⟩
  rw [hsc]
  split
  · exact List.Subset.refl _
  · exact intersectScopes_subset _ _

end

/-! ## Scopes along a chain -/

/-- The second response was issued for a token of the first, in any store. -/
def Descends (S : OAuth2Service) (a b : TokenResponse) : Prop :=
  ∃ request auth s presented, TokenRequest.presented request = some presented ∧
    presented ∈ a.allTokens ∧ (token S request auth).eval s = .ok b

/-- The response of a password grant, or of the redemption of a code that `authorize` returned
some time before, with the client at the time of the password grant or of the authorization. -/
inductive Begins (S : OAuth2Service) (client : Client) (first : TokenResponse) : Prop
  | password (s : Store) (request : PasswordGrantRequest) (auth : Option OAuth2ClientAuth)
      (hclient : (findClientByClientId request.clientId).eval s = .ok (some client))
      (hgrant : (passwordGrant S request auth).eval s = .ok first)
  | code (s s₁ : Store) (random : CodeRandomness) (request : AuthorizationRequest)
      (principal : Principal) (code : String) (state issuer : Option String)
      (hclient : (findClientByClientId request.clientId).eval s = .ok (some client))
      (hauthorize : (authorize S random request principal).run s =
        (.ok (.success code state issuer), s₁))
      (ops : List Operation) (redemption : AuthorizationCodeGrantRequest)
      (auth : Option OAuth2ClientAuth) (hcode : redemption.code = code)
      (hredeem : (authorizationCodeGrant S redemption auth).eval (performAll S s₁ ops) =
        .ok first)

section
variable {S : OAuth2Service} {client : Client} {first a b : TokenResponse}

/-- The first response holds no scope beyond those of the client. -/
lemma Begins.issues (h : Begins S client first) :
    ∃ s i, Issues S s i first ∧ i.scopes ⊆ client.allowedScopes := by
  cases h with
  | password s request auth hcl hgrant =>
    obtain ⟨i, hiss, -, hfound, hsc, -⟩ := passwordGrant_ok hgrant
    obtain rfl : client = i.client := by simpa [hcl] using hfound
    exact ⟨s, i, hiss, hsc ▸ intersectScopes_subset _ _⟩
  | code s s₁ random request principal code state issuer hcl hauth ops redemption auth
      hcode hred =>
    obtain ⟨hresp, found, _, _, _, hcheck, -, hrec⟩ :=
      authorize_ok hauth
    obtain ⟨hfound, -, -, rfl, -⟩ := checkAuthorization_ok_iff.mp hcheck
    obtain rfl : client = found := by simpa [hcl] using hfound
    obtain rfl : code = random.code := by injection hresp
    obtain ⟨i, _, hiss, -, hrow, -, -, -, -, -, hsc, -⟩ :=
      authorizationCodeGrant_ok (run_of_eval hred)
    rw [hcode] at hrow
    obtain ⟨-, -, -, hrowScopes, -⟩ := hrec.code_eq (performAll_evolves S s₁ ops) hrow
    refine ⟨_, i, hiss, ?_⟩
    rw [hsc, hrowScopes]
    exact intersectScopes_subset _ _

variable (hL : S.libs.Lawful) (hJ : S.libs.LawfulStrings) (hI : S.libs.LawfulIdTokens)
include hL hJ hI

/-- One link of a chain. -/
lemma Descends.issues {s : Store} {i : Issue} (h : Descends S a b) (hiss : Issues S s i a) :
    ∃ s' i', Issues S s' i' b ∧ i'.scopes ⊆ i.scopes := by
  obtain ⟨request, _, s', _, hpres, hmem, hgrant⟩ := h
  cases request with
  | password request | authorizationCode request | clientCredentials request => cases hpres
  | refreshToken request =>
    obtain rfl := some.inj hpres
    obtain ⟨i', hiss', -, -, hsc, -⟩ := hiss.refresh hL hJ hI hmem hgrant
    exact ⟨s', i', hiss', hsc⟩
  | tokenExchange request =>
    obtain rfl := some.inj hpres
    obtain ⟨i', hiss', -, -, hsc⟩ := hiss.exchange hL hJ hI hmem hgrant
    exact ⟨s', i', hiss', hsc⟩

/-- A whole chain. -/
lemma descends_issues {s : Store} {i : Issue} (h : Relation.ReflTransGen (Descends S) a b)
    (hiss : Issues S s i a) : ∃ s' i', Issues S s' i' b ∧ i'.scopes ⊆ i.scopes := by
  induction h with
  | refl => exact ⟨s, i, hiss, List.Subset.refl _⟩
  | tail _ hlink ih =>
    obtain ⟨_, _, hiss', hsc'⟩ := ih
    obtain ⟨s'', i'', hiss'', hsc''⟩ := hlink.issues hL hJ hI hiss'
    exact ⟨s'', i'', hiss'', List.Subset.trans hsc'' hsc'⟩

end

/-- Along every chain of refreshes and exchanges that starts with a password grant or with a code,
scopes are those the client was allowed at the start, and they never become more. -/
theorem scopes_never_grow (S : OAuth2Service) (hL : S.libs.Lawful) (hJ : S.libs.LawfulStrings)
    (hI : S.libs.LawfulIdTokens) {client : Client} {first a b : TokenResponse}
    (hbegins : Begins S client first) (hfirst : Relation.ReflTransGen (Descends S) first a)
    (hnext : Relation.ReflTransGen (Descends S) a b) :
    ∀ t ∈ a.allTokens, ∀ t' ∈ b.allTokens, ∃ claims claims',
      Bears S.libs t claims ∧ Bears S.libs t' claims' ∧
        claims.scope ⊆ client.allowedScopes ∧ claims'.scope ⊆ claims.scope := by
  obtain ⟨s, i, hiss, hallow⟩ := hbegins.issues
  obtain ⟨_, _, hiss1, hsc1⟩ := descends_issues hL hJ hI hfirst hiss
  obtain ⟨_, _, hiss2, hsc2⟩ := descends_issues hL hJ hI hnext hiss1
  intro t ht t' ht'
  obtain ⟨_, _, hbears⟩ := hiss1.bears ht
  obtain ⟨_, _, hbears'⟩ := hiss2.bears ht'
  exact ⟨_, _, hbears, hbears', List.Subset.trans hsc1 hallow, hsc2⟩

/-! ## Refreshes -/

/-- What an access token says, apart from times and scopes. -/
structure SameGrant (old new : StandardClaims) : Prop where
  subject : new.sub = old.sub
  client : new.clientId = old.clientId
  audience : new.aud = old.aud
  resource : new.resource = old.resource
  details : new.authorizationDetails = old.authorizationDetails
  scope : new.scope ⊆ old.scope

/-- Some history after the first response, its refresh token is refreshed. -/
def Refreshes (S : OAuth2Service) (a b : TokenResponse × Store) : Prop :=
  ∃ ops request auth, a.1.refreshToken = some request.refreshToken ∧
    (refreshTokenGrant S request auth).run (performAll S a.2 ops) = (.ok b.1, b.2)

/-- The issue behind a response, and that its keys are still known. -/
structure IssuedBefore (S : OAuth2Service) (i : Issue) (s : Store) (r : TokenResponse) (now : Store) :
    Prop where
  issues : Issues S s i r
  unique : (s.keys.map KeyRow.id).Nodup
  evolves : ∃ drawn, Evolves drawn s now

section
variable {S : OAuth2Service} (hL : S.libs.Lawful) (hJ : S.libs.LawfulStrings)
  (hI : S.libs.LawfulIdTokens)
include hL hJ hI

variable {a b : TokenResponse × Store}

/-- One refresh keeps everything but the audience, which becomes the client. -/
lemma Refreshes.issued {i : Issue} {s : Store}
    (h : Refreshes S a b) (hissued : IssuedBefore S i s a.1 a.2) :
    ∃ i', IssuedBefore S i' b.2 b.1 b.2 ∧ i'.principal.entityId = i.principal.entityId ∧
      i'.client.clientId = i.client.clientId ∧ i'.scopes ⊆ i.scopes ∧
      i'.resource = i.resource ∧ i'.details = i.details ∧ i'.audience = none := by
  obtain ⟨ops, request, auth, hpres, hrun⟩ := h
  obtain ⟨hiss, hunique, drawn, hevol⟩ := hissued
  have hmem : request.refreshToken ∈ a.1.allTokens :=
    mem_cons_of_mem _ (mem_append_left _ (mem_toList.mpr hpres))
  have hstate : b.2 = performAll S a.2 ops := by
    rw [run_reads (refreshTokenGrant S request auth)] at hrun
    exact (Prod.mk.inj hrun).2.symm
  have hlater : Evolves (drawn ++ drawnBy ops) s b.2 := by
    rw [hstate]
    exact (hevol.mono (subset_append_left _ _)).trans
      ((performAll_evolves S a.2 ops).mono (subset_append_right _ _))
  obtain ⟨i', hiss', hkeyId, hcl, hsc, hres, hdet, haud⟩ :=
    hiss.refresh hL hJ hI hmem (eval_of_run hrun)
  rw [← hstate] at hiss'
  obtain ⟨-, hent⟩ := hlater.principal_eq hunique hiss.found (hkeyId ▸ hiss'.found)
  exact ⟨i', ⟨hiss', hlater.keys.nodup hunique, [], .refl _⟩, hent, hcl, hsc,
    hres, hdet, haud⟩

/-- A chain of refreshes does what a single one does. -/
lemma refreshes_issued {i : Issue} {s : Store}
    (h : Relation.TransGen (Refreshes S) a b) (hiss : IssuedBefore S i s a.1 a.2) :
    ∃ i', IssuedBefore S i' b.2 b.1 b.2 ∧ i'.principal.entityId = i.principal.entityId ∧
      i'.client.clientId = i.client.clientId ∧ i'.scopes ⊆ i.scopes ∧
      i'.resource = i.resource ∧ i'.details = i.details ∧ i'.audience = none := by
  induction h with
  | single hlink => exact hlink.issued hL hJ hI hiss
  | tail _ hlink ih =>
    obtain ⟨_, hiss1, hent1, hcl1, hsc1, hres1, hdet1, -⟩ := ih
    obtain ⟨i2, hiss2, hent2, hcl2, hsc2, hres2, hdet2, haud⟩ :=
      hlink.issued hL hJ hI hiss1
    exact ⟨i2, hiss2, hent2.trans hent1, hcl2.trans hcl1,
      List.Subset.trans hsc2 hsc1, hres2.trans hres1, hdet2.trans hdet1, haud⟩

end

/-- A chain of refreshes keeps what the first access token says exactly when the audience of that
token is its client. -/
theorem refresh_keeps_grant_iff (S : OAuth2Service) (hL : S.libs.Lawful)
    (hJ : S.libs.LawfulStrings) (hI : S.libs.LawfulIdTokens) {s s₁ s₂ : Store}
    (hkeys : (s.keys.map KeyRow.id).Nodup) {request : TokenRequest}
    {auth : Option OAuth2ClientAuth} {first last : TokenResponse}
    (hgrant : (token S request auth).run s = (.ok first, s₁))
    (hchain : Relation.TransGen (Refreshes S) (first, s₁) (last, s₂)) :
    ∃ claims claims', Carries S.libs first.accessToken claims ∧
      Carries S.libs last.accessToken claims' ∧
      (SameGrant claims claims' ↔ claims.aud = claims.clientId) := by
  obtain ⟨i, hiss, -⟩ := token_issues hgrant
  have hevol : Evolves [] s s₁ := by
    have hstep : Evolves [] s ((token S request auth).run s).2 :=
      .run (token_within .refl consumeAuthorizationCode_evolves ..) s
    rwa [hgrant] at hstep
  obtain ⟨i', hissued, hent, hcl, hsc, hres, hdet, haudience⟩ :=
    refreshes_issued hL hJ hI hchain ⟨hiss, hkeys, [], hevol⟩
  obtain ⟨jwk, exp, -, -, hsigns, -⟩ := hiss.signed
  obtain ⟨jwk', exp', -, -, hsigns', -⟩ := hissued.issues.signed
  refine ⟨_, _, ⟨jwk, hsigns⟩, ⟨jwk', hsigns'⟩, ?_⟩
  have haud : (i'.claims S s₂.now exp').aud = (i.claims S s.now exp).clientId := by
    simp [Issue.claims, accessClaims, haudience, hcl]
  constructor
  · intro hsame
    exact hsame.audience.symm.trans haud
  · intro hself
    exact ⟨congrArg S.libs.idToString hent, hcl, haud.trans hself.symm, hres,
      hdet, hsc⟩

/-! ## The reference installation -/

namespace Reference

/-- The response in an outcome, or an empty one. -/
def responseOf : Except Failure TokenResponse → TokenResponse
  | .ok r => r
  | .error _ =>
    { idToken := none
      accessToken := ""
      tokenType := .bearer
      expiresIn := none
      refreshToken := none
      refreshTokenExpiresIn := none
      scope := none
      issuer := none }

lemma eq_ok_responseOf {x : Except Failure TokenResponse} (h : x.isOk = true) :
    x = .ok (responseOf x) := by
  cases x with
  | ok r => rfl
  | error e => cases h

/-- The tokens for the code of the user. -/
def redeemed : TokenResponse :=
  responseOf ((authorizationCodeGrant shortService codeRequest none).eval authorizedStore)

/-- The fixture's redemption succeeds. -/
lemma redeemed_eq :
    (authorizationCodeGrant shortService codeRequest none).eval authorizedStore = .ok redeemed :=
  eq_ok_responseOf (by decide +kernel)

/-- The store after the redemption. -/
def redeemedStore : Store :=
  ((authorizationCodeGrant shortService codeRequest none).run authorizedStore).2

/-- A refresh with everything that the refresh token allows. -/
def refreshOf (r : TokenResponse) : RefreshTokenGrantRequest where
  refreshToken := r.refreshToken.getD ""
  scope := none

/-- The tokens for the refresh token of others. -/
def refreshed (r : TokenResponse) : TokenResponse :=
  responseOf ((refreshTokenGrant shortService (refreshOf r) none).eval consentStore)

/-- An exchange for tokens that are meant for the resource `db`. -/
def databaseRequest : TokenExchangeGrantRequest where
  subjectToken := redeemed.accessToken
  subjectTokenType := .accessToken
  actorToken := none
  actorTokenType := none
  resource := some "db"
  audience := none
  authorizationDetails := none
  scope := none
  requestedTokenType := none

/-- The answer to the exchange of the fixture's token. -/
def exchanged : TokenResponse :=
  responseOf ((tokenExchangeGrant shortService databaseRequest none).eval consentStore)

/-- The fixture's exchange succeeds. -/
lemma exchanged_eq :
    (tokenExchangeGrant shortService databaseRequest none).eval consentStore = .ok exchanged :=
  eq_ok_responseOf (by decide +kernel)

end Reference

open Reference

/-- The code of the user is redeemed and the tokens are refreshed once. -/
theorem scopes_never_grow_reference :
    Descends shortService redeemed (refreshed redeemed) ∧
      ∀ t ∈ redeemed.allTokens,
        ∀ t' ∈ (refreshed redeemed).allTokens, ∃ claims claims',
          Bears shortService.libs t claims ∧
            Bears shortService.libs t' claims' ∧
            claims.scope ⊆ ["read", "write"] ∧ claims'.scope ⊆ claims.scope := by
  have hbegins : Begins shortService scopedClient redeemed :=
    .code consentStore authorizedStore codeRandomness
      authorizationRequest principal "code" none _ (by decide +kernel)
      authorize_succeeds [] codeRequest none rfl redeemed_eq
  have hlink : Descends shortService redeemed (refreshed redeemed) :=
    ⟨.refreshToken (refreshOf redeemed), none, consentStore, _, rfl,
      by decide +kernel, eq_ok_responseOf (by decide +kernel)⟩
  exact ⟨hlink, scopes_never_grow shortService (shortLibraries_lawful ..)
    (shortLibraries_lawfulStrings ..) (shortLibraries_lawfulIdTokens ..) hbegins .refl
    (.single hlink)⟩

/-- The tokens for the code are meant for the client, and are refreshed after the redemption. -/
theorem refresh_keeps_grant_iff_reference :
    ∃ last claims claims',
      (refreshTokenGrant shortService (refreshOf redeemed) none).eval
        redeemedStore = .ok last ∧
      Carries shortService.libs redeemed.accessToken claims ∧
      Carries shortService.libs last.accessToken claims' ∧
      (SameGrant claims claims' ↔ claims.aud = claims.clientId) := by
  have hisOk : ((refreshTokenGrant shortService
      (refreshOf redeemed) none).eval redeemedStore).isOk = true := by
    decide +kernel
  obtain ⟨last, hlast⟩ := exists_of_isOk hisOk
  have hlink : Refreshes shortService (redeemed, redeemedStore) (last, _) :=
    ⟨[], refreshOf redeemed, none, by decide +kernel, run_of_eval hlast⟩
  have hgrant : (token shortService (.authorizationCode codeRequest) none).run
      authorizedStore = (.ok redeemed, redeemedStore) :=
    run_of_eval redeemed_eq
  obtain ⟨claims, claims', hcs, hcs', hiff⟩ :=
    refresh_keeps_grant_iff shortService (shortLibraries_lawful ..)
      (shortLibraries_lawfulStrings ..) (shortLibraries_lawfulIdTokens ..)
      (by decide +kernel) hgrant (.single hlink)
  exact ⟨last, claims, claims', hlast, hcs, hcs', hiff⟩

/-- The exchanged token is meant for the resource, its refreshed successor for the client. -/
theorem refresh_changes_audience :
    (tokenExchangeGrant shortService databaseRequest none).eval
        consentStore = .ok exchanged ∧
      (refreshTokenGrant shortService (refreshOf exchanged) none).eval
        consentStore = .ok (refreshed exchanged) ∧
      exchanged.refreshToken =
        some (refreshOf exchanged).refreshToken ∧
      decodeJwt shortService.libs (standardClaimsFromSlice shortService.libs)
          exchanged.accessToken =
        .ok (userHeader, claimsFor (some "db") (some "db")) ∧
      decodeJwt shortService.libs (standardClaimsFromSlice shortService.libs)
          (refreshed exchanged).accessToken =
        .ok (userHeader, claimsFor (some "db") none) ∧
      (claimsFor (some "db") (some "db")).aud = "db" ∧
      (claimsFor (some "db") none).aud = "app" :=
  ⟨exchanged_eq, eq_ok_responseOf (by decide +kernel), by decide +kernel, by decide +kernel,
    by decide +kernel, rfl, rfl⟩

end LocalPlatform.Idp
