import LocalPlatform.Idp.GrantTheorems

/-!
# Storage actions along a chain of exchanges and refreshes

A refresh hands on the authorization details of the token it is given. An exchange hands on those
of its request, which are checked for their shape but, other than the scopes, never compared with
the subject token. So a chain stays within the actions of its first token exactly when every
exchange in it asks for no more.
-/

namespace LocalPlatform.Idp

open Resumption List

/-- All storage actions that a list of authorization details grants. -/
def detailActions (details : Option (List AuthorizationDetail)) :
    List StorageAuthorizationAction :=
  (details.getD []).flatMap fun
    | .storage detail => detail.actions

/-- The storage actions that stand in the claims of a token. -/
def carriedActions (L : Libraries) (token : String) : List StorageAuthorizationAction :=
  match decodeJwt L L.claimsFromSlice token with
  | .ok (_, claims) => detailActions claims.authorizationDetails
  | .error _ => []

/-- The access and the refresh token of a response. -/
def TokenResponse.tokens (r : TokenResponse) : List String :=
  r.accessToken :: r.refreshToken.toList

/-- A call of the token endpoint, in whatever state it finds. -/
structure GrantCall where
  store : Store
  request : TokenRequest
  auth : Option OAuth2ClientAuth

/-- The storage actions an exchange asks for. -/
def TokenRequest.requestedActions : TokenRequest → List StorageAuthorizationAction
  | .tokenExchange request => detailActions request.authorizationDetails
  | .password _ | .authorizationCode _ | .clientCredentials _ | .refreshToken _ => []

/-- The tokens that are reached from `start` by calls that each present one of them. -/
inductive TokenChain (S : OAuth2Service) (start : String) : List GrantCall → List String → Prop
  | start : TokenChain S start [] [start]
  | grant {calls : List GrantCall} {tokens : List String} (chain : TokenChain S start calls tokens)
      (call : GrantCall) (presented : String) (r : TokenResponse)
      (hpresented : call.request.presented = some presented) (hmem : presented ∈ tokens)
      (hgrant : (token S call.request call.auth).eval call.store = .ok r) :
      TokenChain S start (call :: calls) (r.tokens ++ tokens)

/-! ## One grant -/

section
variable {S : OAuth2Service} {s : Store} {r : TokenResponse} {claims : StandardClaims}
  {L : Libraries}

/-- A token that was encoded carries the actions of its claims. -/
lemma carriedActions_encodeJwt (hL : L.Lawful) {jwk : JwkPrivate} {token : String}
    (h : encodeJwt L jwk (standardClaimsToVec L claims) = .ok token) :
    carriedActions L token = detailActions claims.authorizationDetails := by
  obtain ⟨_, b, -, hb, hback⟩ := standardClaimsToVec_total hL claims
  rw [hb] at h
  have hdec := decodeJwt_encodeJwt hL h hback
  rw [carriedActions, hdec]
  rfl

/-- Both tokens of a response carry the authorization details they were issued with. -/
lemma carriedActions_issued (hL : S.libs.Lawful) {i : Issue} (h : Issues S s i r) :
    ∀ t ∈ r.tokens, carriedActions S.libs t = detailActions i.details := by
  obtain ⟨_, _, -, -, hacc, href, -⟩ := h.signed
  intro t ht
  rcases mem_cons.mp ht with rfl | ht
  · rw [carriedActions_encodeJwt hL hacc]
    rfl
  · obtain ⟨_, hsigns⟩ := href t (by simpa using ht)
    rw [carriedActions_encodeJwt hL hsigns]
    rfl

/-- The claims that a refresh reads are those that stand in the token. -/
lemma carriedActions_of_decodeJwt {token : String} {header : JwtHeader}
    (h : decodeJwt L (standardClaimsFromSlice L) token = .ok (header, claims)) :
    carriedActions L token = detailActions claims.authorizationDetails := by
  obtain ⟨b, hcs, hother⟩ := decodeJwt_ok h
  obtain ⟨claimsObject, hobject, hrest⟩ := except_bind_ok.mp hcs
  obtain ⟨_, -, hcs⟩ := except_bind_ok.mp hrest
  obtain rfl := Except.ok.inj hcs
  rw [carriedActions, hother L.claimsFromSlice claimsObject hobject]
  rfl

/-- The tokens of a grant carry what its request asks for, or what the presented token carries. -/
lemma carriedActions_grant (hL : S.libs.Lawful) {request : TokenRequest}
    {auth : Option OAuth2ClientAuth} {presented : String}
    (hpres : request.presented = some presented)
    (h : (token S request auth).eval s = .ok r) :
    (∀ t ∈ r.tokens, carriedActions S.libs t = request.requestedActions) ∨
      request.requestedActions = [] ∧
        ∀ t ∈ r.tokens, carriedActions S.libs t = carriedActions S.libs presented := by
  cases request with
  | refreshToken request =>
    right
    obtain ⟨i, _, _, hiss, -, hdec, -, -, -, -, -, hdet, -⟩ :=
      refreshTokenGrant_issues h
    obtain rfl := Option.some.inj hpres
    refine ⟨rfl, fun t ht => ?_⟩
    rw [carriedActions_issued hL hiss t ht, hdet, carriedActions_of_decodeJwt hdec]
  | tokenExchange request =>
    left
    obtain ⟨i, _, _, hiss, -, -, -, -, -, -, -, hdet, -⟩ := tokenExchangeGrant_ok h
    intro t ht
    rw [carriedActions_issued hL hiss t ht, hdet]
    rfl
  | password _ | authorizationCode _ | clientCredentials _ => cases hpres

end

/-! ## The whole chain -/

/-- Every token of a chain stays within the actions of the first one exactly when every exchange
asked for nothing beyond them. -/
theorem tokenChain_actions_iff (S : OAuth2Service) (hL : S.libs.Lawful) {start : String}
    {calls : List GrantCall} {tokens : List String} (chain : TokenChain S start calls tokens) :
    (∀ t ∈ tokens, carriedActions S.libs t ⊆ carriedActions S.libs start) ↔
      ∀ call ∈ calls, call.request.requestedActions ⊆ carriedActions S.libs start := by
  induction chain with
  | start => simp
  | grant chain call presented r hpres hmem hgrant ih =>
    rw [forall_mem_append, forall_mem_cons, ih]
    refine and_congr_left fun hbef => ?_
    rcases carriedActions_grant hL hpres hgrant with hrequested | ⟨hnone, hkept⟩
    -- an exchange: its tokens carry what it asked for
    · constructor
      · intro hwithin
        rw [← hrequested r.accessToken mem_cons_self]
        exact hwithin r.accessToken mem_cons_self
      · intro hwithin t ht
        rw [hrequested t ht]
        exact hwithin
    -- a refresh: it asks for nothing and hands on what an earlier token carries
    · constructor
      · intro _
        rw [hnone]
        exact nil_subset _
      · intro _ t ht
        rw [hkept t ht]
        exact ih.mpr hbef presented hmem

/-! ## The reference installation -/

namespace Reference

/-- The claims of an access token of the user that is good for reading. -/
def subjectClaims : StandardClaims where
  type := .bearer
  use := .access
  exp := 60
  iat := 0
  nbf := 0
  iss := service.oauthConfig.issuer
  aud := "app"
  clientId := "app"
  sub := idToString 1
  principalType := .user
  resource := none
  authorizationDetails := some [.storage { actions := [.read] }]
  scope := []

/-- The signing key of the user. -/
def signingJwk : JwkPrivate where
  use := .signature
  kid := idToString 2
  alg := .edDSA
  params := .ec "secp256k1" (spell [7]) (spell []) (spell [7])

/-- The signed text of `subjectClaims`. -/
def subjectToken : String :=
  match encodeJwt libraries signingJwk (standardClaimsToVec libraries subjectClaims) with
  | .ok token => token
  | .error _ => ""

/-- An exchange of that token for one with the given actions. -/
def exchangeRequest (actions : List StorageAuthorizationAction) : TokenExchangeGrantRequest where
  subjectToken := subjectToken
  subjectTokenType := .accessToken
  actorToken := none
  actorTokenType := none
  resource := none
  audience := none
  authorizationDetails := some [.storage { actions }]
  scope := none
  requestedTokenType := none

/-- An exchange that asks for the given actions. -/
def exchangeCall (actions : List StorageAuthorizationAction) : GrantCall where
  store := store
  request := .tokenExchange (exchangeRequest actions)
  auth := none

/-- The public key that the installation stores for the user. -/
def publicJwk : JwkPublic where
  use := .signature
  kid := idToString 2
  alg := .edDSA
  params := .ec "secp256k1" (spell [7]) (spell [])

lemma subjectToken_encoded : ∃ b, encodeJwt libraries signingJwk (.ok b) = .ok subjectToken ∧
    standardClaimsToVec libraries subjectClaims = .ok b ∧
    standardClaimsFromSlice libraries b = .ok subjectClaims := by
  obtain ⟨_, b, htext, hb, hback⟩ := standardClaimsToVec_total libraries_lawful subjectClaims
  have hkey : signingKeyFromJwk libraries signingJwk = .ok [7] := rfl
  obtain ⟨_, htoken⟩ := encodeJwt_total libraries_lawful hkey b
  refine ⟨b, ?_, hb, ?_⟩
  · rw [subjectToken, hb, htoken]
  · obtain rfl := (Except.ok.inj htext).symm
    exact except_bind_ok.mpr ⟨_, hback,
      except_bind_ok.mpr ⟨[], deserializeScope_empty libraries, rfl⟩⟩

/-- The subject token decodes to its claims. -/
lemma decodeJwt_subjectToken :
    decodeJwt libraries (standardClaimsFromSlice libraries) subjectToken =
      .ok (jwtHeader signingJwk, subjectClaims) := by
  obtain ⟨b, htoken, -, hcs⟩ := subjectToken_encoded
  exact decodeJwt_encodeJwt libraries_lawful htoken hcs

/-- The signature of the subject token verifies. -/
lemma verifyJwt_subjectToken :
    verifyJwt libraries (standardClaimsFromSlice libraries) publicJwk subjectToken =
      .ok (jwtHeader signingJwk, subjectClaims) := by
  obtain ⟨b, htoken, -, hcs⟩ := subjectToken_encoded
  exact verifyJwt_encodeJwt libraries_lawful htoken hcs rfl rfl
    fun message => ⟨_, rfl, if_pos rfl⟩

/-- The installation accepts an exchange of the token for any well-formed set of actions. -/
lemma exchangeCall_succeeds (actions : List StorageAuthorizationAction)
    (hactions : validateAuthorizationDetails [.storage { actions }] = .ok ()) :
    ∃ r, (token service (exchangeCall actions).request none).eval store = .ok r := by
  show ∃ r, (tokenExchangeGrant service (exchangeRequest actions) none).eval store = .ok r
  refine exists_eval_bind (a := ()) (eval_failIf_ok.mpr rfl) ?_
  refine exists_check_bind decodeJwt_subjectToken ?_
  refine exists_okOr_bind (libraries_lawful.id_roundtrip 2) ?_
  refine exists_eval_bind rfl ?_
  refine exists_check_bind verifyJwt_subjectToken ?_
  refine exists_eval_bind (eval_utcNow store) ?_
  refine exists_eval_bind (a := ()) (eval_failIf_ok.mpr rfl) ?_
  refine exists_repo_bind rfl ?_
  refine exists_okOr_bind rfl ?_
  refine exists_eval_bind (eval_repo_ok.mpr rfl) ?_
  refine exists_okOr_bind rfl ?_
  refine exists_check_bind rfl ?_
  refine exists_check_bind rfl ?_
  refine exists_check_bind hactions ?_
  refine exists_eval_bind rfl ?_
  refine exists_okOr_bind rfl ?_
  exact issueTokensForClient_total libraries_lawful (canIssue _) client _ _ _ _ _

end Reference

open Reference

/-- There, a genuine token that only allows reading is exchanged for one that allows writing. -/
theorem tokenExchange_adds_write :
    SignatureVerifies service store subjectToken ∧
      carriedActions libraries subjectToken = [.read] ∧
      ∃ r, (token service
          (.tokenExchange (exchangeRequest [.read, .write])) none).eval
            store = .ok r ∧
        ∀ t ∈ r.tokens, .write ∈ carriedActions libraries t := by
  refine ⟨?_, carriedActions_of_decodeJwt decodeJwt_subjectToken, ?_⟩
  · exact ⟨_, _, 2, publicJwk, decodeJwt_subjectToken,
      libraries_lawful.id_roundtrip 2, rfl, verifyJwt_subjectToken⟩
  · obtain ⟨r, hr⟩ := exchangeCall_succeeds [.read, .write] rfl
    obtain ⟨i, _, _, hiss, -, -, -, -, -, -, -, hdet, -⟩ := tokenExchangeGrant_ok hr
    refine ⟨r, hr, fun t ht => ?_⟩
    have hcarried : carriedActions libraries t = detailActions i.details :=
      carriedActions_issued libraries_lawful hiss t ht
    rw [hcarried, hdet]
    decide

/-- An exchange for reading only, seen as a chain of one call. -/
theorem tokenChain_actions_iff_reference :
    ∃ tokens, TokenChain service subjectToken
        [exchangeCall [.read]] tokens ∧
      ((∀ t ∈ tokens, carriedActions libraries t ⊆
          carriedActions libraries subjectToken) ↔
        ∀ call ∈ [exchangeCall [.read]], call.request.requestedActions ⊆
          carriedActions libraries subjectToken) := by
  obtain ⟨r, hr⟩ := exchangeCall_succeeds [.read] rfl
  have hchain : TokenChain service subjectToken
      [exchangeCall [.read]] (r.tokens ++ [subjectToken]) :=
    .grant .start _ subjectToken r rfl mem_cons_self hr
  exact ⟨_, hchain, tokenChain_actions_iff service libraries_lawful hchain⟩

end LocalPlatform.Idp
