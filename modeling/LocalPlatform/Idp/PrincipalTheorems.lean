import LocalPlatform.Idp.BearerTheorems
import LocalPlatform.Idp.DescentTheorems

/-!
# Users and clients do not mix

Every request that presents a token finds its principal by the key that the token names, and a key
keeps its entity. So whatever comes of a token, in however many steps and with whatever happening in
between, has the subject and the principal type of the first token; and since only users can refresh
and exchange, nothing comes of the token of a client. The bearer check compares the principal type
of a token with the one it expects.
-/

namespace LocalPlatform.Idp

open Resumption Option

/-! ## Chains through the token endpoint -/

/-- Some history after the first response, one of its tokens is presented to the token endpoint,
which answers with the second response. -/
def LeadsTo (S : OAuth2Service) (a b : TokenResponse × Store) : Prop :=
  ∃ ops request auth presented, TokenRequest.presented request = some presented ∧
    presented ∈ a.1.allTokens ∧ (token S request auth).run (performAll S a.2 ops) = (.ok b.1, b.2)

section
variable {S : OAuth2Service} (hL : S.libs.Lawful) (hJ : S.libs.LawfulStrings)
  (hI : S.libs.LawfulIdTokens) {s : Store}
include hL hJ hI

variable {i : Issue} {a b : TokenResponse × Store}

/-- A request that presents a token of an issue is answered for the key of that issue, and only if
the key is that of a user. -/
lemma Issues.presented {s' s₁ : Store} {a b : TokenResponse} (h : Issues S s i a)
    {request : TokenRequest} {auth : Option OAuth2ClientAuth} {presented : String}
    (hpres : TokenRequest.presented request = some presented)
    (hmem : presented ∈ a.allTokens) (hrun : (token S request auth).run s' = (.ok b, s₁)) :
    s₁ = s' ∧ ∃ i', Issues S s' i' b ∧ i'.principal.entityType = .user ∧
      i'.principal.key.id = i.principal.key.id := by
  cases request with
  | password request | authorizationCode request | clientCredentials request => cases hpres
  | refreshToken request =>
    obtain rfl := some.inj hpres
    have hstate : s' = s₁ := by
      have hrun' := hrun
      rw [token, run_reads (refreshTokenGrant S request auth)] at hrun'
      exact (Prod.mk.inj hrun').2
    obtain ⟨i', _, _, hiss, huser, hdec, huse, hkeyId, -⟩ :=
      refreshTokenGrant_issues (eval_of_run hrun)
    obtain ⟨hkid, -⟩ := h.claims_eq hL hJ hI hmem hdec (by rw [huse]; decide)
    rw [hkid, hL.id_roundtrip, some.injEq] at hkeyId
    exact ⟨hstate.symm, i', hiss, huser, hkeyId.symm⟩
  | tokenExchange request =>
    obtain rfl := some.inj hpres
    have hstate : s' = s₁ := by
      have hrun' := hrun
      rw [token, run_reads (tokenExchangeGrant S request auth)] at hrun'
      exact (Prod.mk.inj hrun').2
    obtain ⟨i', _, _, hiss, huser, hdec, huse, hkeyId, -⟩ :=
      tokenExchangeGrant_ok (eval_of_run hrun)
    obtain ⟨hkid, -⟩ := h.claims_eq hL hJ hI hmem hdec (by rw [huse]; decide)
    rw [hkid, hL.id_roundtrip, some.injEq] at hkeyId
    exact ⟨hstate.symm, i', hiss, huser, hkeyId.symm⟩

/-- One link of a chain: the principal is a user, and the same one. -/
lemma LeadsTo.issued (h : LeadsTo S a b) (hissued : IssuedBefore S i s a.1 a.2) :
    i.principal.entityType = .user ∧ ∃ i', IssuedBefore S i' b.2 b.1 b.2 ∧
      i'.principal.entityType = i.principal.entityType ∧
      i'.principal.entityId = i.principal.entityId := by
  obtain ⟨ops, _, _, _, hpres, hmem, hrun⟩ := h
  obtain ⟨hiss, hunique, drawn, hevol⟩ := hissued
  obtain ⟨hstate, i', hiss', huser, hkeyId⟩ := hiss.presented hL hJ hI hpres hmem hrun
  have hlater : Evolves (drawn ++ drawnBy ops) s b.2 := by
    rw [hstate]
    exact (hevol.mono (List.subset_append_left _ _)).trans
      ((performAll_evolves S a.2 ops).mono (List.subset_append_right _ _))
  rw [← hstate] at hiss'
  obtain ⟨htype, hent⟩ := hlater.principal_eq hunique hiss.found (hkeyId ▸ hiss'.found)
  exact ⟨htype ▸ huser, i', ⟨hiss', hlater.keys.nodup hunique, [], .refl _⟩, htype, hent⟩

/-- A whole chain. -/
lemma leadsTo_issued
    (h : Relation.ReflTransGen (LeadsTo S) a b) (hiss : IssuedBefore S i s a.1 a.2) :
    ∃ i' s', IssuedBefore S i' s' b.1 b.2 ∧ i'.principal.entityType = i.principal.entityType ∧
      i'.principal.entityId = i.principal.entityId := by
  induction h with
  | refl => exact ⟨i, s, hiss, rfl, rfl⟩
  | tail _ hlink ih =>
    obtain ⟨_, _, hiss1, htype1, hent1⟩ := ih
    obtain ⟨-, i2, hiss2, htype2, hent2⟩ := hlink.issued hL hJ hI hiss1
    exact ⟨i2, _, hiss2, htype2.trans htype1, hent2.trans hent1⟩

/-! ## The bearer check -/

/-- A token of an issue passes a bearer check only if the check expects its principal type. -/
lemma Issues.expected_of_bearer {s' : Store} {r : TokenResponse}
    (h : Issues S s i r) {t : String} (ht : t ∈ r.allTokens) {expected : PrincipalType}
    {a : Authorization}
    (hbearer : (authorizeBearerWithPrincipal S t (some expected)).eval s' = .ok a) :
    expected = i.principal.principalType := by
  obtain ⟨-, -, _, _, _, _, read, -, -, -, -, hver, -, hvalid, -⟩ :=
    authorizeBearerWithPrincipal_ok_iff.mp hbearer
  simp only [validBearerClaims, Bool.and_eq_true, beq_iff_eq, any_some,
    Bool.not_eq_true', bne_eq_false_iff_eq] at hvalid
  have hacc : read.use = .access := hvalid.1.1.1.1.1.1.1.2
  have hexpected : expected = read.principalType := hvalid.1.1.2
  obtain ⟨-, _, _, _, rfl⟩ := h.claims_eq hL hJ hI ht (decodeJwt_of_verifyJwt hver)
    (by rw [hacc]; decide)
  exact hexpected

end

/-! ## Separation -/

/-- What is so of all tokens of a response that comes of a grant to a subject. -/
structure Separated (S : OAuth2Service) (subject : String) (principalType : PrincipalType)
    (r : TokenResponse) : Prop where
  claims : ∀ t ∈ r.allTokens, ∃ claims, Bears S.libs t claims ∧ claims.sub = subject ∧
    claims.principalType = principalType
  bearer : principalType = .client → ∀ t ∈ r.allTokens, ∀ s a,
    (authorizeBearer S t).eval s ≠ .ok a
  bearerClient : principalType = .user → ∀ t ∈ r.allTokens, ∀ s a,
    (authorizeBearerClient S t).eval s ≠ .ok a

/-- The tokens of one answer name one principal and differ in their use. -/
lemma Issues.separated {S : OAuth2Service} (hL : S.libs.Lawful) (hJ : S.libs.LawfulStrings)
    (hI : S.libs.LawfulIdTokens) {s : Store} {i : Issue} {r : TokenResponse}
    (h : Issues S s i r) :
    Separated S (S.libs.idToString i.principal.entityId) i.principal.principalType r where
  claims := by
    intro t ht
    obtain ⟨_, _, hbears⟩ := h.bears ht
    exact ⟨_, hbears, rfl, rfl⟩
  bearer := by
    intro hcl t ht s' a hbearer
    have hexpected := h.expected_of_bearer hL hJ hI ht hbearer
    rw [hcl] at hexpected
    cases hexpected
  bearerClient := by
    intro huser t ht s' a hbearer
    have hexpected := h.expected_of_bearer hL hJ hI ht hbearer
    rw [huser] at hexpected
    cases hexpected

/-- Along every chain of requests to the token endpoint the subject and the principal type stay
those of the first response, and with them the bearer check that its tokens can pass; and nothing
comes of the response to client credentials. -/
theorem principal_kept_along_chains (S : OAuth2Service) (hL : S.libs.Lawful)
    (hJ : S.libs.LawfulStrings) (hI : S.libs.LawfulIdTokens) {s s₁ s₂ : Store}
    (hkeys : (s.keys.map KeyRow.id).Nodup) {request : TokenRequest}
    {auth : Option OAuth2ClientAuth} {first last : TokenResponse}
    (hgrant : (token S request auth).run s = (.ok first, s₁))
    (hchain : Relation.ReflTransGen (LeadsTo S) (first, s₁) (last, s₂)) :
    (∃ subject, Separated S subject request.principalType first ∧
      Separated S subject request.principalType last) ∧
    (request.principalType = .client → ∀ next, ¬LeadsTo S (last, s₂) next) := by
  obtain ⟨i, hiss, htype⟩ := token_issues hgrant
  have hevol : Evolves [] s s₁ := by
    have hstep : Evolves [] s ((token S request auth).run s).2 :=
      .run (token_within .refl consumeAuthorizationCode_evolves ..) s
    rwa [hgrant] at hstep
  obtain ⟨i', _, hissued, hentityType, hent⟩ :=
    leadsTo_issued hL hJ hI hchain ⟨hiss, hkeys, [], hevol⟩
  have htype' : i'.principal.principalType = request.principalType := by
    rw [← htype]
    revert hentityType
    cases i'.principal <;> cases i.principal <;> first | exact fun _ => rfl | exact nofun
  constructor
  · have hfirst := hiss.separated hL hJ hI
    have hlast := hissued.issues.separated hL hJ hI
    rw [htype] at hfirst
    rw [htype', hent] at hlast
    exact ⟨_, hfirst, hlast⟩
  · intro hcl next hnext
    have huser := (hnext.issued hL hJ hI hissued).1
    have hcontra := (principalType_user huser).symm.trans (htype'.trans hcl)
    cases hcontra

open Reference

/-- The code of the user is redeemed and the tokens are refreshed once; none of them passes for the
token of a client. -/
theorem principal_kept_along_chains_reference :
    ∃ last subject,
      (refreshTokenGrant shortService (refreshOf redeemed) none).eval
        redeemedStore = .ok last ∧
      Separated shortService subject .user redeemed ∧
      Separated shortService subject .user last := by
  have hisOk : ((refreshTokenGrant shortService
      (refreshOf redeemed) none).eval redeemedStore).isOk = true := by
    decide +kernel
  obtain ⟨last, hlast⟩ := exists_of_isOk hisOk
  have hlink : LeadsTo shortService (redeemed, redeemedStore) (last, _) :=
    ⟨[], .refreshToken (refreshOf redeemed), none, _, rfl, by decide +kernel, run_of_eval hlast⟩
  have hgrant : (token shortService (.authorizationCode codeRequest) none).run
      authorizedStore = (.ok redeemed, redeemedStore) :=
    run_of_eval redeemed_eq
  obtain ⟨⟨subject, hfirst, hsecond⟩, -⟩ :=
    principal_kept_along_chains shortService (shortLibraries_lawful ..)
      (shortLibraries_lawfulStrings ..) (shortLibraries_lawfulIdTokens ..)
      (by decide +kernel) hgrant (.single hlink)
  exact ⟨last, subject, hlast, hfirst, hsecond⟩

end LocalPlatform.Idp
