import LocalPlatform.Idp.BearerTheorems
import LocalPlatform.Idp.DescentTheorems

/-!
# Deleted users and clients

Tokens and codes name the key of their principal, and a key never changes hands. Deletion removes
only the row of the user or the client, but nothing is accepted without that row, and a new user
or client gets a new identifier, whatever its handle is.
-/

namespace LocalPlatform.Idp

open Resumption List Option

/-- What a principal may hold. -/
inductive Credential where
  | token (text : String)
  | code (text : String)

/-- The operation issues the credential for this user or client. -/
def IssuedFor (S : OAuth2Service) (s : Store) (op : Operation) (entityType : EntityType) (id : Id) :
    Credential → Prop
  | .token text => ∃ request auth r claims, op = .token request auth ∧
      (token S request auth).eval s = .ok r ∧ text ∈ r.accessToken :: r.refreshToken.toList ∧
      Carries S.libs text claims ∧ claims.sub = S.libs.idToString id ∧
      claims.principalType.entityType = entityType
  | .code text => ∃ bearer random request state issuer authorization,
      op = .authorize bearer random request ∧
      (Router.authorizeJson S bearer random request).eval s = .ok (.success text state issuer) ∧
      (authorizeBearer S bearer).eval s = .ok authorization ∧
      authorization.principal.entityType = entityType ∧ authorization.principal.entityId = id

/-- The operation deletes this user or client. -/
def Deletes (S : OAuth2Service) (s : Store) (op : Operation) (entityType : EntityType) (id : Id) :
    Prop :=
  match entityType with
  | .user => op = .deleteUser id ∧ (deleteUser S id).eval s = .ok ()
  | .client => ∃ clientId client, op = .deleteClient clientId ∧
      (findClientByClientId clientId).eval s = .ok (some client) ∧ client.id = id ∧
      (deleteClient clientId).eval s = .ok ()

/-- A token passes the bearer check, is refreshed or exchanged, or a code is redeemed. -/
def Accepts (S : OAuth2Service) (s : Store) : Credential → Prop
  | .token text =>
      (∃ expected authorization,
        (authorizeBearerWithPrincipal S text expected).eval s = .ok authorization) ∨
      ∃ request auth r, TokenRequest.presented request = some text ∧
        (token S request auth).eval s = .ok r
  | .code text => ∃ request auth r, request.code = text ∧
      (authorizationCodeGrant S request auth).eval s = .ok r

/-! ## The key of a credential -/

/-- The key that the credential names. -/
def NamesKey (S : OAuth2Service) (s : Store) (keyId : Id) : Credential → Prop
  | .token text => ∃ header read,
      decodeJwt S.libs (standardClaimsFromSlice S.libs) text = .ok (header, read) ∧
      S.libs.parseId header.kid = some keyId
  | .code text => ∃ code, (findAuthorizationCodeByCode S.libs text).eval s = .ok (some code) ∧
      code.keyId = keyId

section
variable {S : OAuth2Service} {s : Store} {credential : Credential}

/-- Nothing is accepted unless the key it names leads to a principal. -/
lemma Accepts.principal (h : Accepts S s credential) : ∃ keyId principal,
    NamesKey S s keyId credential ∧ (findPrincipal S keyId).eval s = .ok (some principal) := by
  cases credential with
  | token text =>
    rcases h with ⟨_, _, hacc⟩ | ⟨request, _, r, hpres, hgrant⟩
    · obtain ⟨header, read, keyId, principal, -, -, -, hdec, hkeyId, hfound, -⟩ :=
        authorizeBearerWithPrincipal_ok_iff.mp hacc
      exact ⟨keyId, principal, ⟨header, read, hdec, hkeyId⟩, hfound⟩
    · cases request with
      | password request | authorizationCode request | clientCredentials request =>
        cases hpres
      | refreshToken request =>
        obtain rfl := some.inj hpres
        obtain ⟨i, header, read, hiss, -, hdec, -, hkeyId, -⟩ :=
          refreshTokenGrant_issues hgrant
        exact ⟨_, i.principal, ⟨header, read, hdec, hkeyId⟩, hiss.found⟩
      | tokenExchange request =>
        obtain rfl := some.inj hpres
        obtain ⟨i, header, read, hiss, -, hdec, -, hkeyId, -⟩ := tokenExchangeGrant_ok hgrant
        exact ⟨_, i.principal, ⟨header, read, hdec, hkeyId⟩, hiss.found⟩
  | code text =>
    obtain ⟨request, _, r, rfl, hgrant⟩ := h
    obtain ⟨i, code, hiss, -, hcode, -, hkeyId, -⟩ :=
      authorizationCodeGrant_ok (run_of_eval hgrant)
    exact ⟨_, i.principal, ⟨code, hcode, hkeyId.symm⟩, hiss.found⟩

variable {op : Operation} {entityType : EntityType} {id : Id}

/-- A credential is issued for a principal that is there, and will never name another key. -/
lemma IssuedFor.key (hL : S.libs.Lawful) (hJ : S.libs.LawfulStrings)
    (h : IssuedFor S s op entityType id credential) : ∃ keyId principal,
    (findPrincipal S keyId).eval s = .ok (some principal) ∧ principal.entityType = entityType ∧
      principal.entityId = id ∧ ∀ drawn later keyId', Evolves drawn (perform S s op) later →
        NamesKey S later keyId' credential → keyId' = keyId := by
  cases credential with
  | token text =>
    obtain ⟨_, _, r, claims, rfl, hgrant, htext, ⟨_, hcarries⟩, hsub, htype⟩ := h
    obtain ⟨i, hiss, -⟩ := token_issues (run_of_eval hgrant)
    obtain ⟨jwk, exp, hjwk, -, hacc, href, -⟩ := hiss.signed
    -- an access token and a refresh token say the same about their principal
    obtain ⟨exp', use, hsigns⟩ :
        ∃ exp' use, Signs S.libs jwk { i.claims S s.now exp' with use } text := by
      rcases mem_cons.mp htext with rfl | htext
      · exact ⟨exp, .access, hacc⟩
      · obtain ⟨refreshExp, hsigns⟩ := href text (mem_toList.mp htext)
        exact ⟨refreshExp, .refresh, hsigns⟩
    obtain ⟨t, _, hobject⟩ := hcarries.object_eq hL hsigns
    refine ⟨i.principal.key.id, i.principal, hiss.found, ?_, ?_, ?_⟩
    · have hsame : claims.principalType = i.principal.principalType :=
        congrArg ClaimsObject.principalType hobject
      rw [← htype, hsame]
      cases i.principal <;> rfl
    · have hsame : claims.sub = S.libs.idToString i.principal.entityId :=
        congrArg ClaimsObject.sub hobject
      have hparse := congrArg S.libs.parseId (hsub.symm.trans hsame)
      rw [hL.id_roundtrip, hL.id_roundtrip, some.injEq] at hparse
      exact hparse.symm
    · rintro _ _ _ - ⟨_, _, hdec, hkeyId'⟩
      obtain ⟨-, rfl, -⟩ := (hsigns.decodeJwt_ok_iff hL hJ).mp hdec
      have hkid : (jwtHeader jwk).kid = S.libs.idToString i.principal.key.id :=
        loadSigningJwk_kid hjwk
      rw [hkid, hL.id_roundtrip, some.injEq] at hkeyId'
      exact hkeyId'.symm
  | code text =>
    obtain ⟨_, random, _, _, _, _, rfl, hgrant, hbearer, htype, hid⟩ := h
    obtain ⟨_, hbearer', hauth⟩ := run_bind_iff.mp (run_of_eval hgrant)
    obtain rfl := Except.ok.inj (hbearer.symm.trans hbearer')
    obtain ⟨_, _, keyId, principal, -, -, claims, -, -, hfound, -, -, -, -, rfl⟩ :=
      authorizeBearerWithPrincipal_ok_iff.mp hbearer
    obtain ⟨hresp, _, _, _, _, -, -, hrec⟩ :=
      authorize_ok hauth
    obtain rfl : text = random.code := by injection hresp
    refine ⟨keyId, principal, hfound, htype, hid, ?_⟩
    rintro _ _ _ hevol ⟨code, hcode, rfl⟩
    obtain ⟨-, hkeyId, -⟩ := hrec.code_eq hevol hcode
    exact hkeyId.trans (findPrincipal_keyId hfound)

/-- A deleted row is gone. -/
lemma Deletes.absent (h : Deletes S s op entityType id) :
    ¬EntityPresent entityType id (perform S s op) := by
  cases entityType with
  | user =>
    obtain ⟨rfl, hdelete⟩ := h
    obtain ⟨_, -, h1⟩ := run_bind_iff.mp (run_of_eval hdelete)
    obtain ⟨_, -, h2⟩ := run_bind_iff.mp h1
    have husers : (perform S s (.deleteUser id)).users = s.users.filter fun row => row.id != id :=
      congrArg Store.users (Prod.mk.inj h2).2.symm
    rintro ⟨row, hrow, hid⟩
    rw [husers] at hrow
    simpa [hid] using (mem_filter.mp hrow).2
  | client =>
    obtain ⟨clientId, client, rfl, hcl, rfl, hdelete⟩ := h
    have hrun := run_of_eval (eval_repo_ok.mp hdelete)
    obtain ⟨client?, hcl?, h1⟩ := run_bind_iff.mp hrun
    obtain ⟨found, hfound, h2⟩ := run_bind_iff.mp h1
    obtain rfl := Except.ok.inj (hcl?.symm.trans hcl)
    obtain rfl : client = found := by simpa using hfound
    have hcls : (perform S s (.deleteClient clientId)).clients =
        s.clients.filter fun row => row.id != client.id := by
      have hstate := congrArg Store.clients (Prod.mk.inj h2).2.symm
      rw [perform, deleteClient, repo, run_mapError]
      exact hstate
    rintro ⟨row, hrow, hid⟩
    rw [hcls] at hrow
    simpa [hid] using (mem_filter.mp hrow).2

end

/-! ## Histories with a deletion -/

section
variable {S : OAuth2Service} {s : Store}

lemma drawnBy_append (first second : List Operation) :
    drawnBy (first ++ second) = drawnBy first ++ drawnBy second :=
  flatMap_append

/-- Whoever was there and is gone never comes back. -/
lemma Fresh.absent_later {first second third : List Operation} {entityType : EntityType} {id : Id}
    (hfresh : Fresh s (first ++ second ++ third))
    (hpres : EntityPresent entityType id (performAll S s first))
    (hgone : ¬EntityPresent entityType id (performAll S s (first ++ second))) :
    ¬EntityPresent entityType id (performAll S s (first ++ second ++ third)) := by
  intro hlater
  rw [performAll, foldl_append] at hlater
  have hthird : id ∈ drawnBy third :=
    ((performAll_evolves S _ third).entities _ _ hlater).resolve_left hgone
  have hdrawn : id ∈ drawnBy (first ++ second ++ third) := by
    rw [drawnBy_append]
    exact mem_append_right _ hthird
  rcases (performAll_evolves S s first).entities _ _ hpres with hstart | hfirst
  · exact hfresh.absent id hdrawn entityType hstart
  · -- drawn at the start and once more at the end
    have hnodup := hfresh.nodup
    rw [drawnBy_append, drawnBy_append, nodup_append] at hnodup
    exact hnodup.2.2 id (mem_append_left _ hfirst) id hthird rfl

end

/-- After a user or a client was deleted, nothing that was issued for it before is accepted again,
whatever happens. -/
theorem deleted_never_accepted (S : OAuth2Service) (hL : S.libs.Lawful)
    (hJ : S.libs.LawfulStrings) {s : Store} (hkeys : (s.keys.map KeyRow.id).Nodup)
    (before between after : List Operation) {issue delete : Operation}
    (hfresh : Fresh s (before ++ (issue :: between ++ [delete]) ++ after))
    {entityType : EntityType} {id : Id} {credential : Credential}
    (hissued : IssuedFor S (performAll S s before) issue entityType id credential)
    (hdeleted : Deletes S (performAll S s (before ++ issue :: between)) delete entityType id) :
    ¬Accepts S (performAll S s (before ++ (issue :: between ++ [delete]) ++ after)) credential := by
  intro hacc
  obtain ⟨keyId, _, hfound, rfl, rfl, hnames⟩ := hissued.key hL hJ
  obtain ⟨keyId', _, hnames', hfound'⟩ := hacc.principal
  have hbef := performAll_evolves S s before
  have hlater : performAll S s (before ++ (issue :: between ++ [delete]) ++ after) =
      performAll S (perform S (performAll S s before) issue) (between ++ delete :: after) := by
    simp [performAll]
  -- the same key leads to the same user or client
  obtain rfl : keyId' = keyId := by
    have hevol := performAll_evolves S (perform S (performAll S s before) issue)
      (between ++ delete :: after)
    exact hnames _ _ keyId' (hlater ▸ hevol) hnames'
  have hrest : Evolves (drawnBy (issue :: (between ++ delete :: after))) (performAll S s before)
      (performAll S s (before ++ (issue :: between ++ [delete]) ++ after)) := by
    rw [hlater]
    exact performAll_evolves S _ (issue :: (between ++ delete :: after))
  obtain ⟨htype, hid⟩ := hrest.principal_eq (hbef.keys.nodup hkeys) hfound hfound'
  have hpres := (findPrincipal_ok hfound).2.2.2.2
  have hpres' := (findPrincipal_ok hfound').2.2.2.2
  rw [htype, hid] at hpres'
  refine hfresh.absent_later hpres ?_ hpres'
  have hgone := hdeleted.absent
  have hstate : perform S (performAll S s (before ++ issue :: between)) delete =
      performAll S s (before ++ (issue :: between ++ [delete])) := by
    simp [performAll]
  rwa [hstate] at hgone

/-! ## The reference installation -/

namespace Reference

/-- What the exchanged token was made from. -/
lemma exchanged_carries :
    Carries shortService.libs exchanged.accessToken (claimsFor (some "db") (some "db")) := by
  obtain ⟨i, -, -, hiss, -⟩ := tokenExchangeGrant_ok exchanged_eq
  obtain ⟨jwk, _, -, -, hsigns, -⟩ := hiss.signed
  have hdec : decodeJwt shortService.libs (standardClaimsFromSlice shortService.libs)
      exchanged.accessToken = .ok (userHeader, claimsFor (some "db") (some "db")) := by
    decide +kernel
  obtain ⟨-, -, hcs⟩ := (hsigns.decodeJwt_ok_iff (shortLibraries_lawful ..)
    (shortLibraries_lawfulStrings ..)).mp hdec
  exact ⟨jwk, hcs ▸ hsigns⟩

/-- A new user with the handle of the deleted one. -/
def recreation : Operation := .createUser ⟨60, 61, []⟩ "alice" "secret"

/-- The identifiers of the fixture's calls are all new. -/
lemma recreation_fresh :
    Fresh consentStore
      ([] ++ (.token (.tokenExchange databaseRequest) none :: [] ++ [.deleteUser 1]) ++
        [recreation]) where
  nodup := by decide
  absent id hid entityType := by
    obtain rfl : id = 60 := by simpa [drawnBy, Operation.drawn, recreation] using hid
    cases entityType <;> simp [EntityPresent, consentStore, store, user, scopedClient, client,
      Client.toRow]

end Reference

open Reference

/-- The user is deleted after an exchange, and the handle is taken again. -/
theorem deleted_never_accepted_reference :
    Deletes shortService (performAll shortService consentStore
        [.token (.tokenExchange databaseRequest) none]) (.deleteUser 1) .user 1 ∧
      ¬Accepts shortService
        (performAll shortService consentStore
          ([] ++ (.token (.tokenExchange databaseRequest) none :: [] ++
            [.deleteUser 1]) ++ [recreation]))
        (.token exchanged.accessToken) := by
  have hiss : IssuedFor shortService consentStore
      (.token (.tokenExchange databaseRequest) none) .user 1
      (.token exchanged.accessToken) :=
    ⟨_, none, exchanged, _, rfl, exchanged_eq, mem_cons_self,
      exchanged_carries, by decide, rfl⟩
  have hdel : Deletes shortService (performAll shortService
      consentStore [.token (.tokenExchange databaseRequest) none])
      (.deleteUser 1) .user 1 :=
    ⟨rfl, by decide +kernel⟩
  exact ⟨hdel, deleted_never_accepted shortService
    (shortLibraries_lawful ..) (shortLibraries_lawfulStrings ..)
    (by decide) [] [] [recreation] recreation_fresh hiss hdel⟩

end LocalPlatform.Idp
