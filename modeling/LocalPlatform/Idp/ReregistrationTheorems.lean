import LocalPlatform.Idp.ConsentTheorems

/-!
# Consents of a deleted client

A consent names the client by its client id, which anybody can register again once the client is
deleted, and the deletion of a client removes the row of the client only. As long as the user makes
no further decision, the consents for the client id are therefore those of the client that is gone,
and `authorize` gives a code to the next client of that id exactly if one of them is for what is
asked.
-/

namespace LocalPlatform.Idp

open Resumption List

/-! ## Decisions after the deletion -/

/-- The consents of a user for a client id. -/
def consentsOf (userId : Id) (clientId : String) (s : Store) : List ConsentRow :=
  s.userConsents.filter fun row => row.userId == userId && row.clientId == clientId

/-- The user approves something for the client id, or revokes a consent for it. -/
def Operation.Decides (S : OAuth2Service) (s : Store) (userId : Id) (clientId : String) :
    Operation → Prop
  | .approveForUser bearer _ request => request.clientId = clientId ∧
      ∃ a, (authorizeBearer S bearer).eval s = .ok a ∧ a.principal.entityId = userId
  | .revokeUserConsent userId' consentId => userId' = userId ∧
      ∃ row ∈ s.userConsents, row.id = consentId ∧ row.clientId = clientId
  | .token .. | .authorize .. | .registerClient .. | .createClient .. | .updateClient ..
  | .deleteClient .. | .createUser .. | .deleteUser .. | .ensureMasterKey .. | .createKey ..
  | .setClock .. | .reportConflicts .. => False

/-- A history in which the user decides nothing about the client id. -/
def Undecided (S : OAuth2Service) (userId : Id) (clientId : String) :
    Store → List Operation → Prop
  | _, [] => True
  | s, op :: ops => ¬op.Decides S s userId clientId ∧
      Undecided S userId clientId (perform S s op) ops

/-! ## Operations that leave consents alone -/

section Quiet
variable {S : OAuth2Service}

/-- The table of consents is as it was. -/
def SameConsents (s s' : Store) : Prop := s'.userConsents = s.userConsents

lemma SameConsents.refl (s : Store) : SameConsents s s := rfl

lemma SameConsents.trans (a b c : Store) (hab : SameConsents a b) (hbc : SameConsents b c) :
    SameConsents a c :=
  Eq.trans hbc hab

lemma SameConsents.run {ε α : Type} {t : Task Access Store ε α} (h : t.Within SameConsents)
    (s : Store) : SameConsents s (t.run s).2 :=
  h.run .refl .trans s

lemma savesKeys_sameConsents (L : Libraries) : SavesKeys L SameConsents where
  refl := .refl
  storePrivateKey _ _ := .atomic fun _ => rfl
  insertKeyRow _ := .atomic fun s => by split <;> rfl
  insertApplicationRow _ := .atomic fun s => by split <;> rfl

/-- A registration leaves the consents alone. -/
lemma createClient_sameConsents (L : Libraries) (base : String) (random : RegistrationRandomness)
    (registration : ClientRegistration) :
    (createClient L base random registration).Within SameConsents :=
  createClient_within (savesKeys_sameConsents L) fun _ _ => .atomic fun s => by split <;> rfl

/-- The deletion of a client removes the client and nothing else. -/
lemma deleteClient_sameConsents (clientId : String) : (deleteClient clientId).Within SameConsents :=
  repo_within (.bind (.reads .refl) fun _ =>
    .bind (.okOr _ _) fun _ => .atomic fun _ => rfl)

/-- So does the deletion of a user. -/
lemma deleteUser_sameConsents (userId : Id) : (deleteUser S userId).Within SameConsents :=
  .bind (.reads .refl) fun _ =>
    .bind (.failIf _ _) fun _ => repo_within (.atomic fun _ => rfl)

lemma createUser_sameConsents (L : Libraries) (random : UserRandomness) (name password : String) :
    (createUserWithPassword L random name password).Within SameConsents :=
  .bind (.failIf _ _) fun _ => .bind (.reads .refl) fun _ =>
    .bind (.lift _) fun _ => .bind (.atomic fun s => by split <;> rfl) fun _ => .pure _

/-- So does a token request. -/
lemma token_sameConsents (request : TokenRequest) (auth : Option OAuth2ClientAuth) :
    (token S request auth).Within SameConsents :=
  token_within .refl (fun _ _ =>
    consumeAuthorizationCode_within .refl fun _ => rfl) request auth

end Quiet

/-! ## Decisions of others -/

section Others
variable {S : OAuth2Service} {s s₁ s₂ : Store} {userId : Id} {clientId : String}

/-- In a table whose rows have different ids, the consents of the user for the client id stay as
they are. -/
def KeepsConsents (userId : Id) (clientId : String) (s s' : Store) : Prop :=
  (s.userConsents.map ConsentRow.id).Nodup → (s'.userConsents.map ConsentRow.id).Nodup ∧
    consentsOf userId clientId s' = consentsOf userId clientId s

lemma KeepsConsents.refl (s : Store) : KeepsConsents userId clientId s s := fun hids => ⟨hids, rfl⟩

/-- Two stretches without a decision make one. -/
lemma KeepsConsents.trans (h : KeepsConsents userId clientId s s₁)
    (h' : KeepsConsents userId clientId s₁ s₂) : KeepsConsents userId clientId s s₂ := by
  intro hids
  obtain ⟨hids1, hsame⟩ := h hids
  obtain ⟨hids2, hsame'⟩ := h' hids1
  exact ⟨hids2, hsame'.trans hsame⟩

lemma SameConsents.keeps (h : SameConsents s s₁) : KeepsConsents userId clientId s s₁ := by
  intro hids
  rw [consentsOf, consentsOf, h]
  exact ⟨hids, rfl⟩

/-- A matching row belongs to the user and the client. -/
lemma ConsentRow.owner_of_matches {row : ConsentRow} {redirectUri scope : String}
    (h : row.matches userId clientId redirectUri scope = true) :
    row.userId = userId ∧ row.clientId = clientId := by
  simp only [ConsentRow.matches, Bool.and_eq_true, beq_iff_eq] at h
  exact ⟨h.1, h.2.1⟩

/-- The approval of another user, or for another client id. -/
lemma Upserts.keeps {α : Type} {id userId' : Id} {clientId' redirectUri scope : String}
    {out : Except Failure α × Store} (h : Upserts s id userId' clientId' redirectUri scope out)
    (hother : ¬(userId' = userId ∧ clientId' = clientId)) :
    KeepsConsents userId clientId s out.2 := by
  have hadded (hnew : ∀ row ∈ s.userConsents,
      row.id ≠ id ∧ row.matches userId' clientId' redirectUri scope = false) :
      KeepsConsents userId clientId s
        (addConsent (newConsentRow s id userId' clientId' redirectUri scope) s) := by
    intro hids
    refine ⟨?_, ?_⟩
    · rw [addConsent, map_append, nodup_append]
      refine ⟨hids, nodup_singleton _, ?_⟩
      intro old hold new hmem
      obtain ⟨row, hrow, rfl⟩ := mem_map.mp hold
      rw [mem_singleton.mp hmem]
      exact (hnew row hrow).1
    · simp [consentsOf, addConsent, filter_append, newConsentRow, hother]
  cases h with
  | failed e => exact .refl s
  | touched row updatedAt a hrow hmatch hclear htime =>
    intro hids
    have hkept : (touchConsent row.id updatedAt.timestamp s).userConsents.map ConsentRow.id =
        s.userConsents.map ConsentRow.id := by
      rw [touchConsent, map_map]
      refine map_congr_left fun other _ => ?_
      by_cases hid : other.id = row.id <;> simp [hid]
    refine ⟨hkept ▸ hids, ?_⟩
    obtain ⟨huser, hcl⟩ := ConsentRow.owner_of_matches hmatch
    -- the one row that is touched is not one of them
    rw [consentsOf, consentsOf, touchConsent, filter_map]
    refine (map_congr_left fun other hmem => if_neg fun hid => ?_).trans ?_
    · obtain ⟨hold, hours⟩ := mem_filter.mp hmem
      obtain rfl := inj_on_of_nodup_map hids hold hrow hid
      have howner : userId' = userId ∧ clientId' = clientId := by
        simpa [huser, hcl] using hours
      exact hother howner
    · rw [map_id']
      refine filter_congr fun other _ => ?_
      by_cases hid : other.id = row.id <;> simp [hid]
  | inserted a hclear hnew => exact hadded hnew
  | conflicted e hclear hnew => exact hadded hnew

/-- An approval by someone else, or for another client, keeps the consents of this pair. -/
lemma approveForUser_keeps {bearer : String} {consentId : Id} {request : ApproveForUserRequest}
    (hother : ¬(Operation.approveForUser bearer consentId request).Decides S s userId clientId) :
    KeepsConsents userId clientId s
      ((Router.approveForUser S bearer consentId request).run s).2 := by
  unfold Router.approveForUser
  rcases run_bind_or (authorizeBearer S bearer) _ s with ⟨e, he⟩ | ⟨a, ha, hrun⟩
  · exact he ▸ .refl s
  rw [hrun]
  rcases approveForUser_cases consentId request a.principal with
    ⟨e, he⟩ | ⟨client, hcl, -, -, -, hupserts⟩
  · exact he ▸ .refl s
  · refine hupserts.keeps ?_
    rintro ⟨huser, hid⟩
    exact hother ⟨(findClientByClientId_clientId hcl).symm.trans hid, a, ha, huser⟩

/-- The revocation by another user, or of a consent for another client id. -/
lemma revokeUserConsent_keeps {userId' consentId : Id}
    (hother : ¬(Operation.revokeUserConsent userId' consentId).Decides S s userId clientId) :
    KeepsConsents userId clientId s ((revokeUserConsent S userId' consentId).run s).2 := by
  rcases revokeUserConsent_cases userId' consentId with
    ⟨e, he⟩ | ⟨consent, hcons, howner, hrun⟩
  · exact he ▸ .refl s
  rw [hrun]
  intro hids
  refine ⟨hids.sublist (filter_sublist.map _), ?_⟩
  obtain ⟨_, hrow, hid, hread, -⟩ := clearConsent_some hcons
  have huser := (ConsentRow.toConsent_ok hread).2.1
  rw [consentsOf, consentsOf, filter_filter]
  refine filter_congr fun other hmem => ?_
  by_cases hsame : other.id = consentId
  · obtain rfl := inj_on_of_nodup_map hids hmem hrow (hsame.trans (beq_iff_eq.mp hid).symm)
    have hnot : ¬(other.userId = userId ∧ other.clientId = clientId) := by
      rintro ⟨hown, hcl⟩
      refine hother ⟨?_, other, hmem, hsame, hcl⟩
      rw [← howner, huser, hown]
    simpa [hsame] using hnot
  · simp [hsame]

/-- Whatever does not decide for the user keeps the consents. -/
lemma perform_keeps {op : Operation} (hop : ¬op.Decides S s userId clientId) :
    KeepsConsents userId clientId s (perform S s op) := by
  have hsaves := savesKeys_sameConsents S.libs
  cases op with
  | token request auth => exact (SameConsents.run (token_sameConsents request auth) s).keeps
  | authorize bearer random request =>
    refine (SameConsents.run (.bind (.reads .refl) fun _ =>
      (authorize_onlyCodes random request _).mono fun s s' hcodes => ?_) s).keeps
    rw [SameConsents, hcodes]
  | approveForUser bearer consentId request => exact approveForUser_keeps hop
  | revokeUserConsent userId' consentId => exact revokeUserConsent_keeps hop
  | registerClient random request =>
    exact (SameConsents.run (.bind (.lift _) fun _ =>
      .bind (repo_within (createClient_sameConsents ..)) fun _ => .pure _) s).keeps
  | createClient random registration =>
    exact (SameConsents.run (createClient_sameConsents ..) s).keeps
  | updateClient clientId' request =>
    exact (SameConsents.run (updateClient_within .refl clientId' fun _ _ _ _ _ _ => rfl) s).keeps
  | deleteClient clientId' => exact (SameConsents.run (deleteClient_sameConsents clientId') s).keeps
  | createUser random name password => exact (SameConsents.run (createUser_sameConsents ..) s).keeps
  | deleteUser userId' => exact (SameConsents.run (deleteUser_sameConsents userId') s).keeps
  | ensureMasterKey entropy entityType entityId passphrase =>
    exact (SameConsents.run (ensureMasterKey_within hsaves.toSavesMaterial S.libs ..) s).keeps
  | createKey id parentId entityType entityId hardened name expiresAt =>
    exact (SameConsents.run (createKey_within hsaves ..) s).keeps
  | setClock now => exact SameConsents.keeps rfl
  | reportConflicts conflicts => exact SameConsents.keeps rfl

/-- By induction on the calls: none of them decides for this pair. -/
lemma performAll_keeps {ops : List Operation} (hops : Undecided S userId clientId s ops) :
    KeepsConsents userId clientId s (performAll S s ops) := by
  induction ops generalizing s with
  | nil => exact .refl s
  | cons op ops ih => exact (perform_keeps hops.1).trans (ih hops.2)

end Others

/-! ## Codes for the next client -/

/-- A consent for what is asked lets the user through at the client that is found now. -/
structure Lets (S : OAuth2Service) (a : AuthorizationRequest) (principal : Principal)
    (consents : List ConsentRow) (s : Store) : Prop where
  exists_row : ∃ client redirectUri row,
    (findClientByClientId a.clientId).eval s = .ok (some client) ∧
    validateAuthorizationRequest a client S.oauthConfig.requirePkce = .ok () ∧
    resolveRedirectUri a client = .ok redirectUri ∧ principal.entityType = .user ∧
    consents.find? (ConsentRow.matches principal.entityId a.clientId redirectUri
      (normalizeScopes (intersectScopes (requestedScopes a.scope) client.allowedScopes))) =
        some row ∧
    (∃ consent, row.toConsent = .ok consent) ∧ ConsentClear s row.id

/-- A client is deleted, and then the user decides nothing more about its client id. Whoever has
the client id later on, `authorize` gives no code for it exactly if no consent from before the
deletion lets the user through. -/
theorem no_code_from_old_consent_iff (S : OAuth2Service) {s s₁ : Store}
    (hids : (s.userConsents.map ConsentRow.id).Nodup) {clientId : String}
    (hdelete : (deleteClient clientId).run s = (.ok (), s₁)) (principal : Principal)
    {ops : List Operation} (hops : Undecided S principal.entityId clientId s₁ ops)
    {random : CodeRandomness} (hfits : CodeFits S random (performAll S s₁ ops))
    {a : AuthorizationRequest} (ha : a.clientId = clientId) :
    (∀ response, (authorize S random a principal).eval (performAll S s₁ ops) ≠ .ok response) ↔
      ¬Lets S a principal (consentsOf principal.entityId clientId s) (performAll S s₁ ops) := by
  have hgone : SameConsents s s₁ := by
    have hrun := SameConsents.run (deleteClient_sameConsents clientId) s
    rwa [hdelete] at hrun
  have hsame := ((hgone.keeps.trans (performAll_keeps hops)) hids).2
  -- a consent for what is asked is one of the user for the client id
  have hfind (redirectUri scope : String) : (performAll S s₁ ops).userConsents.find?
      (ConsentRow.matches principal.entityId clientId redirectUri scope) =
        (consentsOf principal.entityId clientId s).find?
          (ConsentRow.matches principal.entityId clientId redirectUri scope) := by
    rw [← hsame, consentsOf, find?_filter]
    congr 1
    funext row
    cases hmatch : row.matches principal.entityId clientId redirectUri scope with
    | false => simp
    | true =>
      obtain ⟨huser, hcl⟩ := ConsentRow.owner_of_matches hmatch
      simp [huser, hcl]
  rw [← not_exists, not_iff_not]
  constructor
  · rintro ⟨_, hresp⟩
    obtain ⟨-, client, redirectUri, _, -, hcheck, -⟩ := authorize_ok (run_of_eval hresp)
    obtain ⟨hcl, hvalid, huri, rfl, huser, consent, hcons⟩ :=
      checkAuthorization_ok_iff.mp hcheck
    obtain ⟨row, hrow, hread, hclear⟩ := clearConsent_some_iff.mp hcons
    rw [findClientByClientId_clientId hcl, ha, hfind] at hrow
    exact ⟨client, redirectUri, row, hcl, hvalid, huri, huser, by rwa [ha], ⟨consent, hread⟩,
      hclear⟩
  · rintro ⟨client, redirectUri, row, hcl, hvalid, huri, huser, hrow, ⟨consent, hread⟩, hclear⟩
    refine exists_authorize hfits ⟨_, checkAuthorization_ok_iff.mpr
      ⟨hcl, hvalid, huri, rfl, huser, consent, clearConsent_some_iff.mpr
        ⟨row, ?_, hread, hclear⟩⟩⟩
    rw [findClientByClientId_clientId hcl, ha, hfind]
    rwa [ha] at hrow

/-! ## A client id with two owners -/

namespace Reference

/-- The store after the client is deleted. -/
def orphanedStore : Store := ((deleteClient "app").run consentStore).2

/-- Somebody registers the same client id, with a secret of their own. -/
def takeover : Operation :=
  .registerClient registrationRandomness
    { scopedClient.toRegistration with clientSecret := some "another secret" }

/-- The fixture's client is deleted, its consents stay. -/
lemma deleteClient_consentStore : (deleteClient "app").run consentStore = (.ok (), orphanedStore) :=
  run_of_eval (by decide +kernel)

lemma takeover_codeFits :
    CodeFits shortService codeRandomness (performAll shortService orphanedStore [takeover]) where
  expiry := Option.isSome_iff_exists.mp (by decide +kernel)
  fresh := by decide +kernel
  clear := by decide +kernel

end Reference

open Reference

/-- A client registered under the old identifier inherits the consent. -/
theorem no_code_from_old_consent_iff_takeover :
    (∀ response, (authorize shortService codeRandomness authorizationRequest principal).eval
        (performAll shortService orphanedStore [takeover]) ≠ .ok response) ↔
      ¬Lets shortService authorizationRequest principal (consentsOf 1 "app" consentStore)
        (performAll shortService orphanedStore [takeover]) :=
  have hops : Undecided shortService 1 "app" orphanedStore [takeover] := ⟨id, trivial⟩
  no_code_from_old_consent_iff shortService (by decide) deleteClient_consentStore principal hops
    takeover_codeFits rfl

/-- The user approved the scopes of a client that is deleted afterwards. The next owner of the
client id gets a code, without having been approved. -/
theorem old_consent_serves_new_owner :
    consentStore.userConsents = [consentRow] ∧
      (findClientByClientId "app").eval orphanedStore = .ok none ∧
      ((findClientByClientId "app").eval (performAll shortService orphanedStore [takeover])).map
        (Option.map Client.clientSecret) = .ok (some "another secret") ∧
      ((authorize shortService codeRandomness authorizationRequest principal).eval
        (performAll shortService orphanedStore [takeover])).isOk = true :=
  ⟨rfl, by decide +kernel, by decide +kernel, by decide +kernel⟩

end LocalPlatform.Idp
