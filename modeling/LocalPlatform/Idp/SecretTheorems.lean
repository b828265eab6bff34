import LocalPlatform.Idp.ClientAuth
import LocalPlatform.Idp.GrantTheorems

/-!
# Secrets of confidential clients

Registration demands a secret that is not blank from a confidential client. An update takes the
type of the client and its secret from the request without that check. So the secrets stay set as
long as no update makes a client confidential, or keeps it so, with a blank secret.
-/

namespace LocalPlatform.Idp

open Resumption Text Except Option

/-- Every confidential client in the table has a secret that is not blank. -/
def SecretsSet (s : Store) : Prop :=
  ∀ row ∈ s.clients, clientTypeOfInteger row.clientType = .ok .confidential →
    isBlank row.clientSecret = false

/-- If the update makes a client confidential, it leaves it with a secret that is not blank. -/
def SafeUpdate (s : Store) (clientId : String) (request : ClientRegistration) : Prop :=
  ∀ existing, (findClientByClientId clientId).eval s = .ok (some existing) →
    request.clientType = .confidential →
      isBlank (request.clientSecret.getD existing.clientSecret) = false

/-- Registrations with any request, and updates that `allowed` admits. -/
inductive ClientStep (S : OAuth2Service) (allowed : Store → String → ClientRegistration → Prop)
    (s : Store) : Store → Prop where
  | register (random : RegistrationRandomness) (request : ClientRegistration) :
      ClientStep S allowed s ((registerClient S random request).run s).2
  | update (clientId : String) (request : ClientRegistration) (h : allowed s clientId request) :
      ClientStep S allowed s ((updateClient clientId request).run s).2

/-! ## Registrations -/

/-- The secrets are still set if they were. -/
def KeepsSecrets (s s' : Store) : Prop := SecretsSet s → SecretsSet s'

lemma keepsSecrets_of_clients_eq {s s' : Store} (h : s'.clients = s.clients) :
    KeepsSecrets s s' := by
  intro hs row hrow
  rw [h] at hrow
  exact hs row hrow

lemma savesKeys_keepsSecrets (L : Libraries) : SavesKeys L KeepsSecrets where
  refl _ := keepsSecrets_of_clients_eq rfl
  storePrivateKey _ _ := .atomic fun _ => keepsSecrets_of_clients_eq rfl
  insertKeyRow _ := .atomic fun _ => keepsSecrets_of_clients_eq (by split <;> rfl)
  insertApplicationRow _ := .atomic fun _ => keepsSecrets_of_clients_eq (by split <;> rfl)

variable {registration : ClientRegistration} {client : Client} {s : Store}

/-- The secret a confidential client is registered with is not blank. -/
lemma registrationSecret_not_blank {secret : String}
    (hsec : registrationSecret registration = .ok secret)
    (htype : registration.clientType = .confidential) : isBlank secret = false := by
  rw [registrationSecret, htype] at hsec
  cases hfil : registration.clientSecret.filter (!isBlank ·) with
  | none => rw [hfil] at hsec; cases hsec
  | some found =>
    rw [hfil] at hsec
    obtain rfl := ok.inj hsec
    obtain ⟨-, hblank⟩ := filter_eq_some_iff.mp hfil
    simpa using hblank

/-- A client with a secret may be inserted. -/
lemma insertClientRow_keepsSecrets (L : Libraries)
    (hcl : client.clientType = .confidential → isBlank client.clientSecret = false) :
    (insertClientRow L client).Within KeepsSecrets := by
  refine .atomic fun s => ?_
  split
  · exact keepsSecrets_of_clients_eq rfl
  · intro hs row hrow htype
    rcases mem_concat.mp hrow with hold | rfl
    · exact hs row hold htype
    · have hconf : client.clientType = .confidential := by
        rw [Client.toRow, clientTypeOfInteger_toInteger] at htype
        exact ok.inj htype
      exact hcl hconf

lemma newClient_secret {id applicationId : Id} {clientId clientSecret : String} {now : DateTime}
    (h : newClient registration id applicationId clientId clientSecret now = .ok client) :
    client.clientSecret = clientSecret := by
  simp only [newClient, except_bind_ok] at h
  obtain ⟨_, -, _, -, hcl⟩ := h
  obtain rfl : _ = client := by simpa [pure, Except.pure] using hcl
  rfl

/-- A registration sets a secret where one is needed. -/
lemma registerClient_keepsSecrets (S : OAuth2Service) (random : RegistrationRandomness)
    (request : ClientRegistration) : (registerClient S random request).Within KeepsSecrets := by
  refine .bind (.lift _) fun _ => .bind (repo_within ?_) fun _ => .pure _
  refine createClient_within (savesKeys_keepsSecrets S.libs) fun hsec hcl => ?_
  refine insertClientRow_keepsSecrets _ fun htype => ?_
  rw [newClient_secret hcl]
  exact registrationSecret_not_blank hsec ((newClient_ok hcl).1.symm.trans htype)

/-! ## Updates -/

/-- The store in which an update has written a record over a client. -/
def overwritten (s : Store) (client : Client) : Store :=
  { s with clients := s.clients.map fun row =>
      if row.id = client.id then
        row.assign client.toRow s.now.withoutNanoseconds.timestamp
      else row }

/-- An update overwrites the row or fails without effect. -/
lemma updateClientRow_run (client : Client) (s : Store) :
    (updateClientRow client).Gives (fun out => (∃ e, out = (.error e, s)) ∨
      ∃ updated, out = (.ok updated, overwritten s client)) s :=
  .after (fun e => .inl ⟨e, rfl⟩) fun _ _ => .inr ⟨_, rfl⟩

/-- An update fails without an effect or writes its record over the client it found. -/
lemma updateClient_run (clientId : String) (request : ClientRegistration) (s : Store) :
    (updateClient clientId request).Gives (fun out => (∃ e, out = (.error e, s)) ∨
      ∃ existing r, (findClientByClientId clientId).eval s = .ok (some existing) ∧
        out = (.ok r, overwritten s (updatedClient existing request s.now))) s := by
  refine .after (fun e => .inl ⟨e, rfl⟩) fun _ _ => ?_
  refine .after (fun e => .inl ⟨e, rfl⟩) fun _ hfind => ?_
  refine .after (fun e => .inl ⟨e, rfl⟩) fun existing hsome => ?_
  refine .after (fun e => .inl ⟨e, rfl⟩) fun _ hnow => ?_
  rw [eval_okOr_ok] at hsome
  rw [hsome, eval_repo_ok] at hfind
  obtain rfl := ok.inj hnow
  rw [Task.Gives, run_bind, repo, run_mapError]
  rcases updateClientRow_run (updatedClient existing request s.now) s with ⟨e, hrow⟩ | ⟨c, hrow⟩
  · exact .inl ⟨_, by rw [hrow]; rfl⟩
  · exact .inr ⟨existing, _, hfind, by rw [hrow]; rfl⟩

/-- A client that was found stands in the table with its id and secret. -/
lemma findClientByClientId_row {clientId : String}
    (h : (findClientByClientId clientId).eval s = .ok (some client)) :
    ∃ row ∈ s.clients, row.id = client.id ∧ row.clientSecret = client.clientSecret ∧
      clientTypeOfInteger row.clientType = .ok client.clientType := by
  obtain ⟨row, hrow, hdec⟩ := findClientByClientId_ok h
  obtain ⟨-, -, htype, -⟩ := ClientRow.toClient_ok hdec
  simp only [ClientRow.toClient, except_bind_ok] at hdec
  obtain ⟨_, -, _, -, _, -, _, -, _, -, _, -, _, -, _, -, _, -, _, -, _, -, _, -, _, -, hc⟩ := hdec
  obtain rfl : _ = client := by simpa [pure, Except.pure] using hc
  exact ⟨row, hrow, rfl, rfl, htype⟩

/-- Where the secrets are set, they stay set exactly if the record that is written over a client
has one or is public. -/
lemma secretsSet_overwritten_iff (hs : SecretsSet s)
    (hpres : ∃ row ∈ s.clients, row.id = client.id) : SecretsSet (overwritten s client) ↔
      (client.clientType = .confidential → isBlank client.clientSecret = false) := by
  have hassign : ∀ row : ClientRow, ∀ t,
      clientTypeOfInteger (row.assign client.toRow t).clientType = .ok client.clientType := fun _ _ => clientTypeOfInteger_toInteger _
  constructor
  · intro h htype
    obtain ⟨row, hrow, hid⟩ := hpres
    refine h (row.assign client.toRow s.now.withoutNanoseconds.timestamp)
      (List.mem_map.mpr ⟨row, hrow, if_pos hid⟩) ?_
    rw [hassign, htype]
  · intro hcl row hrow htype
    obtain ⟨old, hold, hnew⟩ := List.mem_map.mp hrow
    split at hnew
    · subst hnew
      rw [hassign] at htype
      exact hcl (ok.inj htype)
    · subst hnew
      exact hs old hold htype

/-- An update keeps the secrets set exactly if it is safe or fails. -/
lemma updateClient_secretsSet_iff (hs : SecretsSet s) (clientId : String)
    (request : ClientRegistration) : SecretsSet ((updateClient clientId request).run s).2 ↔
      SafeUpdate s clientId request ∨ ∃ e, (updateClient clientId request).eval s = .error e := by
  rcases updateClient_run clientId request s with ⟨e, hrun⟩ | ⟨existing, r, hfind, hrun⟩
  · rw [Task.eval, hrun]
    exact iff_of_true hs (.inr ⟨e, rfl⟩)
  · obtain ⟨row, hrow, hid, -⟩ := findClientByClientId_row hfind
    have hwrit : SecretsSet (overwritten s (updatedClient existing request s.now)) ↔
        (request.clientType = .confidential →
          isBlank (request.clientSecret.getD existing.clientSecret) = false) :=
      secretsSet_overwritten_iff hs ⟨row, hrow, hid⟩
    rw [Task.eval, hrun, hwrit]
    constructor
    · intro hsafe
      refine .inl fun found hfound => ?_
      obtain rfl := some.inj (ok.inj (hfind.symm.trans hfound))
      exact hsafe
    · rintro (hsafe | ⟨e, he⟩)
      · exact hsafe existing hfind
      · cases he

/-! ## Runs -/

section
variable {S : OAuth2Service} {s s' : Store}

variable (h : SecretsSet s)
include h

/-- A safe step keeps every secret set. -/
lemma SecretsSet.step (hstep : ClientStep S SafeUpdate s s') :
    SecretsSet s' := by
  cases hstep with
  | register random request =>
    exact (registerClient_keepsSecrets S random request).run
      (fun _ => keepsSecrets_of_clients_eq rfl) (fun _ _ _ hab hbc ha => hbc (hab ha)) s h
  | update clientId request hsafe =>
    exact (updateClient_secretsSet_iff h clientId request).mpr (.inl hsafe)

/-- Hence every run of safe steps does. -/
lemma SecretsSet.run
    (hrun : Relation.ReflTransGen (ClientStep S SafeUpdate) s s') : SecretsSet s' := by
  induction hrun with
  | refl => exact h
  | tail _ hstep ih => exact ih.step hstep

/-- Where the secrets are set, a blank secret authenticates no confidential client. -/
lemma SecretsSet.authenticates {client : Client} (hknown : KnownClient s client)
    (hcl : client.clientType = .confidential) {auth : OAuth2ClientAuth}
    (hblank : auth.clientSecret.all isBlank) :
    authenticateClientForTokenEndpoint client (some auth) ≠ .ok () := by
  intro hauth
  obtain ⟨hcreds, -⟩ := (authenticate_confidential_iff hcl).mp hauth
  obtain rfl := some.inj hcreds
  obtain ⟨row, hrow, -, hsec, htype⟩ := findClientByClientId_row hknown
  rw [hcl] at htype
  have hset : isBlank client.clientSecret = false := hsec ▸ h row hrow htype
  rw [all_some, hset] at hblank
  cases hblank

end

/-- Over every run of registrations and safe updates, every confidential client has a secret that
is not blank, and no request with a blank secret authenticates as one. And an update that is not
safe, once it is carried out, ends that. -/
theorem confidential_secrets_stay_set (S : OAuth2Service) {s₀ s : Store} (hstart : SecretsSet s₀)
    (hrun : Relation.ReflTransGen (ClientStep S SafeUpdate) s₀ s) :
    SecretsSet s ∧
    (∀ client auth, KnownClient s client → client.clientType = .confidential →
      auth.clientSecret.all isBlank →
        authenticateClientForTokenEndpoint client (some auth) ≠ .ok ()) ∧
    ∀ clientId request, SecretsSet ((updateClient clientId request).run s).2 ↔
      SafeUpdate s clientId request ∨ ∃ e, (updateClient clientId request).eval s = .error e := by
  have hs : SecretsSet s := hstart.run hrun
  exact ⟨hs, fun _ _ hknown hcl hblank => hs.authenticates hknown hcl hblank,
    updateClient_secretsSet_iff hs⟩

/-! ## A confidential client gets another secret -/

namespace Reference

/-- The update that gives the registered client another secret. -/
def secretUpdate : ClientRegistration :=
  { serviceRegistration with
    clientSecret := some "0ther"
    allowedGrantTypes := [.authorizationCode] }

/-- The store after the update that names another secret. -/
def secretUpdated : Store := ((updateClient "batch" secretUpdate).run registered).2

end Reference

open Reference in
/-- After the registration and the update the client is known with the new secret, which a blank
one does not stand in for. -/
theorem confidential_secrets_stay_set_reference :
    ∃ client, KnownClient secretUpdated client ∧ client.clientType = .confidential ∧
      client.clientSecret = "0ther" ∧ SecretsSet secretUpdated ∧
      authenticateClientForTokenEndpoint client (some ⟨"batch", some "", .clientSecretBasic⟩) ≠
        .ok () := by
  have hstart : SecretsSet noClients := fun row hrow => absurd hrow List.not_mem_nil
  have hsafe : SafeUpdate registered "batch" secretUpdate := by
    intro _ _ _
    show isBlank "0ther" = false
    decide
  have hrun : Relation.ReflTransGen (ClientStep service SafeUpdate) noClients secretUpdated :=
    (Relation.ReflTransGen.single (.register registrationRandomness serviceRegistration)).tail
      (.update "batch" secretUpdate hsafe)
  obtain ⟨hset, hauth, -⟩ := confidential_secrets_stay_set service hstart hrun
  have hfound : (findClientByClientId "batch").eval secretUpdated = .ok (some _) := rfl
  have hknown := knownClient_of_found hfound
  exact ⟨_, hknown, rfl, rfl, hset, hauth _ _ hknown rfl rfl⟩

/-! ## A public client becomes confidential -/

namespace Reference

/-- A public client that registers with an empty secret. -/
def publicRegistration : ClientRegistration :=
  { serviceRegistration with
    clientSecret := some ""
    clientType := .publicClient
    tokenEndpointAuthMethod := .none
    allowedGrantTypes := [.authorizationCode] }

/-- The update that makes it confidential and says nothing about the secret. -/
def confidentialUpdate : ClientRegistration :=
  { publicRegistration with
    clientSecret := none
    clientType := .confidential
    tokenEndpointAuthMethod := .clientSecretBasic }

/-- The store after the registration of a public client. -/
def publicRegistered : Store :=
  ((registerClient service registrationRandomness publicRegistration).run noClients).2

/-- The store after that client is made confidential. -/
def confidentialUpdated : Store :=
  ((updateClient "batch" confidentialUpdate).run publicRegistered).2

/-- Credentials with an empty secret. -/
def emptyAuth : OAuth2ClientAuth where
  clientId := "batch"
  clientSecret := some ""
  method := .clientSecretBasic

end Reference

open Reference in
/-- After one registration and one update there is a confidential client that the empty secret
authenticates. -/
theorem update_makes_empty_secret_valid :
    noClients.clients = [] ∧
    ∃ client, KnownClient confidentialUpdated client ∧ client.clientType = .confidential ∧
      client.clientSecret = "" ∧
      authenticateClientForTokenEndpoint client (some emptyAuth) = .ok () := by
  have hfound : (findClientByClientId "batch").eval confidentialUpdated = .ok (some _) := rfl
  exact ⟨rfl, _, knownClient_of_found hfound, rfl, rfl, rfl⟩

end LocalPlatform.Idp
