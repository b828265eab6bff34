import LocalPlatform.Lib.Rows
import LocalPlatform.Idp.Authorize
import LocalPlatform.Idp.GrantTheorems

/-!
# Histories of the provider

A history is a list of operations, performed one after the other from any store. Whatever they
are, keys and codes are never lost and never change hands, and a user or a client that is gone
comes back only under an identifier that was drawn for it.
-/

namespace LocalPlatform.Idp

open Resumption Rows List

/-! ## Operations -/

/-- Whatever can happen to the store of the provider. -/
inductive Operation where
  | token (request : TokenRequest) (auth : Option OAuth2ClientAuth)
  | authorize (bearer : String) (random : CodeRandomness) (request : AuthorizationRequest)
  | approveForUser (bearer : String) (consentId : Id) (request : ApproveForUserRequest)
  | revokeUserConsent (userId consentId : Id)
  | registerClient (random : RegistrationRandomness) (request : ClientRegistration)
  | createClient (random : RegistrationRandomness) (registration : ClientRegistration)
  | updateClient (clientId : String) (request : ClientRegistration)
  | deleteClient (clientId : String)
  | createUser (random : UserRandomness) (name password : String)
  | deleteUser (userId : Id)
  | ensureMasterKey (entropy : Bytes) (entityType : EntityType) (entityId : Id)
      (passphrase : String)
  | createKey (id : Id) (parentId : Option Id) (entityType : EntityType) (entityId : Id)
      (hardened : Bool) (name : String) (expiresAt : Option DateTime)
  | setClock (now : DateTime)
  | reportConflicts (conflicts : Table → Id → List String)

/-- The store an operation leaves behind, whether it succeeds or not. -/
def perform (S : OAuth2Service) (s : Store) (op : Operation) : Store :=
  match op with
  | .token request auth => ((token S request auth).run s).2
  | .authorize bearer random request => ((Router.authorizeJson S bearer random request).run s).2
  | .approveForUser bearer consentId request =>
    ((Router.approveForUser S bearer consentId request).run s).2
  | .revokeUserConsent userId consentId => ((revokeUserConsent S userId consentId).run s).2
  | .registerClient random request => ((registerClient S random request).run s).2
  | .createClient random registration =>
    ((createClient S.libs S.keyNamespace random registration).run s).2
  | .updateClient clientId request => ((updateClient clientId request).run s).2
  | .deleteClient clientId => ((deleteClient clientId).run s).2
  | .createUser random name password =>
    ((createUserWithPassword S.libs random name password).run s).2
  | .deleteUser userId => ((deleteUser S userId).run s).2
  | .ensureMasterKey entropy entityType entityId passphrase =>
    ((ensureMasterKey S.libs entropy (scopedNamespace S.libs S.keyNamespace entityType entityId)
      passphrase).run s).2
  | .createKey id parentId entityType entityId hardened name expiresAt =>
    ((createKey S.libs S.keyNamespace id parentId entityType entityId hardened name
      expiresAt).run s).2
  | .setClock now => { s with now }
  | .reportConflicts conflicts => { s with conflicts }

/-- The store after a history. -/
def performAll (S : OAuth2Service) (s : Store) (ops : List Operation) : Store :=
  ops.foldl (perform S) s

/-- The identifier an operation draws for a new user or client. -/
def Operation.drawn : Operation → List Id
  | .registerClient random _ | .createClient random _ => [random.id]
  | .createUser random _ _ => [random.id]
  | .token .. | .authorize .. | .approveForUser .. | .revokeUserConsent .. | .updateClient ..
  | .deleteClient .. | .deleteUser .. | .ensureMasterKey .. | .createKey .. | .setClock ..
  | .reportConflicts .. => []

/-- All identifiers that a history draws. -/
def drawnBy (ops : List Operation) : List Id := ops.flatMap Operation.drawn

/-- Fresh identifiers never repeat: neither each other nor those of rows that are there at the
start. -/
structure Fresh (s : Store) (ops : List Operation) : Prop where
  nodup : (drawnBy ops).Nodup
  absent : ∀ id ∈ drawnBy ops, ∀ entityType, ¬EntityPresent entityType id s

/-! ## What every step keeps -/

/-- The same code, up to whether and when it was redeemed. -/
def AuthorizationCodeRow.SameCode (old new : AuthorizationCodeRow) : Prop :=
  new = { old with consumedAt := new.consumedAt, updatedAt := new.updatedAt }

/-- Keys and codes grow, and entities are old ones or were drawn. -/
structure Evolves (drawn : List Id) (s s' : Store) : Prop where
  keys : Grows KeyRow.id Eq s.keys s'.keys
  codes : Grows AuthorizationCodeRow.codeHash AuthorizationCodeRow.SameCode s.authorizationCodes
    s'.authorizationCodes
  entities : ∀ entityType id, EntityPresent entityType id s' →
    EntityPresent entityType id s ∨ id ∈ drawn

namespace AuthorizationCodeRow

lemma SameCode.refl (row : AuthorizationCodeRow) : row.SameCode row := rfl

/-- Being versions of one code is transitive. -/
lemma SameCode.trans {a b c : AuthorizationCodeRow} (hab : a.SameCode b) (hbc : b.SameCode c) :
    a.SameCode c := by
  rw [SameCode, hbc, hab]

lemma SameCode.codeHash_eq (a b : AuthorizationCodeRow) (h : a.SameCode b) :
    a.codeHash = b.codeHash := by
  rw [h]

end AuthorizationCodeRow

section
variable {drawn : List Id} {s s' : Store}

/-- A step that only removes users and clients. -/
lemma Evolves.of_subset (hkeys : s'.keys = s.keys)
    (hcodes : s'.authorizationCodes = s.authorizationCodes) (husers : s'.users ⊆ s.users)
    (hcls : s'.clients ⊆ s.clients) : Evolves drawn s s' where
  keys := hkeys ▸ .refl (fun _ => rfl) _
  codes := hcodes ▸ .refl .refl _
  entities entityType id h := by
    left
    cases entityType with
    | user =>
      obtain ⟨row, hrow, hid⟩ := h
      exact ⟨row, husers hrow, hid⟩
    | client =>
      obtain ⟨row, hrow, hid⟩ := h
      exact ⟨row, hcls hrow, hid⟩

/-- A step that leaves the four tables alone. -/
lemma Evolves.of_eq (hkeys : s'.keys = s.keys)
    (hcodes : s'.authorizationCodes = s.authorizationCodes) (husers : s'.users = s.users)
    (hcls : s'.clients = s.clients) : Evolves drawn s s' :=
  .of_subset hkeys hcodes (husers ▸ List.Subset.refl _) (hcls ▸ List.Subset.refl _)

lemma Evolves.refl (s : Store) : Evolves drawn s s := .of_eq rfl rfl rfl rfl

/-- Two histories make one. -/
lemma Evolves.trans {s₁ s₂ s3 : Store} (h1 : Evolves drawn s₁ s₂) (h2 : Evolves drawn s₂ s3) :
    Evolves drawn s₁ s3 where
  keys := h1.keys.trans (fun _ _ h => congrArg KeyRow.id h) (fun _ _ _ => Eq.trans) h2.keys
  codes := h1.codes.trans AuthorizationCodeRow.SameCode.codeHash_eq (fun _ _ _ => .trans) h2.codes
  entities entityType id h := by
    rcases h2.entities entityType id h with hold | hdrawn
    · exact h1.entities entityType id hold
    · exact .inr hdrawn

/-- More may be drawn. -/
lemma Evolves.mono {drawn' : List Id} (hsub : drawn ⊆ drawn') (h : Evolves drawn s s') :
    Evolves drawn' s s' where
  keys := h.keys
  codes := h.codes
  entities entityType id hpres := (h.entities entityType id hpres).imp_right (@hsub id)

end

/-! ## Steps -/

section
variable {drawn : List Id} {client : Client}

/-- A run whose steps all evolve the store evolves it. -/
lemma Evolves.run {ε α : Type} {t : Task Access Store ε α} (h : t.Within (Evolves drawn))
    (s : Store) : Evolves drawn s (t.run s).2 :=
  h.run .refl (fun _ _ _ => .trans) s

variable (L : Libraries)

/-- A key's insert is part of every history. -/
lemma insertKeyRow_evolves (key : Key) : (insertKeyRow L key).Within (Evolves drawn) := by
  refine .atomic fun s => ?_
  split
  · exact .refl s
  · rename_i hnew
    have hid : ∀ before ∈ s.keys, before.id ≠ key.id := by
      intro before hbef heq
      exact hnew (any_eq_true.mpr ⟨before, hbef, by simp [heq]⟩)
    exact { keys := .append (fun _ => rfl) hid
            codes := .refl .refl _
            entities := fun _ _ h => .inl h }

/-- So is every write of key material. -/
lemma savesKeys_evolves : SavesKeys L (Evolves drawn) where
  refl := .refl
  storePrivateKey _ _ := .atomic fun _ => .of_eq rfl rfl rfl rfl
  insertKeyRow := insertKeyRow_evolves L
  insertApplicationRow _ := .atomic fun s => by
    split
    · exact .refl s
    · exact .of_eq rfl rfl rfl rfl

/-- A client's insert is, if its identifier was drawn. -/
lemma insertClientRow_evolves (hdrawn : client.id ∈ drawn) :
    (insertClientRow L client).Within (Evolves drawn) := by
  refine .atomic fun s => ?_
  split
  · exact .refl s
  · refine { keys := .refl (fun _ => rfl) _
             codes := .refl .refl _
             entities := fun entityType id h => ?_ }
    cases entityType with
    | user => exact .inl h
    | client =>
      obtain ⟨row, hrow, rfl⟩ := h
      rcases mem_concat.mp hrow with hold | rfl
      · exact .inl ⟨row, hold, rfl⟩
      · exact .inr hdrawn

lemma newClient_id {registration : ClientRegistration} {id applicationId : Id}
    {clientId clientSecret : String} {now : DateTime}
    (h : newClient registration id applicationId clientId clientSecret now = .ok client) :
    client.id = id := by
  simp only [newClient, except_bind_ok] at h
  obtain ⟨_, -, _, -, hcl⟩ := h
  obtain rfl := Except.ok.inj hcl
  rfl

/-- A registration is, if its identifier was drawn. -/
lemma createClient_evolves (base : String) {random : RegistrationRandomness}
    (registration : ClientRegistration) (hdrawn : random.id ∈ drawn) :
    (createClient L base random registration).Within (Evolves drawn) :=
  createClient_within (savesKeys_evolves L) fun _ hcl =>
    insertClientRow_evolves L (newClient_id hcl ▸ hdrawn)

/-- An update keeps the client's identifiers. -/
lemma updateClient_evolves (clientId : String) (request : ClientRegistration) :
    (updateClient clientId request).Within (Evolves drawn) := by
  refine updateClient_within .refl clientId fun _ _ _ _ _ s => ?_
  refine { keys := .refl (fun _ => rfl) _
           codes := .refl .refl _
           entities := fun entityType id h => .inl ?_ }
  cases entityType with
  | user => exact h
  | client =>
    obtain ⟨_, hrow, rfl⟩ := h
    obtain ⟨old, hold, rfl⟩ := mem_map.mp hrow
    refine ⟨old, hold, ?_⟩
    split <;> rfl

/-- A deletion takes the client's row and nothing else. -/
lemma deleteClient_evolves (clientId : String) : (deleteClient clientId).Within (Evolves drawn) :=
  repo_within (.bind (.reads .refl) fun _ => .bind (.okOr _ _) fun _ => .atomic fun _ =>
    .of_subset rfl rfl (fun _ h => h) (filter_subset_self _))

lemma deleteUser_evolves (S : OAuth2Service) (userId : Id) :
    (deleteUser S userId).Within (Evolves drawn) :=
  .bind (.reads .refl) fun _ => .bind (.failIf _ _) fun _ => repo_within (.atomic fun _ =>
    .of_subset rfl rfl (filter_subset_self _) fun _ h => h)

/-- A new user is part of a history, if the identifier was drawn. -/
lemma createUser_evolves {random : UserRandomness} (name password : String)
    (hdrawn : random.id ∈ drawn) :
    (createUserWithPassword L random name password).Within (Evolves drawn) := by
  refine .bind (.failIf _ _) fun _ => .bind (.reads .refl) fun now =>
    .bind (.lift _) fun hash => .bind (.atomic fun s => ?_) fun _ => .pure _
  split
  · exact .refl s
  · refine { keys := .refl (fun _ => rfl) _
             codes := .refl .refl _
             entities := fun entityType id h => ?_ }
    cases entityType with
    | client => exact .inl h
    | user =>
      obtain ⟨row, hrow, rfl⟩ := h
      rcases mem_concat.mp hrow with hold | rfl
      · exact .inl ⟨row, hold, rfl⟩
      · exact .inr hdrawn

/-- A new code has a hash of its own. -/
lemma insertCodeRow_evolves (row : AuthorizationCodeRow) :
    (insertCodeRow L row).Within (Evolves drawn) := by
  refine .atomic fun s => ?_
  split
  · exact .refl s
  · rename_i hnew
    have hhash : ∀ before ∈ s.authorizationCodes, before.codeHash ≠ row.codeHash := by
      intro before hbef heq
      exact hnew (any_eq_true.mpr ⟨before, hbef, by simp [heq]⟩)
    exact { keys := .refl (fun _ => rfl) _
            codes := .append .refl hhash
            entities := fun _ _ h => .inl h }

/-- A consumed code stays the same code. -/
lemma consumeAuthorizationCode_evolves (id : Id) (now : DateTime) :
    (consumeAuthorizationCode id now).Within (Evolves drawn) := by
  refine consumeAuthorizationCode_within .refl fun s => ?_
  refine { keys := .refl (fun _ => rfl) _
           codes := .map AuthorizationCodeRow.SameCode.codeHash_eq fun row => ?_
           entities := fun _ _ h => .inl h }
  split <;> rfl

/-! ### Codes and consents -/

/-- What the operations on codes and consents write stays within `R`. -/
structure SavesGrants (L : Libraries) (R : Store → Store → Prop) : Prop where
  refl : ∀ s, R s s
  insertCodeRow : ∀ row, (insertCodeRow L row).Within R
  consumeAuthorizationCode : ∀ id now, (consumeAuthorizationCode id now).Within R
  insertConsentRow : ∀ row, (insertConsentRow L row).Within R
  touchConsentRow : ∀ id updatedAt, (touchConsentRow id updatedAt).Within R
  deleteUserConsentById : ∀ id, (deleteUserConsentById id).Within R

/-- All writes of the grants are part of every history. -/
lemma savesGrants_evolves : SavesGrants L (Evolves drawn) where
  refl := .refl
  insertCodeRow := insertCodeRow_evolves L
  consumeAuthorizationCode := consumeAuthorizationCode_evolves
  insertConsentRow _ := .atomic fun s => by
    split
    · exact .refl s
    · exact .of_eq rfl rfl rfl rfl
  touchConsentRow _ _ := .atomic fun _ => .of_eq rfl rfl rfl rfl
  deleteUserConsentById _ := .bind (.reads .refl) fun _ => .atomic fun _ =>
    .of_eq rfl rfl rfl rfl

end

section
variable (S : OAuth2Service)

instance (predicate : ConsentRow → Bool) : (clearConsent predicate).Reads := by
  refine .bind fun rows => ?_
  split <;> infer_instance

instance (userId : Id) (clientId redirectUri scope : String) :
    (findUserConsent userId clientId redirectUri scope).Reads :=
  inferInstanceAs (clearConsent _).Reads

instance (id : Id) : (findUserConsentById id).Reads := inferInstanceAs (clearConsent _).Reads

instance (bearer : String) (expected : Option PrincipalType) :
    (authorizeBearerWithPrincipal S bearer expected).Reads := by
  repeat refine .bind fun _ => ?_
  infer_instance

instance (bearer : String) : (authorizeBearer S bearer).Reads :=
  inferInstanceAs (authorizeBearerWithPrincipal S bearer _).Reads

instance (request : AuthorizationRequest) (principal : Principal) :
    (checkAuthorization S request principal).Reads := by
  repeat refine .bind fun _ => ?_
  infer_instance

variable (auth : Option OAuth2ClientAuth)

instance (request : PasswordGrantRequest) : (passwordGrant S request auth).Reads := by
  repeat refine .bind fun _ => ?_
  infer_instance

instance (request : ClientCredentialsGrantRequest) :
    (clientCredentialsGrant S request auth).Reads := by
  repeat refine .bind fun _ => ?_
  infer_instance

instance (request : RefreshTokenGrantRequest) : (refreshTokenGrant S request auth).Reads := by
  repeat refine .bind fun _ => ?_
  infer_instance

instance (request : TokenExchangeGrantRequest) : (tokenExchangeGrant S request auth).Reads := by
  repeat refine .bind fun _ => ?_
  infer_instance

end

section
variable {R : Store → Store → Prop} {S : OAuth2Service} (hrefl : ∀ s, R s s)
include hrefl

/-- An authorization writes one code row and nothing else. -/
lemma authorize_within (hins : ∀ row, (insertCodeRow S.libs row).Within R)
    (random : CodeRandomness) (request : AuthorizationRequest) (principal : Principal) :
    (authorize S random request principal).Within R :=
  .bind (.reads hrefl) fun _ => .bind (.reads hrefl) fun _ => .bind (.okOr _ _) fun _ =>
    .bind (repo_within (.bind (.reads hrefl) fun _ => .bind (hins _) fun _ =>
      .bind (.reads hrefl) fun _ => .pure _)) fun _ => .pure _

/-- A token request consumes codes and writes nothing else. -/
lemma token_within (hconsume : ∀ id now, (consumeAuthorizationCode id now).Within R)
    (request : TokenRequest) (auth : Option OAuth2ClientAuth) : (token S request auth).Within R := by
  cases request with
  | password request => exact .reads (t := passwordGrant S request auth) hrefl
  | authorizationCode request => exact authorizationCodeGrant_within hrefl hconsume S request auth
  | clientCredentials request => exact .reads (t := clientCredentialsGrant S request auth) hrefl
  | refreshToken request => exact .reads (t := refreshTokenGrant S request auth) hrefl
  | tokenExchange request => exact .reads (t := tokenExchangeGrant S request auth) hrefl

end

section
variable {R : Store → Store → Prop} {S : OAuth2Service} (hR : SavesGrants S.libs R)
include hR

lemma upsertUserConsent_within (id userId : Id) (clientId redirectUri scope : String) :
    (upsertUserConsent S id userId clientId redirectUri scope).Within R := by
  have hclear : ∀ id, (repo (ensureClear .userConsents id "conflicted user consent")).Within R :=
    fun _ => .reads hR.refl
  refine .bind (.reads hR.refl) fun existing => .bind (.reads hR.refl) fun now => ?_
  split
  · have htouch : ∀ (consent : OAuth2UserConsent) (updatedAt : DateTime), (do
        repo (touchConsentRow consent.id updatedAt.timestamp)
        repo (ensureClear .userConsents consent.id "conflicted user consent")
        pure { consent with updatedAt } : ServiceTask OAuth2UserConsent).Within R :=
      fun _ _ => .bind (repo_within (hR.touchConsentRow _ _)) fun _ =>
        .bind (hclear _) fun _ => .pure _
    dsimp only
    split
    · exact .bind (.okOr _ _) fun _ => htouch _ _
    · exact .bind (.pure _) fun _ => htouch _ _
  · exact .bind (repo_within (hR.insertConsentRow _)) fun _ => .bind (hclear _) fun _ => .pure _

/-- An approval writes consent rows and nothing else. -/
lemma approveForUser_within (consentId : Id) (request : ApproveForUserRequest)
    (principal : Principal) : (approveForUser S consentId request principal).Within R :=
  .bind (.failIf _ _) fun _ => .bind (.reads hR.refl) fun _ => .bind (.okOr _ _) fun _ =>
    .bind (.failIf _ _) fun _ => .bind (.lift _) fun _ =>
      .bind (upsertUserConsent_within hR ..) fun _ => .pure _

/-- A revocation deletes consent rows and nothing else. -/
lemma revokeUserConsent_within (userId consentId : Id) :
    (revokeUserConsent S userId consentId).Within R :=
  .bind (.reads hR.refl) fun _ => .bind (.failIf _ _) fun _ => .bind (.reads hR.refl) fun _ =>
    .bind (.okOr _ _) fun _ => .bind (.failIf _ _) fun _ => repo_within (hR.deleteUserConsentById _)

/-- The operations of the token and authorization endpoints and those on consents. -/
def Operation.OnGrants : Operation → Prop
  | .token .. | .authorize .. | .approveForUser .. | .revokeUserConsent .. => True
  | _ => False

/-- An operation of the token and authorization endpoints runs within `R`. -/
lemma perform_onGrants (htrans : ∀ a b c, R a b → R b c → R a c) {op : Operation}
    (hop : op.OnGrants) (s : Store) : R s (perform S s op) := by
  have hbearer : ∀ bearer, (authorizeBearer S bearer).Within R :=
    fun _ => .reads hR.refl
  cases op with
  | token request auth =>
    exact (token_within hR.refl hR.consumeAuthorizationCode request auth).run hR.refl htrans s
  | authorize bearer random request =>
    exact Task.Within.run (.bind (hbearer bearer) fun _ =>
      authorize_within hR.refl hR.insertCodeRow random request _) hR.refl htrans s
  | approveForUser bearer consentId request =>
    exact Task.Within.run
      (.bind (hbearer bearer) fun _ => approveForUser_within hR consentId request _)
      hR.refl htrans s
  | revokeUserConsent userId consentId =>
    exact (revokeUserConsent_within hR userId consentId).run hR.refl htrans s
  | _ => cases hop

end

/-! ## Histories -/

section
variable (S : OAuth2Service)

/-- One operation evolves the store. -/
lemma perform_evolves (s : Store) (op : Operation) : Evolves op.drawn s (perform S s op) := by
  have hgrs : op.OnGrants → Evolves op.drawn s (perform S s op) := fun hop =>
    perform_onGrants (savesGrants_evolves S.libs) (fun _ _ _ => .trans) hop s
  cases op with
  | token request auth => exact hgrs trivial
  | authorize bearer random request => exact hgrs trivial
  | approveForUser bearer consentId request => exact hgrs trivial
  | revokeUserConsent userId consentId => exact hgrs trivial
  | registerClient random request =>
    exact .run (.bind (.lift _) fun _ =>
      .bind (repo_within (createClient_evolves _ _ _ (mem_singleton_self _))) fun _ =>
        .pure _) s
  | createClient random registration =>
    exact .run (createClient_evolves _ _ _ (mem_singleton_self _)) s
  | updateClient clientId request => exact .run (updateClient_evolves clientId request) s
  | deleteClient clientId => exact .run (deleteClient_evolves clientId) s
  | createUser random name password =>
    exact .run (createUser_evolves _ _ _ (mem_singleton_self _)) s
  | deleteUser userId => exact .run (deleteUser_evolves S userId) s
  | ensureMasterKey entropy entityType entityId passphrase =>
    exact .run (ensureMasterKey_within (savesKeys_evolves S.libs).toSavesMaterial S.libs ..) s
  | createKey id parentId entityType entityId hardened name expiresAt =>
    exact .run (createKey_within (savesKeys_evolves S.libs) ..) s
  | setClock now => exact .of_eq rfl rfl rfl rfl
  | reportConflicts conflicts => exact .of_eq rfl rfl rfl rfl

/-- A whole history evolves the store. -/
lemma performAll_evolves (s : Store) (ops : List Operation) :
    Evolves (drawnBy ops) s (performAll S s ops) := by
  induction ops generalizing s with
  | nil => exact .refl s
  | cons op ops ih =>
    have hfirst : Evolves (drawnBy (op :: ops)) s (perform S s op) :=
      (perform_evolves S s op).mono (subset_append_left _ _)
    exact hfirst.trans ((ih (perform S s op)).mono (subset_append_right _ _))

end

/-- A key keeps its entity: whoever is found by it later on is the same user or client. -/
lemma Evolves.principal_eq {S : OAuth2Service} {drawn : List Id} {s s' : Store}
    (h : Evolves drawn s s') (hkeys : (s.keys.map KeyRow.id).Nodup) {keyId : Id}
    {principal principal' : Principal}
    (hfound : (findPrincipal S keyId).eval s = .ok (some principal))
    (hfound' : (findPrincipal S keyId).eval s' = .ok (some principal')) :
    principal'.entityType = principal.entityType ∧ principal'.entityId = principal.entityId := by
  obtain ⟨hkey, -, htype, hid, -⟩ := findPrincipal_ok hfound
  obtain ⟨hkey', -, htype', hid', -⟩ := findPrincipal_ok hfound'
  obtain ⟨hkeyId, row, hrow, hdec⟩ := findKeyById_ok hkey
  obtain ⟨hkeyId', row', hrow', hdec'⟩ := findKeyById_ok hkey'
  have hrowId : row.id = keyId := (KeyRow.toKey_ok hdec).1.symm.trans hkeyId
  have hrowId' : row'.id = keyId := (KeyRow.toKey_ok hdec').1.symm.trans hkeyId'
  obtain rfl := h.keys.same_of_key_eq (fun _ _ heq => congrArg KeyRow.id heq) hrow
    (fun other hother heq => inj_on_of_nodup_map hkeys hother hrow heq) hrow'
    (hrowId'.trans hrowId.symm)
  have hsame : principal'.key = principal.key := Except.ok.inj (hdec'.symm.trans hdec)
  rw [← htype', ← hid', hsame]
  exact ⟨htype, hid⟩

end LocalPlatform.Idp
