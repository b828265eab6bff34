import LocalPlatform.Idp.Grants

/-!
# Lookups leave the store alone

Every repository query, the search for a principal and the issuing of tokens only read. Their
outcomes can therefore be chained in the state in which a grant starts.
-/

namespace LocalPlatform.Idp

open Resumption DateTime List

section
variable {α : Type} {r : ErrorResponseResult α}

variable {ε : Type} {t : RepoTask α} {s : Store} {a : α}

instance : (utcNow : Task Access Store ε DateTime).Reads := ⟨.read _ _⟩

@[simp] lemma eval_utcNow (s : Store) :
    (utcNow : Task Access Store ε DateTime).eval s = .ok s.now := rfl

instance [h : t.Reads] : (repo t).Reads := ⟨h.readOnly.mapError _⟩

lemma repo_within {R : Store → Store → Prop} (ht : t.Within R) : (repo t).Within R := ht.mapError _

@[simp] lemma eval_repo_ok : (repo t).eval s = .ok a ↔ t.eval s = .ok a := Task.eval_mapError_ok

@[simp] lemma eval_check_ok : (check r).eval s = .ok a ↔ r = .ok a := by
  cases r <;> simp [check, Except.mapError]

instance (r : ErrorResponseResult α) : (check r).Reads := ⟨.lift _⟩

/-- A call goes on after a check that succeeds. -/
lemma exists_check_bind {β : Type} {f : α → ServiceTask β}
    (h : r = .ok a) (hf : ∃ b, (f a).eval s = .ok b) : ∃ b, (check r >>= f).eval s = .ok b :=
  exists_eval_bind (eval_check_ok.mpr h) hf

/-- A call goes on after a lookup that succeeds. -/
lemma exists_repo_bind {β : Type} {f : α → ServiceTask β} [t.Reads] (h : t.eval s = .ok a)
    (hf : ∃ b, (f a).eval s = .ok b) : ∃ b, (repo t >>= f).eval s = .ok b :=
  exists_eval_bind (eval_repo_ok.mpr h) hf

@[simp] lemma keyResult_ok {r : Except String α} : keyResult r = .ok a ↔ r = .ok a := by
  cases r <;> simp [keyResult, Except.mapError]

end

/-! ## Times -/

@[simp] lemma DateTime.timestamp_withoutNanoseconds (t : DateTime) :
    t.withoutNanoseconds.timestamp = t.timestamp :=
  Int.mul_ediv_cancel _ (by decide)

/-- A column decodes to an instant exactly within the calendar's range. -/
lemma timestamp_ok_iff (what : String) {secs : ℤ} :
    (∃ t, timestamp what secs = .ok t) ↔ minTimestamp ≤ secs ∧ secs ≤ maxTimestamp := by
  unfold timestamp fromTimestamp
  split <;> simp_all

/-! ## Repositories -/

instance {ρ α : Type} (table : Table) (rows : Store → List ρ) (predicate : ρ → Bool)
    (decode : ρ → RepoResult α) : (selectRows table rows predicate decode).Reads :=
  ⟨.read _ _⟩

instance (predicate : ClientRow → Bool) : (clientsWhere predicate).Reads :=
  inferInstanceAs (selectRows ..).Reads

instance (L : Libraries) (predicate : UserRow → Bool) : (usersWhere L predicate).Reads :=
  inferInstanceAs (selectRows ..).Reads

instance (predicate : AuthorizationCodeRow → Bool) : (codeRows predicate).Reads :=
  inferInstanceAs (selectRows ..).Reads

instance (table : Table) (id : Id) (message : String) : (ensureClear table id message).Reads :=
  ⟨.read _ _⟩

instance (predicate : ClientRow → Bool) : (clearClient predicate).Reads := by
  refine .bind fun clients => ?_
  split <;> infer_instance

instance (id : Id) : (findClientById id).Reads := inferInstanceAs (clearClient _).Reads

instance (clientId : String) : (findClientByClientId clientId).Reads :=
  inferInstanceAs (clearClient _).Reads

/-- A client that is found stands in the table, in a row of the selection. -/
lemma clearClient_ok {predicate : ClientRow → Bool} {s : Store} {client : Client}
    (h : (clearClient predicate).eval s = .ok (some client)) :
    ∃ row ∈ s.clients, predicate row = true ∧ row.toClient = .ok client := by
  obtain ⟨clients, hcls, h⟩ := eval_bind_iff.mp h
  have hmem : client ∈ clients := by
    split at h
    · rename_i found hfound
      obtain ⟨_, -, h⟩ := eval_bind_iff.mp h
      obtain rfl : found = client := by simpa using h
      exact mem_of_mem_head? hfound
    · simp at h
  obtain ⟨row, hrow, hdec⟩ := exists_of_mem_mapM hcls hmem
  obtain ⟨hrow, hpred⟩ := mem_filter.mp hrow
  exact ⟨row, hrow, hpred, hdec⟩

/-- A client that is found is a row of the table. -/
lemma findClientByClientId_ok {clientId : String} {s : Store} {client : Client}
    (h : (findClientByClientId clientId).eval s = .ok (some client)) :
    ∃ row ∈ s.clients, row.toClient = .ok client := by
  obtain ⟨row, hrow, -, hdec⟩ := clearClient_ok h
  exact ⟨row, hrow, hdec⟩

instance : allKeys.Reads := inferInstanceAs (selectRows ..).Reads

instance (keys : List Key) : (ensureKeysClear keys).Reads := by
  induction keys with
  | nil => exact ⟨.pure _⟩
  | cons key keys ih => exact .bind fun _ => ih

instance (entityType : EntityType) (entityId : Id) :
    (listKeysByEntity entityType entityId).Reads := by
  unfold listKeysByEntity
  infer_instance

instance (id : Id) : (findKeyById id).Reads := by
  refine .bind fun keys => .bind fun now => ?_
  split <;> infer_instance

instance (parentId : Option Id) : (parentKey parentId).Reads := by
  cases parentId with
  | none => exact ⟨.pure _⟩
  | some parentId => exact .bind fun _ => inferInstance

instance (entityType : EntityType) (entityId : Id) :
    (findActiveEntityRootKey entityType entityId).Reads := by
  unfold findActiveEntityRootKey
  infer_instance

instance (ns : String) (path : DerivationPath) : (loadPrivateKey ns path).Reads := ⟨.read _ _⟩

instance (L : Libraries) (id : Id) : (findUserById L id).Reads := by
  unfold findUserById
  infer_instance

instance (L : Libraries) (identifier : String) : (findUserByUsernameOrEmail L identifier).Reads := by
  refine .bind fun users => ?_
  split
  · infer_instance
  · refine .bind fun emails => ?_
    split <;> infer_instance

instance (userId : Id) : (findUserPasswordByUserId userId).Reads := by
  refine .bind fun credentials => ?_
  split <;> infer_instance

instance (L : Libraries) (code : String) : (findAuthorizationCodeByCode L code).Reads := by
  refine .bind fun rows => ?_
  split <;> infer_instance

/-! ## Principals and tokens -/

section
variable (S : OAuth2Service)

instance (key : Key) : (ensureKeyIsActiveEntityRoot key).Reads := by
  unfold ensureKeyIsActiveEntityRoot
  infer_instance

instance (key : Key) : (storedPrivateKey S key).Reads := by
  unfold storedPrivateKey
  infer_instance

instance (keyId : Id) : (findPublicJwk S keyId).Reads := by
  unfold findPublicJwk
  infer_instance

instance (key : Key) : (loadSigningJwk S key).Reads := by
  unfold loadSigningJwk
  infer_instance

instance (keyId : Id) : (findPrincipal S keyId).Reads := by
  refine .bind fun key => ?_
  split
  · infer_instance
  · refine .handle fun r => ?_
    split
    · infer_instance
    · split <;> infer_instance

instance (now : DateTime) (ttl : UInt64) : (expiry now ttl).Reads := by
  unfold expiry
  infer_instance

instance (client : Client) (principal : Principal) (scopes : List String) (resource : Option String)
    (authorizationDetails : Option (List AuthorizationDetail)) (audience : Option String) :
    (issueTokensForClient S client principal scopes resource authorizationDetails audience).Reads := by
  unfold issueTokensForClient
  infer_instance

end

variable {R : Store → Store → Prop}

/-- A code is consumed by one update of its row. -/
lemma consumeAuthorizationCode_within (hrefl : ∀ s, R s s) {id : Id} {now : DateTime}
    (hwrite : ∀ s : Store, R s { s with authorizationCodes := s.authorizationCodes.map fun row =>
      if row.id = id then
        { row with consumedAt := some now.timestamp, updatedAt := now.timestamp }
      else row }) : (consumeAuthorizationCode id now).Within R :=
  .bind (.reads hrefl) fun _ => .bind (.reads hrefl) fun _ => .bind (.okOr _ _) fun _ =>
    .bind (.failIf _ _) fun _ => .bind (.atomic hwrite) fun _ => .reads hrefl

/-- An update that passes its check writes one record over the client it found. -/
lemma updateClient_within (hrefl : ∀ s, R s s) (clientId : String) {request : ClientRegistration}
    (hwrite : ∀ u, (validateDynamicClientGrants request.allowedGrantTypes).mapError
        Failure.response = .ok u → ∀ existing now updatedAt, ∀ s : Store,
      R s { s with clients := s.clients.map fun row =>
        if row.id = (updatedClient existing request now).id then
          row.assign (updatedClient existing request now).toRow updatedAt
        else row }) : (updateClient clientId request).Within R :=
  .lift_bind fun u hcheck =>
    .bind (.reads hrefl) fun _ => .bind (.okOr _ _) fun existing => .bind (.reads hrefl) fun now =>
      .bind (repo_within (.bind (.reads hrefl) fun _ => .bind (.reads hrefl) fun _ =>
        .bind (.atomic (hwrite u hcheck existing now _)) fun _ => .pure _)) fun _ => .pure _

/-- The only thing that a redemption writes is that its code is consumed. -/
lemma authorizationCodeGrant_within (hrefl : ∀ s, R s s)
    (hconsume : ∀ id now, (consumeAuthorizationCode id now).Within R) (S : OAuth2Service)
    (request : AuthorizationCodeGrantRequest) (auth : Option OAuth2ClientAuth) :
    (authorizationCodeGrant S request auth).Within R :=
  .bind (.reads hrefl) fun _ => .bind (.reads hrefl) fun _ => .bind (.okOr _ _) fun _ =>
    .bind (.failIf _ _) fun _ => .bind (.failIf _ _) fun _ => .bind (.reads hrefl) fun _ =>
      .bind (.okOr _ _) fun _ => .bind (.reads hrefl) fun _ => .bind (.okOr _ _) fun _ =>
        .bind (.lift _) fun _ => .bind (.lift _) fun _ => .bind (.lift _) fun _ =>
          .bind (.lift _) fun _ => .bind (repo_within (hconsume _ _)) fun _ => .reads hrefl

/-! ## The newest of several keys -/

section
variable {α : Type} {f : α → ℤ}

/-- The larger of the best element so far and the next one. -/
private lemma foldl_max_mem (l : List α) (best : α) :
    ∃ a ∈ best :: l, l.foldl (fun best a => match best with
      | none => some a
      | some b => if f b ≤ f a then some a else some b) (some best) = some a := by
  induction l generalizing best with
  | nil => exact ⟨best, mem_cons_self, rfl⟩
  | cons b l ih =>
    rw [foldl_cons]
    dsimp only
    split
    · obtain ⟨a, ha, hfold⟩ := ih b
      exact ⟨a, mem_cons_of_mem best ha, hfold⟩
    · obtain ⟨a, ha, hfold⟩ := ih best
      refine ⟨a, ?_, hfold⟩
      rcases mem_cons.mp ha with rfl | ha
      · exact mem_cons_self
      · exact mem_cons_of_mem best (mem_cons_of_mem b ha)

/-- Only the empty list has no largest element. -/
lemma maxByKey_cases (l : List α) :
    (l = [] ∧ maxByKey f l = none) ∨ ∃ a ∈ l, maxByKey f l = some a := by
  cases l with
  | nil => exact .inl ⟨rfl, rfl⟩
  | cons a l => exact .inr (foldl_max_mem l a)

end

/-! ## Writing keys and clients -/

/-- Storing key material stays within `R`. -/
structure SavesMaterial (R : Store → Store → Prop) : Prop where
  refl : ∀ s, R s s
  storePrivateKey : ∀ ns key, (storePrivateKey ns key).Within R

/-- Storing key material and inserting keys and applications stays within `R`. -/
structure SavesKeys (L : Libraries) (R : Store → Store → Prop) : Prop extends SavesMaterial R where
  insertKeyRow : ∀ key, (insertKeyRow L key).Within R
  insertApplicationRow : ∀ row, (insertApplicationRow L row).Within R

section
variable {R : Store → Store → Prop} (hR : SavesMaterial R) (L : Libraries)
include hR

/-- Ensuring a master key writes key material only. -/
lemma ensureMasterKey_within (entropy : Bytes) (ns passphrase : String) :
    (ensureMasterKey L entropy ns passphrase).Within R := by
  refine .bind (.read hR.refl _ _) fun key => ?_
  split
  · exact .pure _
  · exact .bind (.lift _) fun _ => .bind (hR.storePrivateKey _ _) fun _ => .pure _

/-- By induction on the path: only key material is written. -/
lemma ensureDerivationPath_within (ns : String) (path : List ChildNumber) :
    (ensureDerivationPath L ns path).Within R := by
  induction path with
  | nil =>
    refine .bind (.read hR.refl _ _) fun key => ?_
    split
    · exact .pure _
    · exact .lift _
  | cons child parents ih =>
    refine .bind (.read hR.refl _ _) fun key => ?_
    split
    · exact .pure _
    · exact .bind ih fun _ => .bind (.lift _) fun _ => .bind (hR.storePrivateKey _ _) fun _ =>
        .pure _

end

/-- Finding or creating the application writes application rows only. -/
lemma applicationIdFor_within {L : Libraries} (hrefl : ∀ s, R s s)
    (hins : ∀ row, (insertApplicationRow L row).Within R) (random : RegistrationRandomness)
    (registration : ClientRegistration) : (applicationIdFor L random registration).Within R := by
  refine .bind (.read hrefl _ _) fun ids => ?_
  split
  · exact .pure _
  · exact .bind (.read hrefl _ _) fun now => .bind (hins _) fun _ => .pure _

section
variable {L : Libraries} {R : Store → Store → Prop} (hR : SavesKeys L R)
include hR

/-- Creating a key's row writes key rows only. -/
lemma createKeyRow_within (id : Id) (parentId : Option Id) (entityType : EntityType)
    (entityId : Id) (hardened : Bool) (name : String) (expiresAt : Option DateTime) :
    (createKeyRow L id parentId entityType entityId hardened name expiresAt).Within R := by
  refine .bind ?_ fun parent => .bind (.reads hR.refl) fun keys =>
    .bind (.lift _) fun index => .bind (.read hR.refl _ _) fun now =>
      .bind (hR.insertKeyRow _) fun _ => .pure _
  cases parentId with
  | none => exact .pure _
  | some parentId =>
    exact .bind (.reads hR.refl) fun _ =>
      .bind (.okOr _ _) fun _ => .pure _

/-- Creating a key writes its row and its material. -/
lemma createKey_within (base : String) (id : Id) (parentId : Option Id) (entityType : EntityType)
    (entityId : Id) (hardened : Bool) (name : String) (expiresAt : Option DateTime) :
    (createKey L base id parentId entityType entityId hardened name expiresAt).Within R :=
  .bind (createKeyRow_within hR ..) fun _ => .bind (.lift _) fun _ =>
    .bind (ensureDerivationPath_within hR.toSavesMaterial L ..) fun _ => .pure _

/-- Creating a client inserts the record that its registration describes. -/
lemma createClient_within {base : String} {random : RegistrationRandomness}
    {registration : ClientRegistration}
    (hcl : ∀ {applicationId : Id} {clientId clientSecret : String} {now : DateTime}
      {client : Client},
      registrationSecret registration = .ok clientSecret →
      newClient registration random.id applicationId clientId clientSecret now = .ok client →
        (insertClientRow L client).Within R) :
    (createClient L base random registration).Within R := by
  refine .bind (.okOr _ _) fun clientId => .lift_bind fun secret hsec =>
    .bind (applicationIdFor_within hR.refl hR.insertApplicationRow ..) fun applicationId =>
      .bind (.read hR.refl _ _) fun now => .lift_bind fun client hnew =>
        .bind (hcl hsec hnew) fun _ => ?_
  exact .bind (ensureMasterKey_within hR.toSavesMaterial L ..) fun _ =>
    .bind (createKey_within hR ..) fun _ => .pure _

end

end LocalPlatform.Idp
