import LocalPlatform.Idp.History

/-!
# Keys that are in line with their entities

A store is aligned when every active key is the only active key of its entity, is a root key, and
belongs to a user or a client that is there. Users and clients can be deleted and keys can be
created without regard for that; an operation conforms when it does not do so, and a history of
operations that conform keeps the store aligned.
-/

namespace LocalPlatform.Idp

open Resumption KeyRow List Task

/-! ## Aligned stores -/

/-- The store has the key, and it is neither revoked nor expired. -/
def ActiveKey (s : Store) (key : Key) : Prop :=
  (∃ row ∈ s.keys, row.toKey = .ok key) ∧ key.active s.now = true

/-- The entity has no active key. -/
def Keyless (s : Store) (entityType : EntityType) (entityId : Id) : Prop :=
  ∀ key, ActiveKey s key → key.entityType = entityType → key.entityId ≠ entityId

/-- Each entity has at most one active key, that key is a root, and its entity exists. -/
structure Aligned (s : Store) : Prop where
  ids : (s.keys.map KeyRow.id).Nodup
  root : ∀ key, ActiveKey s key → key.parentId = none
  unique : ∀ key key', ActiveKey s key → ActiveKey s key' → key.entityType = key'.entityType →
    key.entityId = key'.entityId → key = key'
  present : ∀ key, ActiveKey s key → EntityPresent key.entityType key.entityId s

/-- The operation leaves no active key without its entity and gives no entity a second one. The
clock does not go back. -/
def Operation.Conforms (s : Store) : Operation → Prop
  | .deleteUser userId => Keyless s .user userId
  | .deleteClient clientId => ∀ row ∈ s.clients, row.clientId = clientId → Keyless s .client row.id
  | .registerClient random _ | .createClient random _ => Keyless s .client random.id
  | .createKey _ parentId entityType entityId _ _ _ =>
    parentId = none ∧ EntityPresent entityType entityId s ∧ Keyless s entityType entityId
  | .setClock now => s.now ≤ now
  | .token .. | .authorize .. | .approveForUser .. | .revokeUserConsent .. | .updateClient ..
  | .createUser .. | .ensureMasterKey .. | .reportConflicts .. => True

/-- Every operation of the history conforms in the store it is performed on. -/
def AllConform (S : OAuth2Service) : Store → List Operation → Prop
  | _, [] => True
  | s, op :: ops => op.Conforms s ∧ AllConform S (perform S s op) ops

lemma EntityType.toInteger_injective : Function.Injective EntityType.toInteger := by
  intro a b h
  cases a <;> cases b <;> first | rfl | cases h

/-- A key that is active later is active now. -/
lemma Key.active_antitone (key : Key) {now later : DateTime} (hle : now ≤ later)
    (h : key.active later = true) : key.active now = true := by
  simp only [Key.active, Bool.and_eq_true, Option.all_eq_true, decide_eq_true_eq] at h ⊢
  exact ⟨fun t ht => hle.trans_lt (h.1 t ht), fun t ht => hle.trans_lt (h.2 t ht)⟩

/-- Two keys of the store with the same identifier are the same. -/
lemma ActiveKey.eq_of_id {s : Store} (hids : (s.keys.map KeyRow.id).Nodup) {key key' : Key}
    (h : ActiveKey s key) (h' : ActiveKey s key') (hid : key.id = key'.id) : key = key' := by
  obtain ⟨row, hrow, hdec⟩ := h.1
  obtain ⟨row', hrow', hdec'⟩ := h'.1
  have hsame : row.id = row'.id := by
    rw [← (toKey_ok hdec).1, ← (toKey_ok hdec').1, hid]
  obtain rfl := inj_on_of_nodup_map hids hrow hrow' hsame
  exact Except.ok.inj (hdec.symm.trans hdec')

/-! ## Operations that leave keys alone -/

/-- Keys and clock are the same, and every entity that is gone is one of those that may go. -/
structure Leaves (gone : EntityType → Id → Prop) (s s' : Store) : Prop where
  keys : s'.keys = s.keys
  now : s'.now = s.now
  present : ∀ entityType id, EntityPresent entityType id s →
    gone entityType id ∨ EntityPresent entityType id s'

/-- No entity goes. -/
def Quiet : Store → Store → Prop := Leaves fun _ _ => False

section
variable {gone : EntityType → Id → Prop} {s s' s'' : Store}

/-- Where the rows of keys stay, so do the active keys. -/
lemma Leaves.activeKey (h : Leaves gone s s') {key : Key} : ActiveKey s' key ↔ ActiveKey s key := by
  rw [ActiveKey, ActiveKey, h.keys, h.now]

variable {entityType : EntityType}

/-- A step stays aligned when those that go have no active key. -/
lemma Leaves.aligned (h : Leaves gone s s')
    (hgone : ∀ entityType id, gone entityType id → Keyless s entityType id) (hs : Aligned s) :
    Aligned s' where
  ids := by
    rw [h.keys]
    exact hs.ids
  root key hkey := hs.root key (h.activeKey.mp hkey)
  unique key key' hkey hkey' := hs.unique key key' (h.activeKey.mp hkey) (h.activeKey.mp hkey')
  present key hkey := by
    have hold := h.activeKey.mp hkey
    rcases h.present _ _ (hs.present key hold) with hgone' | hpres
    · exact absurd rfl (hgone _ _ hgone' key hold rfl)
    · exact hpres

lemma Leaves.refl (s : Store) : Leaves gone s s := ⟨rfl, rfl, fun _ _ h => .inr h⟩

lemma Leaves.trans (h : Leaves gone s s') (h' : Leaves gone s' s'') : Leaves gone s s'' where
  keys := h'.keys.trans h.keys
  now := h'.now.trans h.now
  present entityType id hs := by
    rcases h.present entityType id hs with hgone | hs'
    · exact .inl hgone
    · exact h'.present entityType id hs'

/-- A step that keeps the rows of users and clients. -/
lemma Quiet.of_subset (hkeys : s'.keys = s.keys) (hnow : s'.now = s.now)
    (husers : s.users ⊆ s'.users) (hcls : s.clients ⊆ s'.clients) : Quiet s s' where
  keys := hkeys
  now := hnow
  present entityType id h := by
    right
    cases entityType with
    | user =>
      obtain ⟨row, hrow, hid⟩ := h
      exact ⟨row, husers hrow, hid⟩
    | client =>
      obtain ⟨row, hrow, hid⟩ := h
      exact ⟨row, hcls hrow, hid⟩

/-- A step that changes other tables only. -/
lemma Quiet.of_eq (hkeys : s'.keys = s.keys) (hnow : s'.now = s.now) (husers : s'.users = s.users)
    (hcls : s'.clients = s.clients) : Quiet s s' :=
  .of_subset hkeys hnow (husers ▸ List.Subset.refl _) (hcls ▸ List.Subset.refl _)

lemma Quiet.refl (s : Store) : Quiet s s := Leaves.refl s

/-- A quiet step keeps the alignment. -/
lemma Quiet.aligned (h : Quiet s s') (hs : Aligned s) : Aligned s' :=
  Leaves.aligned h (fun _ _ hgone => hgone.elim) hs

/-- A run whose steps are all quiet is quiet. -/
lemma Quiet.run {ε α : Type} {t : Task Access Store ε α} (h : t.Within Quiet) (s : Store) :
    Quiet s (t.run s).2 :=
  h.run .refl (fun _ _ _ => .trans) s

end

/-- Key material is not part of the alignment. -/
lemma savesMaterial_quiet : SavesMaterial Quiet where
  refl := .refl
  storePrivateKey _ _ := .atomic fun _ => .of_eq rfl rfl rfl rfl

variable (L : Libraries) {s : Store}

lemma insertApplicationRow_quiet (row : ApplicationRow) :
    (insertApplicationRow L row).Within Quiet := by
  refine .atomic fun s => ?_
  split
  · exact .refl s
  · exact .of_eq rfl rfl rfl rfl

/-- Codes, consents and applications are not part of it either. -/
lemma savesGrants_quiet : SavesGrants L Quiet where
  refl := .refl
  insertCodeRow _ := .atomic fun s => by
    split
    · exact .refl s
    · exact .of_eq rfl rfl rfl rfl
  consumeAuthorizationCode _ _ :=
    consumeAuthorizationCode_within .refl fun _ => .of_eq rfl rfl rfl rfl
  insertConsentRow _ := .atomic fun s => by
    split
    · exact .refl s
    · exact .of_eq rfl rfl rfl rfl
  touchConsentRow _ _ := .atomic fun _ => .of_eq rfl rfl rfl rfl
  deleteUserConsentById _ := .bind (.reads .refl) fun _ =>
    .atomic fun _ => .of_eq rfl rfl rfl rfl

lemma insertClientRow_quiet (client : Client) : (insertClientRow L client).Within Quiet := by
  refine .atomic fun s => ?_
  split
  · exact .refl s
  · exact .of_subset rfl rfl (List.Subset.refl _) (subset_append_left _ _)

/-- An update keeps the client's row. -/
lemma updateClient_quiet (clientId : String) (request : ClientRegistration) :
    (updateClient clientId request).Within Quiet := by
  refine updateClient_within .refl clientId fun _ _ _ _ _ s =>
    ⟨rfl, rfl, fun entityType id h => .inr ?_⟩
  cases entityType with
  | user => exact h
  | client =>
    obtain ⟨_, hrow, rfl⟩ := h
    refine ⟨_, mem_map_of_mem hrow, ?_⟩
    split <;> rfl

lemma createUser_quiet (random : UserRandomness) (name password : String) :
    (createUserWithPassword L random name password).Within Quiet := by
  refine .bind (.failIf _ _) fun _ => .bind (.reads .refl) fun now =>
    .bind (.lift _) fun hash => .bind (.atomic fun s => ?_) fun _ => .pure _
  split
  · exact .refl s
  · exact .of_subset rfl rfl (subset_append_left _ _) (List.Subset.refl _)

/-! ## Creating keys -/

/-- A new root key for an entity that is there and has none. -/
lemma Aligned.append (hs : Aligned s) {key : Key}
    (hnew : ∀ row ∈ s.keys, row.id ≠ key.id) (hroot : key.parentId = none)
    (hpres : EntityPresent key.entityType key.entityId s)
    (hkeyless : Keyless s key.entityType key.entityId) :
    Aligned { s with keys := s.keys ++ [key.toRow] } := by
  -- an active key is an old one, or belongs to the entity of the new one
  have hcases : ∀ key', ActiveKey { s with keys := s.keys ++ [key.toRow] } key' →
      ActiveKey s key' ∨ (key.toRow.toKey = .ok key' ∧ key'.parentId = none ∧
        key'.entityType = key.entityType ∧ key'.entityId = key.entityId) := by
    rintro key' ⟨⟨row, hrow, hdec⟩, hact⟩
    rcases mem_concat.mp hrow with hold | rfl
    · exact .inl ⟨⟨row, hold, hdec⟩, hact⟩
    · obtain ⟨-, hent, htype, hpar⟩ := toKey_ok hdec
      exact .inr ⟨hdec, hpar.trans hroot,
        (EntityType.toInteger_injective htype).symm, hent⟩
  refine ⟨?_, fun key' hkey' => ?_, fun key1 key2 h1 h2 htype hid => ?_, fun key' hkey' => ?_⟩
  · rw [map_append, nodup_append]
    refine ⟨hs.ids, nodup_singleton _, fun id hold id' hlast => ?_⟩
    obtain ⟨row, hrow, rfl⟩ := mem_map.mp hold
    obtain rfl := mem_singleton.mp hlast
    exact hnew row hrow
  · rcases hcases key' hkey' with hold | ⟨-, hpar, -⟩
    · exact hs.root key' hold
    · exact hpar
  · rcases hcases key1 h1 with hold1 | ⟨hdec1, -, htype1, hid1⟩ <;>
      rcases hcases key2 h2 with hold2 | ⟨hdec2, -, htype2, hid2⟩
    · exact hs.unique key1 key2 hold1 hold2 htype hid
    · exact absurd (hid.trans hid2) (hkeyless key1 hold1 (htype.trans htype2))
    · exact absurd (hid.symm.trans hid1) (hkeyless key2 hold2 (htype.symm.trans htype1))
    · exact Except.ok.inj (hdec1.symm.trans hdec2)
  · rcases hcases key' hkey' with hold | ⟨-, -, htype, hid⟩
    · exact hs.present key' hold
    · rw [htype, hid]
      exact hpres

/-- Creating a key inserts one row at most. -/
lemma createKeyRow_state (s : Store) (id : Id) (parentId : Option Id)
    (entityType : EntityType) (entityId : Id) (hardened : Bool) (name : String)
    (expiresAt : Option DateTime) :
    (createKeyRow L id parentId entityType entityId hardened name expiresAt).Ends (fun s' =>
      s' = s ∨ ∃ key : Key, key.parentId = parentId ∧ key.entityType = entityType ∧
        key.entityId = entityId ∧ (∀ row ∈ s.keys, row.id ≠ key.id) ∧
        s' = { s with keys := s.keys ++ [key.toRow] }) s := by
  refine .after (.inl rfl) fun _ _ => ?_
  refine .after (.inl rfl) fun _ _ => ?_
  refine .after (.inl rfl) fun _ _ => ?_
  refine .after (.inl rfl) fun _ _ => ?_
  rw [Task.Ends, run_bind, insertKeyRow, run_atomic]
  split_ifs with hused
  · exact .inl rfl
  · refine .inr ⟨_, rfl, rfl, rfl, ?_, rfl⟩
    intro row hrow heq
    exact hused (any_eq_true.mpr ⟨row, hrow, by simp [heq]⟩)

section
variable {L : Libraries} {s : Store} {entityType : EntityType} {entityId : Id}

/-- A root key for an entity that is there and has none keeps the store aligned. -/
lemma createKey_aligned (hs : Aligned s) (hpres : EntityPresent entityType entityId s)
    (hkeyless : Keyless s entityType entityId) (base : String) (id : Id) (hardened : Bool)
    (name : String) (expiresAt : Option DateTime) :
    Aligned ((createKey L base id none entityType entityId hardened name expiresAt).run s).2 := by
  refine run_bind_state ?_ fun key s₁ _ hs1 => ?_
  · rcases createKeyRow_state L s id none entityType entityId hardened name expiresAt with
      h | ⟨key, hroot, htype, hent, hnew, h⟩ <;> rw [h]
    · exact hs
    · subst htype hent
      exact hs.append hnew hroot hpres hkeyless
  · refine (Quiet.run (.bind (.lift _) fun _ => ?_) s₁).aligned hs1
    exact .bind (ensureDerivationPath_within savesMaterial_quiet L ..) fun _ => .pure _

/-- Going on after a quiet part, with the entity still keyless. -/
lemma aligned_bind {ε α β : Type} {t : Task Access Store ε α} {f : α → Task Access Store ε β}
    (ht : t.Within Quiet) (hs : Aligned s) (hkeyless : Keyless s entityType entityId)
    (hf : ∀ a s₁, t.run s = (.ok a, s₁) → Quiet s s₁ → Aligned s₁ →
      Keyless s₁ entityType entityId → Aligned ((f a).run s₁).2) :
    Aligned ((t >>= f).run s).2 := by
  have hquiet := Quiet.run ht s
  refine run_bind_state (hquiet.aligned hs) fun a s₁ hrun hs1 => ?_
  rw [hrun] at hquiet
  exact hf a s₁ hrun hquiet hs1 fun key hkey =>
    hkeyless key (hquiet.activeKey.mp hkey)

/-- A client under a keyless identifier gets its root key. -/
lemma createClient_aligned (hs : Aligned s) {random : RegistrationRandomness}
    (hkeyless : Keyless s .client random.id) (base : String) (registration : ClientRegistration) :
    Aligned ((createClient L base random registration).run s).2 := by
  refine aligned_bind (.okOr _ _) hs hkeyless fun clientId s₁ _ _ hs1 hk1 => ?_
  refine aligned_bind (.lift _) hs1 hk1 fun secret s₂ _ _ hs2 hk2 => ?_
  refine aligned_bind (applicationIdFor_within .refl (insertApplicationRow_quiet L) ..) hs2 hk2
    fun applicationId s3 _ _ hs3 hk3 => ?_
  refine aligned_bind (.reads .refl) hs3 hk3 fun now s4 _ _ hs4 hk4 => ?_
  refine aligned_bind (.lift _) hs4 hk4 fun client s5 hnew _ hs5 hk5 => ?_
  have hid : client.id = random.id := newClient_id (congrArg Prod.fst hnew)
  refine aligned_bind (insertClientRow_quiet L client) hs5 hk5 fun _ s6 hins _ hs6 hk6 => ?_
  -- the row that was inserted is there from now on
  have hpres : EntityPresent .client random.id s6 := by
    rw [insertClientRow, run_atomic] at hins
    split_ifs at hins
    · cases hins
    · obtain rfl := (Prod.mk.inj hins).2
      exact ⟨client.toRow, mem_append_right _ (mem_singleton_self _), hid⟩
  refine aligned_bind (ensureMasterKey_within savesMaterial_quiet L ..) hs6 hk6
    fun _ s7 _ hquiet hs7 hk7 => ?_
  refine run_bind_state ?_ fun _ _ _ h => h
  rw [← hid] at hpres hk7
  exact createKey_aligned hs7 ((Leaves.present hquiet _ _ hpres).resolve_left not_false) hk7 ..

end

/-! ## Histories -/

section
variable (S : OAuth2Service)

/-- A deletion takes only the user away. -/
lemma deleteUser_leaves (userId : Id) : (deleteUser S userId).Within
    (Leaves fun entityType id => entityType = .user ∧ id = userId) := by
  refine .bind (.reads .refl) fun _ =>
    .bind (.failIf _ _) fun _ => repo_within (.atomic fun s => ⟨rfl, rfl, ?_⟩)
  intro entityType id h
  cases entityType with
  | client => exact .inr h
  | user =>
    by_cases hid : id = userId
    · exact .inl ⟨rfl, hid⟩
    · obtain ⟨row, hrow, rfl⟩ := h
      exact .inr ⟨row, mem_filter.mpr ⟨hrow, by simpa using hid⟩, rfl⟩

/-- A client that is deleted was found under its identifier. -/
lemma deleteClient_leaves (clientId : String) (s : Store) :
    Leaves (fun entityType id => entityType = .client ∧
      ∃ row ∈ s.clients, row.clientId = clientId ∧ row.id = id) s
        ((deleteClient clientId).run s).2 := by
  refine Task.Ends.mapError (.after (.refl s) fun client? hfound => ?_) _
  cases client? with
  | none => exact .refl s
  | some client =>
    obtain ⟨row, hrow, hmatch, hdec⟩ := clearClient_ok hfound
    have hid : client.id = row.id := (ClientRow.toClient_ok hdec).1
    refine ⟨rfl, rfl, fun entityType id hpres => ?_⟩
    cases entityType with
    | user => exact .inr hpres
    | client =>
      by_cases hgone : id = client.id
      · exact .inl ⟨rfl, row, hrow, by simpa using hmatch, by rw [hgone, hid]⟩
      · obtain ⟨other, hother, rfl⟩ := hpres
        exact .inr ⟨other, mem_filter.mpr ⟨hother, by simpa using hgone⟩, rfl⟩

/-- One operation that conforms keeps the store aligned. -/
lemma perform_aligned (hs : Aligned s) {op : Operation} (hop : op.Conforms s) :
    Aligned (perform S s op) := by
  have hgrs : op.OnGrants → Aligned (perform S s op) := fun hon =>
    (perform_onGrants (savesGrants_quiet S.libs) (fun _ _ _ => .trans) hon s :
      Quiet s _).aligned hs
  cases op with
  | token request auth => exact hgrs trivial
  | authorize bearer random request => exact hgrs trivial
  | approveForUser bearer consentId request => exact hgrs trivial
  | revokeUserConsent userId consentId => exact hgrs trivial
  | registerClient random request =>
    refine run_bind_state hs fun _ s₁ hrun _ => ?_
    obtain rfl := congrArg Prod.snd hrun
    refine run_bind_state ?_ fun _ _ _ h => h
    rw [repo, run_mapError]
    exact createClient_aligned hs hop _ _
  | createClient random registration => exact createClient_aligned hs hop _ _
  | updateClient clientId request =>
    exact (Quiet.run (updateClient_quiet clientId request) s).aligned hs
  | deleteClient clientId =>
    refine (deleteClient_leaves clientId s).aligned ?_ hs
    rintro _ _ ⟨rfl, row, hrow, hmatch, rfl⟩
    exact hop row hrow hmatch
  | createUser random name password =>
    exact (Quiet.run (createUser_quiet S.libs random name password) s).aligned hs
  | deleteUser userId =>
    have hleaves := (deleteUser_leaves S userId).run .refl (fun _ _ _ => .trans) s
    refine hleaves.aligned ?_ hs
    rintro _ _ ⟨rfl, rfl⟩
    exact hop
  | ensureMasterKey entropy entityType entityId passphrase =>
    exact (Quiet.run (ensureMasterKey_within savesMaterial_quiet S.libs ..) s).aligned hs
  | createKey id parentId entityType entityId hardened name expiresAt =>
    obtain ⟨rfl, hpres, hkeyless⟩ := hop
    exact createKey_aligned hs hpres hkeyless ..
  | setClock now =>
    -- what is active later on is active now
    have hact : ∀ key, ActiveKey { s with now } key → ActiveKey s key :=
      fun key h => ⟨h.1, key.active_antitone hop h.2⟩
    exact ⟨hs.ids, fun key h => hs.root key (hact key h),
      fun key key' h h' => hs.unique key key' (hact key h) (hact key' h'),
      fun key h => hs.present key (hact key h)⟩
  | reportConflicts conflicts =>
    have hquiet : Quiet s { s with conflicts } := .of_eq rfl rfl rfl rfl
    exact hquiet.aligned hs

/-- A history whose operations conform keeps the store aligned. -/
lemma performAll_aligned (hs : Aligned s) {ops : List Operation}
    (hops : AllConform S s ops) : Aligned (performAll S s ops) := by
  induction ops generalizing s with
  | nil => exact hs
  | cons op ops ih => exact ih (perform_aligned S hs hops.1) hops.2

end

end LocalPlatform.Idp
