import LocalPlatform.Idp.CodeTheorems

/-!
# Consents over time

A consent is a row for a user, a client, a redirect and a text of scopes. `approve_for_user` and
`authorize` make that text from a set of scopes, and different sets of words have different texts.
So the row for a set is there exactly when the user's latest decision on it was to approve it.
-/

namespace LocalPlatform.Idp

open Resumption Text DateTime List

/-! ## Decisions -/

/-- What a user decides on. -/
structure ConsentKey where
  userId : Id
  clientId : String
  redirectUri : String
  scopes : Finset String
deriving DecidableEq

/-- What the user last decided. -/
inductive Decision where
  | approved
  | revoked
deriving DecidableEq

/-- What a consent is about: its text is read as a set of scopes. -/
def OAuth2UserConsent.key (consent : OAuth2UserConsent) : ConsentKey where
  userId := consent.userId
  clientId := consent.clientId
  redirectUri := consent.redirectUri
  scopes := (splitWhitespace consent.scope).toFinset

/-- What a request for a client, a redirect and some scopes is about. -/
def consentKey (userId : Id) (client : Client) (redirectUri : String) (requested : List String) :
    ConsentKey where
  userId := userId
  clientId := client.clientId
  redirectUri := redirectUri
  scopes := (intersectScopes requested client.allowedScopes).toFinset

/-- The operations that concern consents, and the passing of time. -/
inductive ConsentOperation where
  | approveForUser (consentId : Id) (request : ApproveForUserRequest) (principal : Principal)
  | authorize (random : CodeRandomness) (request : AuthorizationRequest) (principal : Principal)
  | revokeUserConsent (userId consentId : Id)
  | updateClient (clientId : String) (request : ClientRegistration)
  | setClock (now : DateTime)

namespace ConsentOperation

variable (S : OAuth2Service)

/-- The store an operation leaves behind, whether it succeeds or not. -/
def perform (s : Store) : ConsentOperation → Store
  | approveForUser consentId request principal =>
    ((Idp.approveForUser S consentId request principal).run s).2
  | authorize random request principal => ((Idp.authorize S random request principal).run s).2
  | revokeUserConsent userId consentId => ((Idp.revokeUserConsent S userId consentId).run s).2
  | updateClient clientId request => ((Idp.updateClient clientId request).run s).2
  | setClock now => { s with now }

/-- The decision that an operation records, if it succeeds. -/
def decision (s : Store) : ConsentOperation → Option (ConsentKey × Decision)
  | approveForUser consentId request principal =>
    match (Idp.approveForUser S consentId request principal).eval s,
        (findClientByClientId request.clientId).eval s with
    | .ok _, .ok (some client) => some
      (consentKey principal.entityId client request.redirectUri (parseScopes request.scope),
        .approved)
    | _, _ => none
  | revokeUserConsent userId consentId =>
    match (Idp.revokeUserConsent S userId consentId).eval s,
        (findUserConsentById consentId).eval s with
    | .ok _, .ok (some consent) => some (consent.key, .revoked)
    | _, _ => none
  | authorize .. | updateClient .. | setClock .. => none

end ConsentOperation

/-- A store together with all decisions that led to it, the latest first. -/
structure ConsentRun where
  store : Store
  log : List (ConsentKey × Decision)

namespace ConsentRun

/-- One call, logged if it decided something. -/
def step (S : OAuth2Service) (r : ConsentRun) (op : ConsentOperation) : ConsentRun where
  store := op.perform S r.store
  log := (op.decision S r.store).toList ++ r.log

/-- A sequence of calls. -/
def steps (S : OAuth2Service) (r : ConsentRun) (ops : List ConsentOperation) : ConsentRun :=
  ops.foldl (step S) r

/-- The latest decision on something. -/
def latest (r : ConsentRun) (key : ConsentKey) : Option Decision :=
  (r.log.find? fun entry => entry.1 == key).map Prod.snd

end ConsentRun

/-- Every stored scope is a word: not empty and without white space. -/
def WordScopes (s : Store) : Prop :=
  ∀ row ∈ s.clients, ∀ client, row.toClient = .ok client → ∀ w ∈ client.allowedScopes, IsWord w

/-- An operation that stores words only and whose clock is in the calendar. -/
def ConsentOperation.Regular : ConsentOperation → Prop
  | .updateClient _ request => ∀ w ∈ request.allowedScopes, IsWord w
  | .setClock now => now.Representable
  | .approveForUser .. | .authorize .. | .revokeUserConsent .. => True

/-! ## Texts of scopes -/

/-- A consent that was made from words is found under another list of words exactly when it is
the same set. -/
lemma normalizeScopes_eq_iff {scopes scopes' : List String} (h : ∀ w ∈ scopes, IsWord w)
    (h' : ∀ w ∈ scopes', IsWord w) :
    normalizeScopes scopes = normalizeScopes scopes' ↔
      (splitWhitespace (normalizeScopes scopes)).toFinset = scopes'.toFinset := by
  rw [normalizeScopes, normalizeScopes, splitWhitespace_intercalate fun w hw =>
    h w (mem_sortedSet.mp hw), intercalate_sortedSet_eq_iff h h', Finset.ext_iff]
  simp only [mem_toFinset, mem_sortedSet]

/-! ## Rows -/

/-- What a row is about. -/
def ConsentRow.key (row : ConsentRow) : ConsentKey where
  userId := row.userId
  clientId := row.clientId
  redirectUri := row.redirectUri
  scopes := (splitWhitespace row.scope).toFinset

/-- The engine reports no conflict on the row. -/
def ConsentClear (s : Store) (id : Id) : Prop := (s.conflicts .userConsents id).isEmpty = true

/-- Rows of a table of consents that was written by the service only. -/
structure SoundConsents (rows : List ConsentRow) : Prop where
  normal : ∀ row ∈ rows, ∃ scopes, (∀ w ∈ scopes, IsWord w) ∧ row.scope = normalizeScopes scopes
  unique : ∀ row ∈ rows, ∀ other ∈ rows, row.id = other.id ∨ row.key = other.key → row = other
  readable : ∀ row ∈ rows, ∃ consent, row.toConsent = .ok consent

/-- Some consent without a conflict is about the key. -/
def Consented (s : Store) (key : ConsentKey) : Prop :=
  ∃ row ∈ s.userConsents, row.key = key ∧ ConsentClear s row.id

/-- Decoding keeps the columns of the consent's identity. -/
lemma ConsentRow.toConsent_ok {row : ConsentRow} {consent : OAuth2UserConsent}
    (h : row.toConsent = .ok consent) : consent.id = row.id ∧ consent.userId = row.userId ∧
      consent.clientId = row.clientId ∧ consent.redirectUri = row.redirectUri ∧
      consent.scope = row.scope := by
  simp only [ConsentRow.toConsent, except_bind_ok] at h
  obtain ⟨_, -, _, -, hcons⟩ := h
  obtain rfl := Except.ok.inj hcons
  exact ⟨rfl, rfl, rfl, rfl, rfl⟩

/-- A row decodes exactly where its timestamps do. -/
lemma ConsentRow.exists_toConsent_iff {row : ConsentRow} :
    (∃ consent, row.toConsent = .ok consent) ↔
      (minTimestamp ≤ row.createdAt ∧ row.createdAt ≤ maxTimestamp) ∧
        minTimestamp ≤ row.updatedAt ∧ row.updatedAt ≤ maxTimestamp := by
  rw [← timestamp_ok_iff "user consent", ← timestamp_ok_iff "user consent"]
  simp only [ConsentRow.toConsent, except_bind_ok]
  constructor
  · rintro ⟨_, createdAt, hcre, updatedAt, hupd, -⟩
    exact ⟨⟨createdAt, hcre⟩, updatedAt, hupd⟩
  · rintro ⟨⟨createdAt, hcre⟩, updatedAt, hupd⟩
    exact ⟨_, createdAt, hcre, updatedAt, hupd, rfl⟩

section
variable {s : Store} {predicate : ConsentRow → Bool} {consent : OAuth2UserConsent}

/-- The conflict check as a proposition. -/
lemma eval_ensureClear_consent_ok {id : Id} {u : Unit} :
    (ensureClear .userConsents id "conflicted user consent").eval s = .ok u ↔
      ConsentClear s id := by
  unfold ensureClear ConsentClear
  rw [Task.eval_read]
  split <;> simp_all

lemma eval_selectConsents :
    (selectRows .userConsents Store.userConsents predicate (fun row => .ok row)).eval s =
      .ok (s.userConsents.filter predicate) := by
  have hrows : (s.userConsents.filter predicate).mapM (fun row => (pure (id row) : RepoResult _)) =
      pure ((s.userConsents.filter predicate).map id) := mapM_pure
  rwa [map_id] at hrows

/-- What is found is the first row of the selection, if it can be read and has no conflict. -/
lemma clearConsent_some_iff :
    (clearConsent predicate).eval s = .ok (some consent) ↔
      ∃ row, s.userConsents.find? predicate = some row ∧ row.toConsent = .ok consent ∧
        ConsentClear s row.id := by
  constructor
  · intro h
    obtain ⟨_, hrows, h1⟩ := eval_bind_iff.mp h
    obtain rfl := Except.ok.inj (eval_selectConsents.symm.trans hrows)
    rw [head?_filter] at h1
    split at h1
    · rename_i row hrow
      obtain ⟨read, hread, h2⟩ := eval_bind_iff.mp h1
      obtain ⟨_, hclear, h3⟩ := eval_bind_iff.mp h2
      obtain rfl : read = consent := by simpa using h3
      rw [eval_ensureClear_consent_ok, (ConsentRow.toConsent_ok hread).1] at hclear
      exact ⟨row, hrow, hread, hclear⟩
    · simp at h1
  · rintro ⟨row, hrow, hread, hclear⟩
    refine eval_bind_iff.mpr ⟨_, eval_selectConsents, ?_⟩
    rw [head?_filter, hrow]
    refine eval_bind_iff.mpr ⟨consent, hread, ?_⟩
    refine eval_bind_iff.mpr ⟨(), ?_, rfl⟩
    rw [eval_ensureClear_consent_ok, (ConsentRow.toConsent_ok hread).1]
    exact hclear

/-- A consent that is found is a row without conflict. -/
lemma clearConsent_some (h : (clearConsent predicate).eval s = .ok (some consent)) :
    ∃ row ∈ s.userConsents, predicate row = true ∧ row.toConsent = .ok consent ∧
      ConsentClear s row.id := by
  obtain ⟨row, hfind, hread, hclear⟩ := clearConsent_some_iff.mp h
  exact ⟨row, mem_of_find?_eq_some hfind, find?_some hfind, hread, hclear⟩

/-- A readable row without a conflict is found if it is the only one that matches. -/
lemma exists_clearConsent {row : ConsentRow} (hrow : row ∈ s.userConsents)
    (hmatch : predicate row = true) (hread : ∃ consent, row.toConsent = .ok consent)
    (hclear : ConsentClear s row.id)
    (hone : ∀ other ∈ s.userConsents, predicate other = true → other = row) :
    ∃ consent, (clearConsent predicate).eval s = .ok (some consent) := by
  obtain ⟨consent, hcons⟩ := hread
  refine ⟨consent, clearConsent_some_iff.mpr ⟨row, ?_, hcons, hclear⟩⟩
  cases hfind : s.userConsents.find? predicate with
  | none => exact absurd hmatch (find?_eq_none.mp hfind row hrow)
  | some first => rw [hone first (mem_of_find?_eq_some hfind) (find?_some hfind)]

end

/-! ## What the lookups say about keys -/

section
variable {s : Store} (hsound : SoundConsents s.userConsents) {userId : Id} {client : Client}
  {redirectUri : String} {requested : List String}
  (hwords : ∀ w ∈ client.allowedScopes, IsWord w)
include hsound hwords

/-- The four columns of the query are the key of a consent. -/
lemma matches_iff_key {row : ConsentRow} (hrow : row ∈ s.userConsents) :
    row.matches userId client.clientId redirectUri
        (normalizeScopes (intersectScopes requested client.allowedScopes)) = true ↔
      row.key = consentKey userId client redirectUri requested := by
  obtain ⟨_, hsc, htext⟩ := hsound.normal row hrow
  have heffective : ∀ w ∈ intersectScopes requested client.allowedScopes, IsWord w :=
    fun w hw => hwords w (intersectScopes_subset _ _ hw)
  simp only [ConsentRow.matches, Bool.and_eq_true, beq_iff_eq, ConsentRow.key, consentKey,
    ConsentKey.mk.injEq]
  rw [htext, normalizeScopes_eq_iff hsc heffective]

/-- The consent that `authorize` asks for is found exactly when the user has consented. -/
lemma exists_findUserConsent_iff :
    (∃ consent, (findUserConsent userId client.clientId redirectUri
        (normalizeScopes (intersectScopes requested client.allowedScopes))).eval s =
          .ok (some consent)) ↔
      Consented s (consentKey userId client redirectUri requested) := by
  constructor
  · rintro ⟨_, hcons⟩
    obtain ⟨row, hrow, hmatch, -, hclear⟩ := clearConsent_some hcons
    exact ⟨row, hrow, (matches_iff_key hsound hwords hrow).mp hmatch, hclear⟩
  · rintro ⟨row, hrow, hkey, hclear⟩
    refine exists_clearConsent hrow ((matches_iff_key hsound hwords hrow).mpr hkey)
      (hsound.readable row hrow) hclear fun other hother hmatch => ?_
    have hkey' := (matches_iff_key hsound hwords hother).mp hmatch
    exact hsound.unique other hother row hrow (.inr (hkey'.trans hkey.symm))

end

/-! ## What the operations write -/

/-- The table after an existing consent was touched. -/
def touchConsent (id : Id) (updatedAt : ℤ) (s : Store) : Store :=
  { s with userConsents := s.userConsents.map fun row =>
      if row.id = id then { row with updatedAt } else row }

/-- The store after the consent's insert. -/
def addConsent (row : ConsentRow) (s : Store) : Store :=
  { s with userConsents := s.userConsents ++ [row] }

/-- A row that was made at the present time. -/
def newConsentRow (s : Store) (id userId : Id) (clientId redirectUri scope : String) : ConsentRow where
  id := id
  userId := userId
  clientId := clientId
  redirectUri := redirectUri
  scope := scope
  createdAt := s.now.timestamp
  updatedAt := s.now.timestamp

/-- The ways in which `upsert_user_consent` ends. -/
inductive Upserts (s : Store) (id userId : Id) (clientId redirectUri scope : String) {α : Type} :
    Except Failure α × Store → Prop
  | failed (e : Failure) : Upserts s id userId clientId redirectUri scope (.error e, s)
  | touched (row : ConsentRow) (updatedAt : DateTime) (a : α) (hrow : row ∈ s.userConsents)
      (hmatch : row.matches userId clientId redirectUri scope = true)
      (hclear : ConsentClear s row.id) (htime : s.now.Representable → updatedAt.Representable) :
      Upserts s id userId clientId redirectUri scope
        (.ok a, touchConsent row.id updatedAt.timestamp s)
  | inserted (a : α) (hclear : ConsentClear s id)
      (hnew : ∀ row ∈ s.userConsents,
        row.id ≠ id ∧ row.matches userId clientId redirectUri scope = false) :
      Upserts s id userId clientId redirectUri scope
        (.ok a, addConsent (newConsentRow s id userId clientId redirectUri scope) s)
  | conflicted (e : Failure) (hclear : ¬ConsentClear s id)
      (hnew : ∀ row ∈ s.userConsents,
        row.id ≠ id ∧ row.matches userId clientId redirectUri scope = false) :
      Upserts s id userId clientId redirectUri scope
        (.error e, addConsent (newConsentRow s id userId clientId redirectUri scope) s)

section
variable {S : OAuth2Service} {s : Store}

/-- The conflict check lets the call go on or ends it. -/
lemma run_ensureClear_bind_cases {α : Type} (id : Id) (f : Unit → ServiceTask α) (s : Store) :
    (ConsentClear s id ∧ (repo (ensureClear .userConsents id "conflicted user consent") >>= f).run s =
        (f ()).run s) ∨
      ¬ConsentClear s id ∧
        ∃ e, (repo (ensureClear .userConsents id "conflicted user consent") >>= f).run s =
          (.error e, s) := by
  by_cases hclear : ConsentClear s id
  · refine .inl ⟨hclear, run_bind_of_ok ?_⟩
    rw [run_reads, eval_repo_ok.mpr (eval_ensureClear_consent_ok.mpr hclear)]
  · rcases run_bind_or (repo (ensureClear ..)) f s with herror | ⟨_, hok, -⟩
    · exact .inr ⟨hclear, herror⟩
    · exact absurd (eval_ensureClear_consent_ok.mp (eval_repo_ok.mp hok)) hclear

/-- Every end of `upsert_user_consent` is one of those. -/
lemma upsertUserConsent_upserts (id userId : Id) (clientId redirectUri scope : String) :
    (upsertUserConsent S id userId clientId redirectUri scope).Gives
      (Upserts s id userId clientId redirectUri scope) s := by
  refine .after .failed fun existing hexist => ?_
  rw [eval_repo_ok] at hexist
  refine .after .failed fun now hnow => ?_
  obtain rfl : s.now = now := by simpa using hnow
  cases existing with
  | some consent =>
    obtain ⟨row, hrow, hmatch, hread, hclear⟩ := clearConsent_some hexist
    obtain ⟨hid, -⟩ := ConsentRow.toConsent_ok hread
    -- touching a row does not bring conflicts about
    have htouch : ∀ updatedAt : DateTime, (do
        repo (touchConsentRow consent.id updatedAt.timestamp)
        repo (ensureClear .userConsents consent.id "conflicted user consent")
        pure { consent with updatedAt } : ServiceTask OAuth2UserConsent).run s =
          (.ok { consent with updatedAt }, touchConsent row.id updatedAt.timestamp s) := by
      intro updatedAt
      refine run_bind_ok.mpr ⟨(), _, rfl, ?_⟩
      refine run_bind_iff.mpr ⟨(), eval_repo_ok.mpr (eval_ensureClear_consent_ok.mpr ?_), ?_⟩
      · rw [hid]
        exact hclear
      · rw [hid]
        rfl
    dsimp only
    split
    · refine .after .failed fun updatedAt hadd => ?_
      rw [Task.Gives, htouch updatedAt]
      refine .touched row updatedAt _ hrow hmatch hclear fun _ => ?_
      rw [eval_okOr_ok, addSeconds] at hadd
      split at hadd
      · rename_i hrange
        exact Option.some.inj hadd ▸ hrange.2.2
      · cases hadd
    · rw [Task.Gives]
      refine (htouch s.now.withoutNanoseconds) ▸
        .touched row s.now.withoutNanoseconds _ hrow hmatch hclear fun hnow => ?_
      rw [DateTime.Representable, timestamp_withoutNanoseconds]
      exact hnow
  | none =>
    have hrow : OAuth2UserConsent.toRow
        { id, userId, clientId, redirectUri, scope, createdAt := s.now.withoutNanoseconds,
          updatedAt := s.now.withoutNanoseconds } =
        newConsentRow s id userId clientId redirectUri scope := by
      simp only [OAuth2UserConsent.toRow, newConsentRow, timestamp_withoutNanoseconds]
    dsimp only
    rw [hrow, Task.Gives, run_bind, repo, run_mapError, insertConsentRow, run_atomic]
    split_ifs with hany
    · exact .failed _
    · have hnew : ∀ row ∈ s.userConsents,
          row.id ≠ id ∧ row.matches userId clientId redirectUri scope = false := by
        intro row hmem
        have hother := any_eq_false.mp (Bool.eq_false_iff.mpr hany) row hmem
        simpa [newConsentRow] using hother
      -- the new row stays, even if a conflict is reported on it
      change Upserts s id userId clientId redirectUri scope
        (Task.run _ (addConsent (newConsentRow s id userId clientId redirectUri scope) s))
      rcases run_ensureClear_bind_cases id _ _ with ⟨hclear, hrun⟩ | ⟨hclear, e, he⟩
      · exact hrun ▸ .inserted _ hclear hnew
      · exact he ▸ .conflicted e hclear hnew

/-- `approve_for_user` fails without a trace or upserts the consent for what was asked. -/
lemma approveForUser_cases (consentId : Id) (request : ApproveForUserRequest)
    (principal : Principal) :
    (approveForUser S consentId request principal).Gives (fun out => (∃ e, out = (.error e, s)) ∨
      ∃ client, (findClientByClientId request.clientId).eval s = .ok (some client) ∧
        principal.entityType = .user ∧ client.redirectUris.contains request.redirectUri = true ∧
        validateScopes (parseScopes request.scope) client.allowedScopes = .ok () ∧
        Upserts s consentId principal.entityId client.clientId request.redirectUri
          (normalizeScopes (intersectScopes (parseScopes request.scope) client.allowedScopes))
          out) s := by
  refine .after (fun e => .inl ⟨e, rfl⟩) fun _ huser => ?_
  refine .after (fun e => .inl ⟨e, rfl⟩) fun _ hcl => ?_
  refine .after (fun e => .inl ⟨e, rfl⟩) fun client hfound => ?_
  refine .after (fun e => .inl ⟨e, rfl⟩) fun _ huri => ?_
  refine .after (fun e => .inl ⟨e, rfl⟩) fun _ hsc => ?_
  rw [eval_okOr_ok] at hfound
  rw [hfound, eval_repo_ok] at hcl
  refine .inr ⟨client, hcl, by simpa using huser, by simpa using huri,
    eval_check_ok.mp hsc, ?_⟩
  -- the response tells nothing about how the consent was upserted
  refine (upsertUserConsent_upserts consentId principal.entityId client.clientId _ _).bind ?_ ?_
  · rintro e _ (_ | _)
    · exact .failed e
    · exact .conflicted e ‹_› ‹_›
  · rintro _ _ (_ | ⟨row, updatedAt, _, hrow, hmatch, hclear, htime⟩ | ⟨_, hclear, hnew⟩)
    · exact .touched row updatedAt _ hrow hmatch hclear htime
    · exact .inserted _ hclear hnew

/-- `revoke_user_consent` fails without a trace or removes the consent of the user that it found. -/
lemma revokeUserConsent_cases (userId consentId : Id) :
    (revokeUserConsent S userId consentId).Gives (fun out => (∃ e, out = (.error e, s)) ∨
      ∃ consent, (findUserConsentById consentId).eval s = .ok (some consent) ∧
        consent.userId = userId ∧ out = (.ok (), { s with
            userConsents := s.userConsents.filter fun row => row.id != consentId })) s := by
  refine .after (fun e => .inl ⟨e, rfl⟩) fun _ _ => ?_
  refine .after (fun e => .inl ⟨e, rfl⟩) fun _ _ => ?_
  refine .after (fun e => .inl ⟨e, rfl⟩) fun _ hcons => ?_
  refine .after (fun e => .inl ⟨e, rfl⟩) fun consent hfound => ?_
  refine .after (fun e => .inl ⟨e, rfl⟩) fun _ howner => ?_
  rw [eval_okOr_ok] at hfound
  rw [hfound, eval_repo_ok] at hcons
  rw [eval_failIf_ok, bne_eq_false_iff_eq] at howner
  refine .inr ⟨consent, hcons, howner, ?_⟩
  obtain ⟨row, -, hid, -, hclear⟩ := clearConsent_some hcons
  rw [beq_iff_eq] at hid
  have hdelete : (deleteUserConsentById consentId).run s = (.ok (), { s with
      userConsents := s.userConsents.filter fun row => row.id != consentId }) :=
    run_bind_iff.mpr ⟨(), eval_ensureClear_consent_ok.mpr (hid ▸ hclear), rfl⟩
  rw [repo, run_mapError, hdelete]
  rfl

end

/-! ## Tables stay sound -/

section
variable {s : Store} {key : ConsentKey} {row : ConsentRow}

/-- Touching a row keeps the table sound. -/
lemma SoundConsents.touch (hsound : SoundConsents s.userConsents) (id : Id) {updatedAt : DateTime}
    (htime : updatedAt.Representable) :
    SoundConsents (touchConsent id updatedAt.timestamp s).userConsents where
  normal row hrow := by
    obtain ⟨old, hold, rfl⟩ := mem_map.mp hrow
    obtain ⟨scopes, hwords, htext⟩ := hsound.normal old hold
    refine ⟨scopes, hwords, ?_⟩
    split <;> exact htext
  unique row hrow other hother hsame := by
    obtain ⟨old, hold, rfl⟩ := mem_map.mp hrow
    obtain ⟨old', hold', rfl⟩ := mem_map.mp hother
    rw [hsound.unique old hold old' hold' (by split at hsame <;> split at hsame <;> exact hsame)]
  readable row hrow := by
    obtain ⟨old, hold, rfl⟩ := mem_map.mp hrow
    have hread := hsound.readable old hold
    split
    · rw [ConsentRow.exists_toConsent_iff] at hread ⊢
      exact ⟨hread.1, htime⟩
    · exact hread

/-- Touching a row changes no consent. -/
lemma consented_touchConsent_iff (id : Id) (updatedAt : ℤ) :
    Consented (touchConsent id updatedAt s) key ↔ Consented s key := by
  constructor
  · rintro ⟨_, hrow, hkey, hclear⟩
    obtain ⟨old, hold, rfl⟩ := mem_map.mp hrow
    exact ⟨old, hold, by split at hkey <;> exact hkey, by split at hclear <;> exact hclear⟩
  · rintro ⟨_, hrow, hkey, hclear⟩
    refine ⟨_, mem_map_of_mem hrow, ?_, ?_⟩
    · split <;> exact hkey
    · split <;> exact hclear

/-- A new row with a normal scope and a new key keeps the table sound. -/
lemma SoundConsents.add (hsound : SoundConsents s.userConsents)
    (hnormal : ∃ scopes, (∀ w ∈ scopes, IsWord w) ∧ row.scope = normalizeScopes scopes)
    (hread : ∃ consent, row.toConsent = .ok consent)
    (hnew : ∀ other ∈ s.userConsents, other.id ≠ row.id ∧ other.key ≠ row.key) :
    SoundConsents (addConsent row s).userConsents where
  normal row' hrow' := by
    exact forall_mem_concat hsound.normal hnormal row' hrow'
  unique row' hrow' other hother hsame := by
    rcases mem_concat.mp hrow' with hold | rfl <;> rcases mem_concat.mp hother with hold' | rfl
    · exact hsound.unique row' hold other hold' hsame
    · exact absurd hsame (not_or.mpr (hnew row' hold))
    · exact absurd (hsame.imp Eq.symm Eq.symm) (not_or.mpr (hnew other hold'))
    · rfl
  readable row' hrow' := by
    exact forall_mem_concat hsound.readable hread row' hrow'

/-- A new row adds its consent, unless it is in conflict. -/
lemma consented_addConsent_iff (row : ConsentRow) :
    Consented (addConsent row s) key ↔ Consented s key ∨ row.key = key ∧ ConsentClear s row.id := by
  constructor
  · rintro ⟨row', hrow', hkey, hclear⟩
    rcases mem_concat.mp hrow' with hold | rfl
    · exact .inl ⟨row', hold, hkey, hclear⟩
    · exact .inr ⟨hkey, hclear⟩
  · rintro (⟨row', hrow', hkey, hclear⟩ | ⟨hkey, hclear⟩)
    · exact ⟨row', mem_append_left _ hrow', hkey, hclear⟩
    · exact ⟨row, mem_append_right _ (mem_singleton_self row), hkey, hclear⟩

/-- Rows may be deleted. -/
lemma SoundConsents.subset {rows rows' : List ConsentRow} (hsound : SoundConsents rows)
    (hsub : rows' ⊆ rows) : SoundConsents rows' where
  normal row hrow := hsound.normal row (hsub hrow)
  unique row hrow other hother := hsound.unique row (hsub hrow) other (hsub hother)
  readable row hrow := hsound.readable row (hsub hrow)

/-- Removing a row takes back the consent that it stood for. -/
lemma consented_filter_iff (hsound : SoundConsents s.userConsents) (hrow : row ∈ s.userConsents) :
    Consented { s with userConsents := s.userConsents.filter fun other => other.id != row.id } key ↔
      Consented s key ∧ row.key ≠ key := by
  constructor
  · rintro ⟨other, hother, hkey, hclear⟩
    obtain ⟨hmem, hid⟩ := mem_filter.mp hother
    refine ⟨⟨other, hmem, hkey, hclear⟩, fun hsame => ?_⟩
    obtain rfl := hsound.unique other hmem row hrow (.inr (hkey.trans hsame.symm))
    simp at hid
  · rintro ⟨⟨other, hother, hkey, hclear⟩, hne⟩
    refine ⟨other, mem_filter.mpr ⟨hother, ?_⟩, hkey, hclear⟩
    rw [bne_iff_ne]
    intro hid
    exact hne (hsound.unique other hother row hrow (.inl hid) ▸ hkey)

end

/-! ## The invariant -/

/-- The consents that are there are those whose latest decision was to approve them. -/
structure Standing (r : ConsentRun) : Prop where
  words : WordScopes r.store
  sound : SoundConsents r.store.userConsents
  clock : r.store.now.Representable
  stands : ∀ key, Consented r.store key ↔ r.latest key = some .approved

/-- A decision replaces the one before it for its key alone. -/
lemma latest_cons (s : Store) (key key' : ConsentKey) (decision : Decision)
    (log : List (ConsentKey × Decision)) :
    ConsentRun.latest ⟨s, (key, decision) :: log⟩ key' =
      if key = key' then some decision else ConsentRun.latest ⟨s, log⟩ key' := by
  unfold ConsentRun.latest
  by_cases h : key = key'
  · simp [h]
  · simp [h]

section
variable {S : OAuth2Service} {s : Store} {log : List (ConsentKey × Decision)}

variable {client : Client} {r : ConsentRun}

lemma WordScopes.of_found (h : WordScopes s) {clientId : String}
    (hcl : (findClientByClientId clientId).eval s = .ok (some client)) :
    ∀ w ∈ client.allowedScopes, IsWord w := by
  obtain ⟨row, hrow, -, hdec⟩ := clearClient_ok hcl
  exact h row hrow client hdec

/-- A new row is about what was asked. -/
lemma newConsentRow_key (hwords : ∀ w ∈ client.allowedScopes, IsWord w)
    (id userId : Id) (redirectUri : String) (requested : List String) :
    (newConsentRow s id userId client.clientId redirectUri
      (normalizeScopes (intersectScopes requested client.allowedScopes))).key =
        consentKey userId client redirectUri requested := by
  have heffective : ∀ w ∈ intersectScopes requested client.allowedScopes, IsWord w :=
    fun w hw => hwords w (intersectScopes_subset _ _ hw)
  simp only [ConsentRow.key, newConsentRow, consentKey, ConsentKey.mk.injEq, true_and]
  exact (normalizeScopes_eq_iff heffective heffective).mp rfl

section
variable (h : Standing ⟨s, log⟩)
include h

/-- The table with a new row is sound. -/
lemma Standing.sound_add
    (hwords : ∀ w ∈ client.allowedScopes, IsWord w) {id userId : Id} {redirectUri : String}
    {requested : List String} (hnew : ∀ row ∈ s.userConsents, row.id ≠ id ∧
      row.matches userId client.clientId redirectUri
        (normalizeScopes (intersectScopes requested client.allowedScopes)) = false) :
    SoundConsents (addConsent (newConsentRow s id userId client.clientId redirectUri
      (normalizeScopes (intersectScopes requested client.allowedScopes))) s).userConsents := by
  refine h.sound.add ⟨_, fun w hw => hwords w (intersectScopes_subset _ _ hw), rfl⟩
    (ConsentRow.exists_toConsent_iff.mpr ⟨h.clock, h.clock⟩) fun other hother => ?_
  obtain ⟨hid, hmatch⟩ := hnew other hother
  refine ⟨hid, fun hkey => ?_⟩
  rw [newConsentRow_key hwords, ← matches_iff_key h.sound hwords hother, hmatch] at hkey
  cases hkey

/-- An approval. -/
lemma Standing.approve (consentId : Id) (request : ApproveForUserRequest) (principal : Principal) :
    Standing (ConsentRun.step S ⟨s, log⟩ (.approveForUser consentId request principal)) := by
  -- an error records no decision, a success records the approval
  have hfailed : ∀ e s', (approveForUser S consentId request principal).run s = (.error e, s') →
      ConsentRun.step S ⟨s, log⟩ (.approveForUser consentId request principal) = ⟨s', log⟩ := by
    intro e s' hrun
    simp [ConsentRun.step, ConsentOperation.perform, ConsentOperation.decision, Task.eval, hrun]
  rcases approveForUser_cases consentId request principal with ⟨e, hrun⟩ |
    ⟨client, hcl, -, -, -, hupserts⟩
  · rw [hfailed e s hrun]
    exact h
  have hwords := h.words.of_found hcl
  have happr : ∀ a s', (approveForUser S consentId request principal).run s = (.ok a, s') →
      ConsentRun.step S ⟨s, log⟩ (.approveForUser consentId request principal) =
        ⟨s', (consentKey principal.entityId client request.redirectUri (parseScopes request.scope),
          .approved) :: log⟩ := by
    intro a s' hrun
    simp [ConsentRun.step, ConsentOperation.perform, ConsentOperation.decision,
      eval_of_run hrun, hrun, hcl]
  generalize hrun : (approveForUser S consentId request principal).run s = out at hupserts
  cases hupserts with
  | failed e =>
    rw [hfailed e s hrun]
    exact h
  | touched row updatedAt a hrow hmatch hclear htime =>
    rw [happr a _ hrun]
    have hkey := (matches_iff_key h.sound hwords hrow).mp hmatch
    refine ⟨h.words, h.sound.touch row.id (htime h.clock), h.clock, fun key => ?_⟩
    rw [consented_touchConsent_iff, latest_cons, h.stands key]
    split
    · rename_i hsame
      exact iff_of_true ((h.stands key).mp ⟨row, hrow, hkey.trans hsame, hclear⟩) rfl
    · rfl
  | inserted a hclear hnew =>
    rw [happr a _ hrun]
    refine ⟨h.words, h.sound_add hwords hnew, h.clock, fun key => ?_⟩
    rw [consented_addConsent_iff, newConsentRow_key hwords, latest_cons, h.stands key]
    split
    · rename_i hsame
      exact iff_of_true (.inr ⟨hsame, hclear⟩) rfl
    · rename_i hother
      exact or_iff_left fun hsame => hother hsame.1
  | conflicted e hclear hnew =>
    rw [hfailed e _ hrun]
    refine ⟨h.words, h.sound_add hwords hnew, h.clock, fun key => ?_⟩
    rw [consented_addConsent_iff, h.stands key]
    exact or_iff_left fun hsame => hclear hsame.2

/-- A revocation. -/
lemma Standing.revoke (userId consentId : Id) :
    Standing (ConsentRun.step S ⟨s, log⟩ (.revokeUserConsent userId consentId)) := by
  rcases revokeUserConsent_cases (S := S) (s := s) userId consentId with ⟨e, hrun⟩ |
    ⟨consent, hcons, -, hrun⟩
  · have hstep : ConsentRun.step S ⟨s, log⟩ (.revokeUserConsent userId consentId) = ⟨s, log⟩ := by
      simp [ConsentRun.step, ConsentOperation.perform, ConsentOperation.decision, Task.eval, hrun]
    rw [hstep]
    exact h
  · obtain ⟨row, hrow, hid, hread, -⟩ := clearConsent_some hcons
    obtain ⟨-, huser, hcl, hredirect, hscope⟩ := ConsentRow.toConsent_ok hread
    rw [beq_iff_eq] at hid
    subst hid
    have hkey : consent.key = row.key := by
      simp only [OAuth2UserConsent.key, ConsentRow.key, huser, hcl, hredirect, hscope]
    have hstep : ConsentRun.step S ⟨s, log⟩ (.revokeUserConsent userId row.id) =
        ⟨{ s with userConsents := s.userConsents.filter fun other => other.id != row.id },
          (row.key, .revoked) :: log⟩ := by
      simp [ConsentRun.step, ConsentOperation.perform, ConsentOperation.decision, eval_of_run hrun,
        hrun, hcons, hkey]
    rw [hstep]
    refine ⟨h.words, h.sound.subset (filter_subset_self _), h.clock, fun key => ?_⟩
    rw [consented_filter_iff h.sound hrow, latest_cons, h.stands key]
    by_cases hsame : row.key = key
    · simp [hsame]
    · rw [if_neg hsame]
      exact and_iff_left hsame

end

/-- An authorization writes codes only. -/
lemma authorize_onlyCodes (random : CodeRandomness) (request : AuthorizationRequest)
    (principal : Principal) : (authorize S random request principal).Within OnlyCodes :=
  authorize_within onlyCodes_refl (fun _ => .atomic fun s => by split <;> rfl) ..

/-- Only the clients change, and only to scopes that are words. -/
def KeepsWords (s s' : Store) : Prop :=
  s' = { s with clients := s'.clients } ∧ (WordScopes s → WordScopes s')

/-- An update with words as scopes keeps all scopes words. -/
lemma updateClient_keepsWords (clientId : String) {request : ClientRegistration}
    (hwords : ∀ w ∈ request.allowedScopes, IsWord w) :
    (updateClient clientId request).Within KeepsWords := by
  refine updateClient_within (fun s => ⟨rfl, fun h => h⟩) clientId fun _ _ _ _ _ s => ⟨rfl, ?_⟩
  intro hold row hrow client hdec
  obtain ⟨old, hmem, rfl⟩ := mem_map.mp hrow
  split at hdec
  · -- the updated row spells out the scopes of the request
    obtain ⟨-, -, -, -, -, hsc, -⟩ := ClientRow.toClient_ok hdec
    have hsame : request.allowedScopes = client.allowedScopes := json_ok.mp hsc
    exact hsame ▸ hwords
  · exact hold old hmem client hdec

/-- One operation. -/
lemma Standing.step (h : Standing r) {op : ConsentOperation} (hop : op.Regular) :
    Standing (r.step S op) := by
  cases op with
  | approveForUser consentId request principal => exact h.approve consentId request principal
  | revokeUserConsent userId consentId => exact h.revoke userId consentId
  | authorize random request principal =>
    have hcodes : OnlyCodes r.store (r.step S (.authorize random request principal)).store :=
      (authorize_onlyCodes random request principal).run onlyCodes_refl
        (fun _ _ _ => onlyCodes_trans) r.store
    constructor
    · rw [hcodes]
      exact h.words
    · rw [hcodes]
      exact h.sound
    · rw [hcodes]
      exact h.clock
    · intro key
      rw [hcodes]
      exact h.stands key
  | updateClient clientId request =>
    have hkeeps : KeepsWords r.store (r.step S (.updateClient clientId request)).store :=
      (updateClient_keepsWords clientId hop).run (fun s => ⟨rfl, fun h => h⟩)
        (fun a b c hab hbc => ⟨by rw [hbc.1, hab.1], fun h => hbc.2 (hab.2 h)⟩) r.store
    constructor
    · exact hkeeps.2 h.words
    · rw [hkeeps.1]
      exact h.sound
    · rw [hkeeps.1]
      exact h.clock
    · intro key
      rw [hkeeps.1]
      exact h.stands key
  | setClock now => exact ⟨h.words, h.sound, hop, h.stands⟩

/-- A whole run. -/
lemma Standing.steps (h : Standing r) {ops : List ConsentOperation}
    (hops : ∀ op ∈ ops, op.Regular) : Standing (r.steps S ops) := by
  induction ops generalizing r with
  | nil => exact h
  | cons op ops ih =>
    exact ih (h.step (hops op mem_cons_self)) fun op' hop' =>
      hops op' (mem_cons_of_mem op hop')

/-- At the start nobody has decided anything. -/
lemma Standing.initial (hwords : WordScopes s) (hclock : s.now.Representable)
    (hconsents : s.userConsents = []) : Standing ⟨s, []⟩ where
  words := hwords
  sound := by
    rw [hconsents]
    exact ⟨by simp, by simp, by simp⟩
  clock := hclock
  stands key := by
    refine iff_of_false ?_ (by simp [ConsentRun.latest])
    rintro ⟨_, hrow, -⟩
    simp [hconsents] at hrow

end

/-! ## Codes -/

/-- Both requests ask for the same client, redirect and set of scopes. -/
structure AsksFor (clientId redirectUri scope : String) (a : AuthorizationRequest) : Prop where
  client : a.clientId = clientId
  redirect : a.redirectUri = some redirectUri
  scopes : ∀ w, w ∈ requestedScopes a.scope ↔ w ∈ parseScopes scope

/-- The checks of `authorize` that do not concern consent. -/
def PassesOtherChecks (S : OAuth2Service) (a : AuthorizationRequest) (client : Client) : Prop :=
  validateResponseType a client = .ok () ∧
    validatePkce a client S.oauthConfig.requirePkce = .ok ()

/-- Nothing is in the way of a new code. -/
structure CodeFits (S : OAuth2Service) (random : CodeRandomness) (s : Store) : Prop where
  expiry : ∃ t, s.now.addSeconds S.oauthConfig.authorizationCodeTtlSecs = some t
  fresh : ∀ row ∈ s.authorizationCodes,
    row.id ≠ random.id ∧ row.codeHash ≠ codeHash S.libs random.code
  clear : (s.conflicts .authorizationCodes random.id).isEmpty = true

section
variable {S : OAuth2Service} {s : Store} {a : AuthorizationRequest} {principal : Principal}

/-- Effective scopes depend on the set of requested ones only. -/
lemma mem_intersectScopes_congr {requested requested' : List String}
    (h : ∀ w, w ∈ requested ↔ w ∈ requested') (allowed : List String) (w : String) :
    w ∈ intersectScopes requested allowed ↔ w ∈ intersectScopes requested' allowed := by
  have hempty : requested.isEmpty = requested'.isEmpty := by
    rw [Bool.eq_iff_iff, List.isEmpty_iff, List.isEmpty_iff, List.eq_nil_iff_forall_not_mem,
      eq_nil_iff_forall_not_mem]
    exact forall_congr' fun w => not_congr (h w)
  unfold intersectScopes
  rw [hempty]
  split
  · rfl
  · rw [mem_filter, mem_filter, h w]

/-- With everything else in order, a request passes the check exactly when the consent it needs is
found. -/
lemma exists_checkAuthorization_iff {client : Client} {clientId redirectUri scope : String}
    (hcl : (findClientByClientId clientId).eval s = .ok (some client))
    (hasks : AsksFor clientId redirectUri scope a) (hother : PassesOtherChecks S a client) :
    (∃ result, (checkAuthorization S a principal).eval s = .ok result) ↔
      principal.entityType = .user ∧ client.redirectUris.contains redirectUri = true ∧
        validateScopes (parseScopes scope) client.allowedScopes = .ok () ∧
        ∃ consent, (findUserConsent principal.entityId client.clientId redirectUri
          (normalizeScopes (intersectScopes (parseScopes scope) client.allowedScopes))).eval s =
            .ok (some consent) := by
  have hsc : validateScopes (requestedScopes a.scope) client.allowedScopes = .ok () ↔
      validateScopes (parseScopes scope) client.allowedScopes = .ok () := by
    simp only [validateScopes_ok, hasks.scopes]
  -- consents are found by the sorted scopes, so their order in the request does not matter
  have htext : normalizeScopes (intersectScopes (requestedScopes a.scope) client.allowedScopes) =
      normalizeScopes (intersectScopes (parseScopes scope) client.allowedScopes) := by
    rw [normalizeScopes, normalizeScopes,
      sortedSet_congr (mem_intersectScopes_congr hasks.scopes client.allowedScopes)]
  have huri : ∀ uri, resolveRedirectUri a client = .ok uri ↔
      client.redirectUris.contains redirectUri = true ∧ uri = redirectUri := by
    intro uri
    rw [resolveRedirectUri, hasks.redirect]
    dsimp only
    split
    · rename_i hcont
      rw [Except.ok.injEq, and_iff_right hcont, eq_comm]
    · rename_i hmiss
      exact iff_of_false (by simp) fun h => hmiss h.1
  constructor
  · rintro ⟨⟨found, uri, _⟩, hcheck⟩
    obtain ⟨hfound, hvalid, hresv, rfl, huser, hcons⟩ := checkAuthorization_ok_iff.mp hcheck
    rw [hasks.client, hcl] at hfound
    obtain rfl : client = found := by simpa using hfound
    obtain ⟨-, -, -, -, hscope⟩ := validateAuthorizationRequest_ok_iff.mp hvalid
    obtain ⟨hcont, rfl⟩ := (huri uri).mp hresv
    exact ⟨huser, hcont, hsc.mp hscope, htext ▸ hcons⟩
  · rintro ⟨huser, hcont, hscope, hcons⟩
    have hresv := (huri redirectUri).mpr ⟨hcont, rfl⟩
    refine ⟨(client, redirectUri, _), checkAuthorization_ok_iff.mpr ⟨?_, ?_, hresv, rfl, huser, ?_⟩⟩
    · rw [hasks.client]
      exact hcl
    · refine validateAuthorizationRequest_ok_iff.mpr
        ⟨?_, hother.1, ⟨redirectUri, hresv⟩, hother.2, hsc.mpr hscope⟩
      rw [hasks.client, findClientByClientId_clientId hcl]
    · rw [htext]
      exact hcons

/-- `is_allowed_for_user` answers true exactly when the consent is found. -/
lemma isAllowedForUser_iff {request : IsAllowedForUserRequest} :
    (isAllowedForUser request principal).eval s = .ok { allowed := true } ↔
      ∃ client, (findClientByClientId request.clientId).eval s = .ok (some client) ∧
        principal.entityType = .user ∧ client.redirectUris.contains request.redirectUri = true ∧
        validateScopes (parseScopes request.scope) client.allowedScopes = .ok () ∧
        ∃ consent, (findUserConsent principal.entityId client.clientId request.redirectUri
          (normalizeScopes (intersectScopes (parseScopes request.scope)
            client.allowedScopes))).eval s = .ok (some consent) := by
  unfold isAllowedForUser
  constructor
  · intro h
    simp only [eval_bind_iff] at h
    obtain ⟨_, huser, client?, hcl?, client, hcl, h3⟩ := h
    split at h3
    · simp at h3
    · rename_i hcont
      obtain ⟨_, hsc, h4⟩ := eval_bind_iff.mp h3
      obtain ⟨consent?, hcons?, h5⟩ := eval_bind_iff.mp h4
      simp only [eval_check_ok, eval_repo_ok, eval_okOr_ok, eval_failIf_ok] at *
      subst hcl
      obtain ⟨consent, rfl⟩ : ∃ consent, consent? = some consent := by
        rw [← Option.isSome_iff_exists]
        simpa using h5
      exact ⟨client, hcl?, by simpa using huser, by simpa using hcont, hsc, consent,
        hcons?⟩
  · rintro ⟨client, hcl, huser, hcont, hsc, consent, hcons⟩
    refine eval_bind_iff.mpr ⟨(), eval_failIf_ok.mpr (by simpa using huser), ?_⟩
    refine eval_bind_iff.mpr ⟨some client, eval_repo_ok.mpr hcl, ?_⟩
    refine eval_bind_iff.mpr ⟨client, eval_okOr_ok.mpr rfl, ?_⟩
    rw [hcont]
    refine eval_bind_iff.mpr ⟨(), eval_check_ok.mpr hsc, ?_⟩
    exact eval_bind_iff.mpr ⟨some consent, eval_repo_ok.mpr hcons, rfl⟩

variable {random : CodeRandomness}

/-- A code that fits is created. -/
lemma exists_createAuthorizationCode (hfits : CodeFits S random s)
    (clientId : String) (keyId : Id) (redirectUri : String) (scopes : List String)
    (resource challenge : Option String) (method : Option CodeChallengeMethod)
    (nonce : Option String) (expiresAt : DateTime) :
    ∃ code s', (createAuthorizationCode S.libs random clientId keyId redirectUri scopes resource
      challenge method nonce expiresAt).run s = (.ok code, s') := by
  have hins : ∀ row : AuthorizationCodeRow, row.id = random.id →
      row.codeHash = codeHash S.libs random.code → (insertCodeRow S.libs row).run s =
        (.ok (), { s with authorizationCodes := s.authorizationCodes ++ [row] }) := by
    intro row hid hhash
    refine if_neg ?_
    rw [any_eq_true]
    rintro ⟨other, hother, hsame⟩
    obtain ⟨hid', hhash'⟩ := hfits.fresh other hother
    simp [hid, hhash, hid', hhash'] at hsame
  refine ⟨_, _, run_bind_iff.mpr ⟨s.now, eval_utcNow s, run_bind_ok.mpr ⟨(), _, hins _ rfl rfl,
      run_bind_iff.mpr ⟨(), ?_, rfl⟩⟩⟩⟩
  exact if_pos hfits.clear

/-- What passes the check gets a code. -/
lemma exists_authorize (hfits : CodeFits S random s)
    (hcheck : ∃ result, (checkAuthorization S a principal).eval s = .ok result) :
    ∃ response, (authorize S random a principal).eval s = .ok response := by
  obtain ⟨⟨client, redirectUri, scopes⟩, hcheck⟩ := hcheck
  obtain ⟨expiresAt, hexpAt⟩ := hfits.expiry
  refine exists_eval_bind hcheck ?_
  refine exists_eval_bind (eval_utcNow s) ?_
  refine exists_okOr_bind hexpAt ?_
  obtain ⟨code, s', hcreate⟩ := exists_createAuthorizationCode hfits client.clientId
    principal.key.id redirectUri scopes a.resource a.codeChallenge a.codeChallengeMethod a.nonce
    expiresAt
  refine ⟨_, eval_of_run (run_bind_ok.mpr ⟨code, s', ?_, rfl⟩)⟩
  rw [repo, run_mapError, hcreate]
  rfl

end

/-! ## Runs -/

/-- A run that starts without consents, with words as scopes. -/
def ConsentRun.Reached (S : OAuth2Service) (r : ConsentRun) : Prop :=
  ∃ s ops, WordScopes s ∧ s.now.Representable ∧ s.userConsents = [] ∧
    (∀ op ∈ ops, op.Regular) ∧ r = ConsentRun.steps S ⟨s, []⟩ ops

/-- What holds between decisions, codes and the answers of `is_allowed_for_user`. -/
structure ConsentLaw (S : OAuth2Service) (r : ConsentRun) : Prop where
  /-- A code is returned only if the latest decision on its scopes was to approve them. -/
  code_approved : ∀ random a principal response,
    (authorize S random a principal).eval r.store = .ok response → ∃ client redirectUri,
      (findClientByClientId a.clientId).eval r.store = .ok (some client) ∧
      resolveRedirectUri a client = .ok redirectUri ∧
      r.latest (consentKey principal.entityId client redirectUri (requestedScopes a.scope)) =
        some .approved
  /-- After an approval that was not revoked since, a code is returned for every spelling of the
  same scopes, while the client is as it was. -/
  approval_stands : ∀ consentId request principal response client later r',
    (approveForUser S consentId request principal).eval r.store = .ok response →
    (findClientByClientId request.clientId).eval r.store = .ok (some client) →
    (∀ op ∈ later, ConsentOperation.Regular op) →
    r' = (r.step S (.approveForUser consentId request principal)).steps S later →
    r'.latest (consentKey principal.entityId client request.redirectUri
      (parseScopes request.scope)) ≠ some .revoked →
    (findClientByClientId request.clientId).eval r'.store = .ok (some client) →
    ∀ random a principal', AsksFor request.clientId request.redirectUri request.scope a →
      PassesOtherChecks S a client → CodeFits S random r'.store →
      principal'.entityType = .user → principal'.entityId = principal.entityId →
      ∃ response', (authorize S random a principal').eval r'.store = .ok response'
  /-- The answer is true exactly when the consent check passes. -/
  allowed_iff : ∀ (request : IsAllowedForUserRequest) a principal,
    AsksFor request.clientId request.redirectUri request.scope a →
    (∀ client, (findClientByClientId request.clientId).eval r.store = .ok (some client) →
      PassesOtherChecks S a client) →
    ((isAllowedForUser request principal).eval r.store = .ok { allowed := true } ↔
      ∃ result, (checkAuthorization S a principal).eval r.store = .ok result)

section
variable {S : OAuth2Service} {r : ConsentRun}

/-- Decisions are not forgotten. -/
lemma latest_ne_none {key : ConsentKey} (h : r.latest key ≠ none)
    (ops : List ConsentOperation) : (r.steps S ops).latest key ≠ none := by
  induction ops generalizing r with
  | nil => exact h
  | cons op ops ih =>
    refine ih ?_
    cases hdecision : op.decision S r.store with
    | none => simpa [ConsentRun.step, ConsentRun.latest, hdecision] using h
    | some entry =>
      rw [ConsentRun.step, hdecision, Option.toList_some, singleton_append, latest_cons]
      split
      · simp
      · exact h

variable {random : CodeRandomness} {a : AuthorizationRequest} {principal : Principal}

/-- A code needs the latest decision to be an approval. -/
lemma Standing.code_approved (h : Standing r) {response : AuthorizationCodeResponse}
    (hcode : (authorize S random a principal).eval r.store = .ok response) :
    ∃ client redirectUri, (findClientByClientId a.clientId).eval r.store = .ok (some client) ∧
      resolveRedirectUri a client = .ok redirectUri ∧
      r.latest (consentKey principal.entityId client redirectUri (requestedScopes a.scope)) =
        some .approved := by
  obtain ⟨-, client, redirectUri, _, -, hcheck, -⟩ := authorize_ok (run_of_eval hcode)
  obtain ⟨hcl, -, huri, rfl, -, hcons⟩ := checkAuthorization_ok_iff.mp hcheck
  refine ⟨client, redirectUri, hcl, huri, (h.stands _).mp ?_⟩
  exact (exists_findUserConsent_iff h.sound (h.words.of_found hcl)).mp hcons

end

/-- Consent governs codes, in every run. -/
theorem consent_governs_codes (S : OAuth2Service) {r : ConsentRun} (hreached : r.Reached S) :
    ConsentLaw S r := by
  obtain ⟨s, ops, hwords, hclock, hconsents, hops, rfl⟩ := hreached
  have hstanding : Standing (.steps S ⟨s, []⟩ ops) :=
    (Standing.initial hwords hclock hconsents).steps hops
  refine ⟨fun random a principal response hcode => hstanding.code_approved hcode, ?_, ?_⟩
  · rintro consentId request principal response client later _ happrove hcl hlater rfl hlatest
      hcl' random a principal' hasks hother hfits huser hsame
    have hstanding' : Standing (((ConsentRun.steps S ⟨s, []⟩ ops).step S
        (.approveForUser consentId request principal)).steps S later) :=
      (hstanding.approve consentId request principal).steps hlater
    -- the approval is in the log
    have hrec : ((ConsentRun.steps S ⟨s, []⟩ ops).step S
        (.approveForUser consentId request principal)).latest
          (consentKey principal.entityId client request.redirectUri (parseScopes request.scope)) ≠
        none := by
      rw [ConsentRun.step]
      simp [ConsentOperation.decision, happrove, hcl, ConsentRun.latest]
    have happr := latest_ne_none (S := S) hrec later
    rcases approveForUser_cases consentId
      request principal with ⟨e, he⟩ | ⟨found, hfound, -, hcont, hsc, -⟩
    · rw [Task.eval, he] at happrove
      cases happrove
    obtain rfl : client = found := by simpa [hcl] using hfound
    refine exists_authorize hfits ((exists_checkAuthorization_iff hcl' hasks hother).mpr
      ⟨huser, hcont, hsc, ?_⟩)
    rw [exists_findUserConsent_iff hstanding'.sound (hstanding'.words.of_found hcl')]
    refine (hstanding'.stands _).mpr ?_
    rw [hsame]
    cases hdecision : ConsentRun.latest _ _ with
    | none => exact absurd hdecision happr
    | some decision =>
      cases decision with
      | approved => rfl
      | revoked => exact absurd hdecision hlatest
  · intro request a principal hasks hother
    rw [isAllowedForUser_iff]
    constructor
    · rintro ⟨client, hcl, hrest⟩
      exact (exists_checkAuthorization_iff hcl hasks (hother client hcl)).mpr hrest
    · rintro ⟨result, hcheck⟩
      obtain ⟨client, _, _⟩ := result
      have hcl := (checkAuthorization_ok_iff.mp hcheck).1
      rw [hasks.client] at hcl
      exact ⟨client, hcl, (exists_checkAuthorization_iff hcl hasks
        (hother client hcl)).mp ⟨_, hcheck⟩⟩

/-! ## The reference installation -/

namespace Reference

/-- The installation before the user has decided anything. -/
def undecidedStore : Store := { consentStore with userConsents := [] }

/-- The user approves both scopes of the client. -/
def approval : ConsentOperation :=
  .approveForUser 50 { clientId := "app", redirectUri := "https://app", scope := "read  write read" }
    principal

lemma undecidedStore_words : WordScopes undecidedStore := by
  intro row hrow found hdec
  obtain rfl := mem_singleton.mp hrow
  obtain ⟨-, -, -, -, -, hsc, -⟩ := ClientRow.toClient_ok hdec
  have hsame : ["read", "write"] = found.allowedScopes := json_ok.mp hsc
  rw [← hsame]
  intro w hw
  have hcases : w = "read" ∨ w = "write" := by simpa using hw
  rcases hcases with rfl | rfl <;> exact ⟨by decide, by simp [isWhitespace]⟩

/-- The client with the empty text as its only scope. -/
def emptyScopeClient : Client := { scopedClient with allowedScopes := [""] }

/-- A client that is allowed no scope at all. -/
def emptyScopeStore : Store := { undecidedStore with clients := [emptyScopeClient.toRow] }

/-- The user approves that scope, and the client is left with no scope at all. -/
def emptyScopeOperations : List ConsentOperation :=
  [.approveForUser 50 { clientId := "app", redirectUri := "https://app", scope := "" } principal,
    .updateClient "app" { emptyScopeClient.toRegistration with allowedScopes := [] }]

end Reference

open Reference

/-- After the approval, the user gets a code for another spelling of the scopes. -/
theorem consent_governs_codes_reference :
    ConsentLaw shortService
        (ConsentRun.steps shortService ⟨undecidedStore, []⟩
          [approval]) ∧
      ((authorize shortService codeRandomness authorizationRequest
        principal).eval (ConsentRun.steps shortService
          ⟨undecidedStore, []⟩ [approval]).store).isOk = true := by
  refine ⟨consent_governs_codes shortService ⟨undecidedStore, [approval], undecidedStore_words,
      ⟨by decide, by decide⟩, rfl, ?_, rfl⟩, by decide +kernel⟩
  intro op hop
  obtain rfl := mem_singleton.mp hop
  trivial

/-- A scope that is the empty text has no white space in it. An approval of that scope is taken
for an approval of no scopes, on which the user has never decided. -/
theorem empty_scope_confuses_consents :
    (∀ w ∈ emptyScopeClient.allowedScopes, ∀ c ∈ w.toList, isWhitespace c = false) ∧
      ((findClientByClientId "app").eval (ConsentRun.steps shortService
        ⟨emptyScopeStore, []⟩ emptyScopeOperations).store).map
          (Option.map Client.allowedScopes) = .ok (some []) ∧
      ((authorize shortService codeRandomness
        { authorizationRequest with scope := none } principal).eval
          (ConsentRun.steps shortService ⟨emptyScopeStore, []⟩
            emptyScopeOperations).store).isOk = true ∧
      (ConsentRun.steps shortService ⟨emptyScopeStore, []⟩
        emptyScopeOperations).latest
          (consentKey 1 { emptyScopeClient with allowedScopes := [] } "https://app" []) =
        none := by
  exact ⟨by simp [emptyScopeClient], by decide +kernel, by decide +kernel, by decide +kernel⟩

end LocalPlatform.Idp
