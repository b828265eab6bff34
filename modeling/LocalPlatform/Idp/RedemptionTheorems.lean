import LocalPlatform.Lib.Interleaving
import LocalPlatform.Idp.LookupTheorems
import LocalPlatform.Idp.Reference

/-!
# Concurrent redemptions of one authorization code

`consume_authorization_code` reads the row, checks it and updates it in separate engine calls.
A code is redeemed at most once in every interleaving in which each of these updates finds the
row still unconsumed. Nothing in the code ensures that: two redemptions that both read before
either of them writes both return tokens.
-/

namespace LocalPlatform.Idp

open Resumption List

/-- Any number of redemptions at the token endpoint, all about to start. -/
def redemptions {ι : Type} (S : OAuth2Service) (s : Store)
    (requests : ι → AuthorizationCodeGrantRequest × Option OAuth2ClientAuth) :
    Config ι Access Store (Except Failure TokenResponse) where
  shared := s
  threads i := (token S (.authorizationCode (requests i).1) (requests i).2).prog

/-- The rows that a code hash finds all have the number `id`. -/
def CodeNumber (hash : String) (id : Id) (s : Store) : Prop :=
  ∀ row ∈ s.authorizationCodes, row.codeHash = hash → row.id = id

/-- The code with number `id` is spent. -/
def Consumed (id : Id) (s : Store) : Prop :=
  ∀ row ∈ s.authorizationCodes, row.id = id → row.consumedAt.isSome

/-- Every row of the code comes from a row that was there before, and stays consumed. -/
def KeepsCode (hash : String) (id : Id) (s s' : Store) : Prop :=
  ∀ row' ∈ s'.authorizationCodes, row'.id = id ∨ row'.codeHash = hash →
    ∃ row ∈ s.authorizationCodes, row.id = row'.id ∧ row.codeHash = row'.codeHash ∧
      (row.consumedAt.isSome → row'.consumedAt.isSome)

/-- An update of an authorization code finds the row unconsumed. -/
def FindsUnconsumed (access : Access) (s : Store) : Prop :=
  ∀ id, access = .update .authorizationCodes id →
    ∃ row ∈ s.authorizationCodes, row.id = id ∧ row.consumedAt = none

instance (access : Access) (s : Store) : Decidable (FindsUnconsumed access s) :=
  match access with
  | .update .authorizationCodes id =>
    decidable_of_iff (∃ row ∈ s.authorizationCodes, row.id = id ∧ row.consumedAt = none)
      ⟨fun h _ heq => by cases heq; exact h, fun h => h id rfl⟩
  | .update .applications _ | .update .clients _ | .update .credentials _ | .update .keys _
  | .update .users _ | .update .userEmails _ | .update .userConsents _ | .delete _ _ | .clock
  | .select _ | .conflicts _ _ | .insert _ | .loadPrivateKey | .storePrivateKey |
    .deletePrivateKey => isTrue fun _ h => nomatch h

section
variable {hash : String} {id : Id} {s s' : Store}

lemma KeepsCode.refl (s : Store) : KeepsCode hash id s s :=
  fun row hrow _ => ⟨row, hrow, rfl, rfl, fun h => h⟩

/-- What keeps the code's row keeps the mark of its consumption. -/
lemma KeepsCode.keeps (h : KeepsCode hash id s s') :
    Keeps (CodeNumber hash id) (Consumed id) s s' := by
  constructor
  · intro hnumber row' hrow' hhash
    obtain ⟨row, hrow, hid, hrowHash, -⟩ := h row' hrow' (.inr hhash)
    rw [← hid]
    exact hnumber row hrow (hrowHash.trans hhash)
  · intro hconsumed row' hrow' hrowId
    obtain ⟨row, hrow, hid, -, hkept⟩ := h row' hrow' (.inl hrowId)
    exact hkept (hconsumed row hrow (hid.trans hrowId))

/-- The guarded update finds the code unconsumed. -/
lemma FindsUnconsumed.not_consumed {access : Access}
    (hacc : access = .update .authorizationCodes id) (h : FindsUnconsumed access s) :
    ¬Consumed id s := by
  intro hconsumed
  obtain ⟨row, hrow, hid, hnone⟩ := h id hacc
  have hsome := hconsumed row hrow hid
  rw [hnone] at hsome
  cases hsome

end

/-! ## One redemption -/

/-- A code is read as it stands in its row. -/
lemma AuthorizationCodeRow.toCode_ok {row : AuthorizationCodeRow} {code : OAuth2AuthorizationCode}
    (h : row.toCode = .ok code) :
    code.id = row.id ∧ code.clientId = row.clientId ∧ code.keyId = row.keyId ∧
      code.redirectUri = row.redirectUri ∧ json row.scopes = .ok code.scopes ∧
      code.resource = row.resource ∧ code.codeChallenge = row.codeChallenge ∧
      challengeMethod row.codeChallengeMethod = .ok code.codeChallengeMethod ∧
      timestamp "authorization code" row.expiresAt = .ok code.expiresAt := by
  simp only [AuthorizationCodeRow.toCode, except_bind_ok] at h
  obtain ⟨_, hsc, _, hmeth, _, hexpAt, _, -, _, -, _, -, hcode⟩ := h
  obtain rfl := Except.ok.inj hcode
  exact ⟨rfl, rfl, rfl, rfl, hsc, rfl, rfl, hmeth, hexpAt⟩

lemma AuthorizationCodeRow.toCode_nonce {row : AuthorizationCodeRow}
    {code : OAuth2AuthorizationCode} (h : row.toCode = .ok code) : code.nonce = row.nonce := by
  simp only [AuthorizationCodeRow.toCode, except_bind_ok] at h
  obtain ⟨_, -, _, -, _, -, _, -, _, -, _, -, hcode⟩ := h
  obtain rfl := Except.ok.inj hcode
  rfl

/-- Consuming any code keeps this one's identity. -/
lemma consumeAuthorizationCode_keepsCode (hash : String) (id id' : Id) (now : DateTime) :
    (consumeAuthorizationCode id' now).Within (KeepsCode hash id) := by
  -- the update changes no number and no hash, and only sets the time of consumption
  refine consumeAuthorizationCode_within .refl fun s row' hrow' _ => ?_
  obtain ⟨row, hrow, rfl⟩ := mem_map.mp hrow'
  refine ⟨row, hrow, ?_⟩
  split <;> simp

/-- The update that consumes the code is the critical step. -/
lemma consumeAuthorizationCode_pending (hash : String) (id : Id) (now : DateTime) :
    (consumeAuthorizationCode id now).Pending (CodeNumber hash id)
      (· = .update .authorizationCodes id) (Consumed id) := by
  refine .after _ fun _ => .after _ fun _ => .after _ fun _ => .after _ fun _ =>
    .bind (.atomic ?_ ?_) _
  · rfl
  · intro s _ row' hrow' hid
    obtain ⟨row, -, rfl⟩ := mem_map.mp hrow'
    by_cases hrow : row.id = id
    · rw [if_pos hrow]
      rfl
    · rw [if_neg hrow] at hid
      exact absurd hid hrow

/-- Looking a code up by its hash finds the number that belongs to it. -/
lemma findAuthorizationCodeByCode_ensures (L : Libraries) (code : String) (id : Id) :
    (findAuthorizationCodeByCode L code).Ensures (CodeNumber (codeHash L code) id)
      fun found => ∀ c, found = some c → c.id = id := by
  have hrows : (codeRows (·.codeHash == codeHash L code)).Ensures
      (CodeNumber (codeHash L code) id) fun rows => ∀ row ∈ rows, row.id = id := by
    refine .read fun s hs rows hrows row hrow => ?_
    obtain ⟨row', hrow', heq⟩ := exists_of_mem_mapM hrows hrow
    obtain ⟨hmem, hhash⟩ := mem_filter.mp hrow'
    obtain rfl := Except.ok.inj heq
    exact hs row' hmem (by simpa using hhash)
  refine hrows.bind fun rows hids => ?_
  split
  · rename_i row hhead
    refine .bind (Q := fun c => c.id = id) (.lift fun c hc => ?_) fun c hc =>
      (Task.Ensures.trivial _).bind fun _ _ => .pure ?_
    · rw [(AuthorizationCodeRow.toCode_ok hc).1]
      exact hids row (mem_of_mem_head? hhead)
    · rintro - ⟨⟩
      exact hc
  · exact .pure fun c hc => by cases hc

section
variable (S : OAuth2Service) (request : AuthorizationCodeGrantRequest)
  (auth : Option OAuth2ClientAuth)

/-- A redemption cannot succeed without the update of the code it was asked for. -/
lemma authorizationCodeGrant_pending (id : Id) :
    (authorizationCodeGrant S request auth).Pending (CodeNumber (codeHash S.libs request.code) id)
      (· = .update .authorizationCodes id) (Consumed id) := by
  refine .after _ fun now =>
    ((findAuthorizationCodeByCode_ensures S.libs request.code id).mapError _).bind_pending
      fun found hfound => (Task.Ensures.okOr hfound).bind_pending fun code hcode => ?_
  subst hcode
  -- the checks on the code, the principal, the client and the proof key
  exact .after _ fun _ => .after _ fun _ => .after _ fun _ => .after _ fun _ =>
    .after _ fun _ => .after _ fun _ => .after _ fun _ => .after _ fun _ => .after _ fun _ =>
    .after _ fun _ => .bind ((consumeAuthorizationCode_pending ..).mapError _) _

end

/-! ## All redemptions -/

/-- In every interleaving of any number of redemptions of one code with other tasks that do not
touch it, if each update of the code finds its row unconsumed, then at most one redemption
returns tokens. -/
theorem redemption_unique {ι : Type} [DecidableEq ι] (S : OAuth2Service) (code : String) (id : Id)
    (s₀ : Store) (requests : ι → AuthorizationCodeGrantRequest × Option OAuth2ClientAuth)
    (hcode : ∀ i, (requests i).1.code = code) (hnumber : CodeNumber (codeHash S.libs code) id s₀)
    {c : Config ι Access Store (Except Failure TokenResponse)}
    (hrun : Relation.ReflTransGen
      (Config.Step (KeepsCode (codeHash S.libs code) id) FindsUnconsumed)
      (redemptions S s₀ requests) c)
    {i j : ι} {a b : TokenResponse} (hi : c.threads i = .done (.ok a))
    (hj : c.threads j = .done (.ok b)) : i = j := by
  refine Config.success_unique
    (fun _ s hacc hguard => hguard.not_consumed hacc) (fun s s' h => h.keeps) hnumber ?_ ?_
    hrun hi hj
  · intro k
    have hwithin : (authorizationCodeGrant S (requests k).1 (requests k).2).Within
        (KeepsCode (codeHash S.libs code) id) :=
      authorizationCodeGrant_within .refl (consumeAuthorizationCode_keepsCode _ _) ..
    exact (hwithin.mono fun _ _ h => h.keeps).steps
  · intro k
    have hpend := authorizationCodeGrant_pending S (requests k).1 (requests k).2 id
    rw [hcode k] at hpend
    exact hpend.paths

/-! ## The reference installation -/

namespace Reference

/-- An unconsumed code of the client for the user. -/
def codeRow : AuthorizationCodeRow where
  id := 30
  codeHash := codeHash libraries "code"
  clientId := "app"
  keyId := 2
  redirectUri := "https://app"
  scopes := .ok []
  resource := none
  codeChallenge := none
  codeChallengeMethod := none
  nonce := none
  expiresAt := 60
  consumedAt := none
  createdAt := 0
  updatedAt := 0

/-- The store after `authorize`. -/
def codeStore : Store := { store with authorizationCodes := [codeRow] }

/-- The redemption of that code. -/
def codeRequest : AuthorizationCodeGrantRequest where
  clientId := none
  code := "code"
  codeVerifier := "verifier"
  redirectUri := none

/-- Two redemptions of the same code. -/
def twoRedemptions : Config Bool Access Store (Except Failure TokenResponse) :=
  redemptions service codeStore fun _ => (codeRequest, none)

/-- A schedule that runs one redemption after the other. -/
def oneByOne : List Bool := List.replicate 30 true ++ List.replicate 30 false

/-- A schedule that alternates between the two redemptions. -/
def takingTurns : List Bool := (List.replicate 30 [true, false]).flatten

end Reference

open Reference

/-- One redemption after the other: every update finds an unconsumed row, and only the first
returns tokens. -/
theorem redemption_unique_reference :
    ∃ c, Relation.ReflTransGen
        (Config.Step (KeepsCode (codeHash service.libs "code") 30) FindsUnconsumed)
        twoRedemptions c ∧
      (∃ a, c.threads true = .done (.ok a)) ∧
      ∀ j b, c.threads j = .done (.ok b) → true = j := by
  have hnumber : CodeNumber (codeHash service.libs "code") 30 codeStore := by
    intro row hrow _
    obtain rfl := mem_singleton.mp hrow
    rfl
  have hmeets : twoRedemptions.Meets FindsUnconsumed oneByOne := by
    decide +kernel
  have hrun := Config.schedule_reachable (KeepsCode (codeHash service.libs "code") 30) hmeets
  have hfirst : Config.Succeeded ((twoRedemptions.schedule oneByOne).threads true) = true := by
    decide +kernel
  obtain ⟨a, ha⟩ := Config.exists_of_succeeded hfirst
  exact ⟨_, hrun, ⟨a, ha⟩, fun j b hj => redemption_unique service "code" 30
    codeStore _ (fun _ => rfl) hnumber hrun ha hj⟩

/-- Two redemptions that take turns both return tokens. -/
theorem redemption_twice :
    ∃ c, Relation.ReflTransGen (Config.Step (fun _ _ => False) fun _ _ => True)
        twoRedemptions c ∧
      (∃ a, c.threads true = .done (.ok a)) ∧ ∃ b, c.threads false = .done (.ok b) := by
  refine ⟨twoRedemptions.schedule takingTurns,
    Config.schedule_reachable _ (.of_forall (fun _ _ => trivial) _ _), ?_, ?_⟩
  · exact Config.exists_of_succeeded (by decide +kernel)
  · exact Config.exists_of_succeeded (by decide +kernel)

end LocalPlatform.Idp
