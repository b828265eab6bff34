import LocalPlatform.Idp.LookupTheorems
import LocalPlatform.Idp.Reference

/-!
# What issuing tokens does

Issuing succeeds for a user principal whose signing key can be loaded, as long as the token
lifetimes stay inside the calendar, and the tokens it returns encode the claims it was given.
-/

namespace LocalPlatform.Idp

open Resumption

/-- The key material and the lifetimes needed to sign user tokens with `key`. -/
structure CanIssue (S : OAuth2Service) (s : Store) (key : Key) : Prop where
  signing_key : ∃ jwk secret, (loadSigningJwk S key).eval s = .ok jwk ∧
    signingKeyFromJwk S.libs jwk = .ok secret
  access_lifetime : (s.now.addSeconds S.oauthConfig.tokenTtlSecs).isSome
  refresh_lifetime : (s.now.addSeconds S.oauthConfig.refreshTokenTtlSecs).isSome

@[simp] lemma eval_expiry_ok {now : DateTime} {ttl : UInt64} {s : Store} {exp : ℤ} :
    (expiry now ttl).eval s = .ok exp ↔ ∃ t, now.addSeconds ttl = some t ∧ t.timestamp = exp := by
  unfold expiry
  rw [eval_bind_iff]
  simp

section
variable {S : OAuth2Service} {client : Client} {principal : Principal} {scopes : List String}
  {resource : Option String} {details : Option (List AuthorizationDetail)}
  {audience : Option String} {s : Store}

/-- What can be said of a successful issue. -/
lemma issueTokensForClient_ok {r : TokenResponse}
    (h : (issueTokensForClient S client principal scopes resource details audience).eval s =
      .ok r) :
    ∃ user key jwk exp refreshExp refreshToken idToken,
      principal = .user user key ∧ CanIssue S s key ∧ (loadSigningJwk S key).eval s = .ok jwk ∧
      r.refreshToken = some refreshToken ∧ r.idToken = some idToken ∧
      encodeJwt S.libs jwk (standardClaimsToVec S.libs
        (accessClaims S client principal scopes resource details audience s.now exp)) =
          .ok r.accessToken ∧
      encodeJwt S.libs jwk (standardClaimsToVec S.libs (refreshClaims
        (accessClaims S client principal scopes resource details audience s.now exp)
          refreshExp)) = .ok refreshToken ∧
      encodeJwt S.libs jwk (idTokenClaimsToVec S.libs
        { standardClaims := { accessClaims S client principal scopes resource details audience
            s.now exp with use := .id },
          userInfo := some (user.toUserInfo S.libs) }) = .ok idToken ∧
      (s.now.addSeconds S.oauthConfig.tokenTtlSecs).map DateTime.timestamp = some exp := by
  cases principal with
  | client c k =>
    obtain ⟨_, huser, -⟩ := eval_bind_iff.mp h
    simp [Principal.entityType] at huser
  | user u k =>
    simp only [issueTokensForClient, eval_bind_iff] at h
    obtain ⟨_, -, now, hnow, jwk, hjwk, exp, hexp, _, hacc, idToken, hidToken,
      refreshExp, hrefreshExp, refreshToken, href, h8⟩ := h
    obtain rfl : s.now = now := by simpa using hnow
    obtain ⟨t, ht, htexp⟩ := eval_expiry_ok.mp hexp
    obtain ⟨_, ht', -⟩ := eval_expiry_ok.mp hrefreshExp
    rw [eval_check_ok] at hacc hidToken href
    obtain ⟨-, -, secret, -, -, hsec, -⟩ := encodeJwt_ok hacc
    obtain rfl : _ = r := by simpa using h8
    exact ⟨u, k, jwk, exp, refreshExp, refreshToken, idToken, rfl,
      ⟨⟨jwk, secret, hjwk, hsec⟩, by simp [ht], by simp [ht']⟩, hjwk, rfl, rfl, hacc,
      href, hidToken, by simp [ht, htexp]⟩

end

variable {L : Libraries}

/-- Scopes can always be serialised. -/
lemma serializeScope_total (hL : L.Lawful) (scope : List String) :
    ∃ text, serializeScope L scope = .ok text := by
  have hitems : ∃ items, scope.mapM L.stringToJson = .ok items := by
    induction scope with
    | nil => exact ⟨[], rfl⟩
    | cons item rest ih =>
      obtain ⟨j, hj⟩ := hL.string_total item
      obtain ⟨items, hitems⟩ := ih
      exact ⟨j :: items, by simp [List.mapM_cons, hj, hitems, bind, Except.bind, pure, Except.pure]⟩
  obtain ⟨items, hitems⟩ := hitems
  exact ⟨" ".intercalate items, by simp [serializeScope, hitems, bind, Except.bind, pure, Except.pure]⟩

/-- Lawful libraries serialize all claims. -/
lemma standardClaimsToVec_total (hL : L.Lawful) (c : StandardClaims) :
    ∃ text b, serializeScope L c.scope = .ok text ∧ standardClaimsToVec L c = .ok b ∧
      L.claimsFromSlice b = .ok (c.toObject text) := by
  obtain ⟨text, htext⟩ := serializeScope_total hL c.scope
  obtain ⟨b, hb, hback⟩ := hL.claims_roundtrip (c.toObject text)
  exact ⟨text, b, htext, by simp [standardClaimsToVec, htext, hb, bind, Except.bind], hback⟩

/-- So can the claims of an ID token. -/
lemma idTokenClaimsToVec_total (hL : L.Lawful) (c : IdTokenClaims) :
    ∃ b, idTokenClaimsToVec L c = .ok b := by
  obtain ⟨text, htext⟩ := serializeScope_total hL c.standardClaims.scope
  obtain ⟨b, hb⟩ := hL.idToken_total (c.standardClaims.toObject text) c.userInfo
  exact ⟨b, by simp [idTokenClaimsToVec, htext, hb, bind, Except.bind]⟩

/-- With a usable signing key, everything that serializes can be signed. -/
lemma encodeJwt_total (hL : L.Lawful) {jwk : JwkPrivate} {secret : Bytes}
    (hsec : signingKeyFromJwk L jwk = .ok secret) (b : Bytes) :
    ∃ token, encodeJwt L jwk (.ok b) = .ok token := by
  obtain ⟨_, hhb, -⟩ := hL.header_roundtrip (jwtHeader jwk)
  simp [encodeJwt, hhb, hsec, Except.mapError, bind, Except.bind, pure, Except.pure]

/-- Issuing succeeds whenever it can. -/
lemma issueTokensForClient_total {S : OAuth2Service} (hL : S.libs.Lawful) {s : Store} {key : Key}
    (hissue : CanIssue S s key) (client : Client) (user : User) (scopes : List String)
    (resource : Option String) (details : Option (List AuthorizationDetail))
    (audience : Option String) :
    ∃ r, (issueTokensForClient S client (.user user key) scopes resource details audience).eval s =
      .ok r := by
  obtain ⟨⟨_, _, hjwk, hsec⟩, hacc, href⟩ := hissue
  obtain ⟨t, ht⟩ := Option.isSome_iff_exists.mp hacc
  obtain ⟨t', ht'⟩ := Option.isSome_iff_exists.mp href
  set access := accessClaims S client (.user user key) scopes resource details audience s.now
    t.timestamp with haccessDef
  obtain ⟨-, ab, -, hab, -⟩ := standardClaimsToVec_total hL access
  obtain ⟨ib, hib⟩ := idTokenClaimsToVec_total hL
    { standardClaims := { access with use := .id }, userInfo := some (user.toUserInfo S.libs) }
  obtain ⟨-, rb, -, hrb, -⟩ := standardClaimsToVec_total hL (refreshClaims access t'.timestamp)
  obtain ⟨_, hatok⟩ := encodeJwt_total hL hsec ab
  obtain ⟨_, hitok⟩ := encodeJwt_total hL hsec ib
  obtain ⟨_, hrtok⟩ := encodeJwt_total hL hsec rb
  unfold issueTokensForClient
  refine exists_eval_bind (a := ()) (by simp [Principal.entityType]) ?_
  refine exists_eval_bind rfl ?_
  refine exists_eval_bind hjwk ?_
  refine exists_eval_bind (eval_expiry_ok.mpr ⟨t, ht, rfl⟩) ?_
  refine exists_eval_bind (by rw [eval_check_ok, ← haccessDef, hab, hatok]) ?_
  refine exists_eval_bind (by rw [eval_check_ok, ← haccessDef, hib, hitok]) ?_
  refine exists_eval_bind (eval_expiry_ok.mpr ⟨t', ht', rfl⟩) ?_
  refine exists_eval_bind (by rw [eval_check_ok, ← haccessDef, hrb, hrtok]) ⟨_, rfl⟩

/-- The reference installation can sign with any key. -/
lemma Reference.canIssue (key : Key) : CanIssue service store key where
  signing_key := ⟨_, _, rfl, rfl⟩
  access_lifetime := by decide
  refresh_lifetime := by decide

end LocalPlatform.Idp
