import LocalPlatform.Lib.RelyGuarantee
import LocalPlatform.Storage.AccessTheorems

/-!
# The service token of the storage server

`IdpClient` asks the identity provider for a token of its own and caches it until shortly before
it expires. All requests share the cache: a call looks at it in one step and replaces the token in
a later one, when the answer is there.
-/

namespace LocalPlatform.Storage

open Resumption Idp DateTime

/-- `IdpClient`, as far as it concerns the token endpoint. -/
structure IdpClient where
  clientId : String
  clientSecret : String
  issuer : String
  audience : String

/-- The cached service token and when it runs out. -/
structure CachedToken where
  value : String
  validUntil : DateTime

namespace IdpClient

/-- The scopes the storage server asks for. -/
def serviceScopes : String := "idp.device.lookup idp.device.list idp.token.validate"

/-- A token is renewed this long before it runs out. -/
def renewalMargin : ℤ := 15 * nanosPerSecond

/-- The client credentials request of the storage server. -/
def tokenRequest (client : IdpClient) : ClientCredentialsGrantRequest :=
  ⟨client.clientId, client.clientSecret, some serviceScopes, some client.audience, none⟩

/-- `str::split_ascii_whitespace` -/
def splitAsciiWhitespace (s : String) : List String :=
  ((s.toList.splitOnP (· ∈ [' ', '\t', '\n', '\x0c', '\r'])).filter (· ≠ [])).map String.ofList

/-- `SystemTime::checked_add`; the seconds of a time have 64 bits and a sign. -/
def checkedAdd (t : DateTime) (secs : UInt64) : Option DateTime :=
  if t.timestamp + secs.toNat < 2 ^ 63 then some (t + secs.toNat * nanosPerSecond) else none

/-- What `service_access_token` makes of a response that is there at `now`. -/
def accept (client : IdpClient) (now : DateTime) (token : TokenResponse) :
    Except String CachedToken :=
  if token.tokenType ≠ .bearer ∨ token.issuer ≠ some client.issuer ∨
      ¬token.scope.any fun scope =>
        (splitAsciiWhitespace serviceScopes).all (splitAsciiWhitespace scope).contains then
    .error "IdP returned an unauthorized Storage service token"
  else match token.expiresIn with
    | none => .error "IdP service token has no expiry"
    | some expiresIn => match checkedAdd now expiresIn with
      | none => .error "IdP service token expiry is invalid"
      | some validUntil => .ok ⟨token.accessToken, validUntil⟩

/-- A call: when it looks at the cache, the response of the token endpoint or the text of the
failure, and when it is there. -/
structure Call where
  now : DateTime
  answer : Except String TokenResponse
  received : DateTime

/-- `service_access_token`: the cached token while it lasts, else a new one is asked for and cached. -/
def serviceAccessToken (client : IdpClient) (call : Call) :
    Task Unit (Option CachedToken) String String := do
  match ← Task.read () fun cache => .ok (cache.filter fun token =>
      decide (renewalMargin < token.validUntil - call.now)) with
  | some token => pure token.value
  | none =>
    let token ← Task.lift (call.answer >>= client.accept call.received)
    Task.atomic () fun _ => (.ok token.value, some token)

/-! ## What is cached -/

/-- Responses come from the identity provider, by the same clock and within the ten seconds that the
client waits. -/
def Call.FromIdp (S : OAuth2Service) (client : IdpClient) (call : Call) : Prop :=
  ∀ r, call.answer = .ok r → ∃ s auth,
    (Idp.token S (.clientCredentials client.tokenRequest) auth).eval s = .ok r ∧
      s.now ≤ call.received ∧ call.received ≤ s.now + 10 * nanosPerSecond

/-- The signed expiry is less than eleven seconds before the one in the cache. -/
def Outlasts (S : OAuth2Service) (token : CachedToken) : Prop :=
  ∃ claims, Carries S.libs token.value claims ∧
    token.validUntil < (claims.exp + 11) * nanosPerSecond

/-- The token was given in answer to the call, or expires more than four seconds after it. -/
def Usable (S : OAuth2Service) (call : Call) (value : String) : Prop :=
  (∃ r, call.answer = .ok r ∧ r.accessToken = value) ∨
    ∃ claims, Carries S.libs value claims ∧
      call.now + 4 * nanosPerSecond < claims.exp * nanosPerSecond

section
variable {S : OAuth2Service} {client : IdpClient} {call : Call} {cache : Option CachedToken}
  {r : TokenResponse} {token : CachedToken}

lemma expiresIn_of_clientCredentialsGrant {request : ClientCredentialsGrantRequest}
    {auth : Option OAuth2ClientAuth} {s : Store}
    (h : (clientCredentialsGrant S request auth).eval s = .ok r) :
    r.expiresIn = some S.oauthConfig.tokenTtlSecs := by
  simp only [clientCredentialsGrant, issueClientCredentialsAccessToken, eval_bind_iff] at h
  obtain ⟨_, -, _, -, _, -, _, -, _, -, _, -, _, -, _, -, _, -, _, -, _, -, _, -, _, -, _, -, _, -,
    _, -, _, -, _, -, _, -, _, -, _, -, _, -, _, -, hresp⟩ := h
  obtain rfl : _ = r := by simpa using hresp
  rfl

/-- The two expiries differ by the delay and by the part of a second that the provider drops. -/
lemma validUntil_lt {now received t validUntil : ℤ} {ttl : UInt64}
    (ht : addSeconds now ttl = some t) (hle : now ≤ received)
    (hdelay : received ≤ now + 10 * nanosPerSecond)
    (hvalid : checkedAdd received ttl = some validUntil) :
    validUntil < (DateTime.timestamp t + 11) * nanosPerSecond := by
  simp only [addSeconds, checkedAdd, Option.ite_none_right_eq_some, Option.some.injEq] at ht hvalid
  obtain ⟨⟨hmin, hmax, htmin, -⟩, rfl⟩ := ht
  obtain ⟨hlt, rfl⟩ := hvalid
  have hsecs : ttl.toInt64.toInt =
      if 2 * ttl.toNat < 2 ^ 64 then (ttl.toNat : ℤ) else ttl.toNat - 2 ^ 64 :=
    BitVec.toInt_eq_toNat_cond ttl.toBitVec
  simp only [DateTime.timestamp, nanosPerSecond, minTimestamp, maxDurationSeconds] at *
  -- a lifetime of 2 ^ 63 seconds or more would be a negative one for the provider
  split at hsecs <;> omega

/-- A token is cached until the lifetime its answer names. -/
lemma accept_ok {now : DateTime} (h : client.accept now r = .ok token) :
    ∃ ttl validUntil, r.expiresIn = some ttl ∧ checkedAdd now ttl = some validUntil ∧
      token = ⟨r.accessToken, validUntil⟩ := by
  unfold accept at h
  split at h
  · cases h
  split at h
  · cases h
  split at h
  · cases h
  · exact ⟨_, _, ‹_›, ‹_›, (Except.ok.inj h).symm⟩

/-- An accepted token is cached for less than eleven seconds beyond its signed expiry. -/
lemma outlasts_of_accept (hcall : call.FromIdp S client) (hans : call.answer = .ok r)
    (hacc : client.accept call.received r = .ok token) : Outlasts S token := by
  obtain ⟨s, auth, hgrant, hle, hdelay⟩ := hcall r hans
  obtain ⟨i, hiss, -⟩ := clientCredentialsGrant_issues hgrant
  obtain ⟨jwk, exp, -, hexp, hsigns, -⟩ := hiss.signed
  obtain ⟨t, ht, rfl⟩ := Option.map_eq_some_iff.mp hexp
  obtain ⟨ttl, validUntil, httl, hvalid, rfl⟩ := accept_ok hacc
  obtain rfl := Option.some.inj ((expiresIn_of_clientCredentialsGrant hgrant).symm.trans httl)
  exact ⟨_, ⟨jwk, hsigns⟩, validUntil_lt ht hle hdelay hvalid⟩

/-- A token outside the renewal margin is still valid. -/
lemma usable_of_fresh (h : Outlasts S token)
    (hfresh : renewalMargin < token.validUntil - call.now) : Usable S call token.value := by
  obtain ⟨claims, hcarr, hlt⟩ := h
  refine .inr ⟨claims, hcarr, ?_⟩
  simp only [renewalMargin, nanosPerSecond] at *
  linarith

/-! ## Calls in any order -/

/-- What is cached outlasts its token. -/
def Sound (S : OAuth2Service) (cache : Option CachedToken) : Prop :=
  ∀ token ∈ cache, Outlasts S token

/-- Every call relies on a sound cache and keeps it sound. -/
def soundly (S : OAuth2Service) : Contract Unit (Option CachedToken) where
  rely s s' := Sound S s → Sound S s'
  guarantee s s' := Sound S s → Sound S s'
  guard _ _ := True
  refl _ := id
  trans h h' := h' ∘ h

lemma stable_sound (p : Prop) : (soundly S).Stable fun s => Sound S s ∧ p :=
  fun _ _ hs => And.imp_left hs

/-- One call, whatever the others do meanwhile. -/
lemma under_serviceAccessToken (hcall : call.FromIdp S client) (hs : Sound S cache) :
    (serviceAccessToken client call).Under (soundly S)
      (fun r s => Sound S s ∧ ∀ value, r = .ok value → Usable S call value) cache := by
  refine .bind (P := fun r s => Sound S s ∧ ∀ token, r = .ok (some token) →
    Usable S call token.value) ?_ ?_ fun _ _ h => ⟨h.1, fun _ h => by cases h⟩
  · refine .read (stable_sound True) (fun _ => stable_sound _) ⟨hs, trivial⟩ fun s hs =>
      ⟨id, hs.1, fun token htoken => ?_⟩
    obtain ⟨hcached, hfresh⟩ := Option.filter_eq_some_iff.mp (Except.ok.inj htoken)
    exact usable_of_fresh (hs.1 token hcached) (of_decide_eq_true hfresh)
  · rintro found s ⟨hs, hfound⟩
    cases found with
    | some token =>
      exact .pure (stable_sound _) ⟨hs, fun _ hvalue => Except.ok.inj hvalue ▸ hfound token rfl⟩
    | none =>
      refine .bind (P := fun r s => Sound S s ∧ ∀ token, r = .ok token → Outlasts S token ∧
        Usable S call token.value) ?_ ?_ fun _ _ h => ⟨h.1, fun _ h => by cases h⟩
      · refine .lift (stable_sound _) ⟨hs, fun token htoken => ?_⟩
        obtain ⟨r, hans, hacc⟩ := except_bind_ok.mp htoken
        refine ⟨outlasts_of_accept hcall hans hacc, .inl ⟨r, hans, ?_⟩⟩
        obtain ⟨_, _, -, -, rfl⟩ := accept_ok hacc
        rfl
      · rintro token s ⟨hs, htoken⟩
        obtain ⟨hout, husable⟩ := htoken token rfl
        have hsound : Sound S (some token) := fun _ h => Option.some.inj h ▸ hout
        exact .atomic (stable_sound True) (fun _ => stable_sound _) ⟨hs, trivial⟩ fun _ _ _ =>
          ⟨fun _ => hsound, hsound, fun _ h => Except.ok.inj h ▸ husable⟩

end

/-- Any number of calls with one cache, which is empty at first. -/
def calls {ι : Type} (client : IdpClient) (call : ι → Call) :
    Config ι Unit (Option CachedToken) (Except String String) :=
  ⟨none, fun i => (serviceAccessToken client (call i)).prog⟩

/-- In every interleaving of calls whose answers come from the identity provider, a call returns
the token it was just given or one that expires more than four seconds later. -/
theorem serviceAccessToken_usable (S : OAuth2Service) (client : IdpClient) {ι : Type}
    [DecidableEq ι] (call : ι → Call) (hcalls : ∀ i, (call i).FromIdp S client)
    {c : Config ι _ _ _} (hrun : Relation.ReflTransGen (Config.Step Eq fun _ _ => True)
      (calls client call) c) {i : ι} {value : String} (hi : c.threads i = .done (.ok value)) :
    Usable S (call i) value := by
  have hstart : (calls client call).Under (fun _ => soundly S) fun i r s =>
      Sound S s ∧ ∀ value, r = .ok value → Usable S (call i) value :=
    fun i => (under_serviceAccessToken (hcalls i) fun _ h => by cases h).steps
  have hcomp : Compatible (fun _ : ι => soundly S) Eq fun _ _ => True :=
    ⟨fun _ _ _ h => h ▸ id, fun _ _ _ _ => trivial, fun _ _ _ _ _ h => h⟩
  have hend := hstart.run hcomp hrun i
  rw [hi] at hend
  exact hend.result.2 value rfl

/-! ## One call after another -/

section
variable {S : OAuth2Service} {client : IdpClient} {call : Call} {cache : Option CachedToken}
  {token : CachedToken}

/-- The cache after a sequence of calls. -/
def cacheAfter (client : IdpClient) (calls : List Call) : Option CachedToken :=
  calls.foldl (fun cache call => ((serviceAccessToken client call).run cache).2) none

/-- A cached token with more than the margin left is returned, and the answer is not looked at. -/
lemma run_of_fresh (hfresh : renewalMargin < token.validUntil - call.now) :
    (serviceAccessToken client call).run (some token) = (.ok token.value, some token) := by
  simp [serviceAccessToken, Task.run_bind, Option.filter, hfresh]

/-- Without such a token the call goes to the identity provider and caches what it is given. A call
that fails leaves the old token in the cache. -/
lemma run_of_due (hdue : ∀ token ∈ cache, token.validUntil - call.now ≤ renewalMargin) :
    (serviceAccessToken client call).run cache =
      match call.answer >>= client.accept call.received with
      | .ok token => (.ok token.value, some token)
      | .error e => (.error e, cache) := by
  have hnone : (cache.filter fun token =>
      decide (renewalMargin < token.validUntil - call.now)) = none := by
    refine Option.filter_eq_none_iff.mpr fun token htoken => ?_
    rw [decide_eq_true_eq, not_lt]
    exact hdue token htoken
  unfold serviceAccessToken
  rw [Task.run_bind, Task.run_read, hnone]
  dsimp only
  rw [Task.run_bind, Task.run_lift]
  cases call.answer >>= client.accept call.received <;> rfl

/-- By induction on the calls: each of them runs alone and keeps the cache sound. -/
lemma sound_cacheAfter {calls : List Call} (hcalls : ∀ call ∈ calls, call.FromIdp S client) :
    Sound S (cacheAfter client calls) := by
  have hstep : ∀ calls : List Call, (∀ call ∈ calls, call.FromIdp S client) → ∀ cache,
      Sound S cache → Sound S
        (calls.foldl (fun cache call => ((serviceAccessToken client call).run cache).2) cache) := by
    intro calls
    induction calls with
    | nil => exact fun _ _ h => h
    | cons call calls ih =>
      intro hcalls cache hs
      rw [List.forall_mem_cons] at hcalls
      exact ih hcalls.2 _ ((under_serviceAccessToken hcalls.1 hs).run fun _ _ => trivial).1
  exact hstep calls hcalls none fun _ h => by cases h

end

/-- After any sequence of calls, a token with more than the margin left is returned from the cache
and expires more than four seconds later; as soon as no more than the margin is left, or nothing is
cached, the next call asks the identity provider and caches its answer. -/
theorem serviceAccessToken_renewal (S : OAuth2Service) (client : IdpClient) (calls : List Call)
    (hcalls : ∀ call ∈ calls, call.FromIdp S client) (call : Call) :
    (∀ token ∈ cacheAfter client calls, renewalMargin < token.validUntil - call.now →
      (serviceAccessToken client call).run (cacheAfter client calls) =
          (.ok token.value, some token) ∧
        ∃ claims, Carries S.libs token.value claims ∧
          call.now + 4 * nanosPerSecond < claims.exp * nanosPerSecond) ∧
      ((∀ token ∈ cacheAfter client calls, token.validUntil - call.now ≤ renewalMargin) →
        (serviceAccessToken client call).run (cacheAfter client calls) =
          match call.answer >>= client.accept call.received with
          | .ok token => (.ok token.value, some token)
          | .error e => (.error e, cacheAfter client calls)) := by
  refine ⟨fun token htoken hfresh => ?_, run_of_due⟩
  obtain ⟨claims, hcarries, hlt⟩ := sound_cacheAfter hcalls token htoken
  rw [show cacheAfter client calls = some token from htoken]
  refine ⟨run_of_fresh hfresh, claims, hcarries, ?_⟩
  -- the margin covers the delay, the part of a second that is dropped and four seconds more
  simp only [renewalMargin, nanosPerSecond] at *
  linarith

/-! ## The reference installation -/

open Reference Idp.Reference

/-- The storage server of the fixtures. -/
def serviceClient : IdpClient := ⟨"batch", "secret", serviceIdp.oauthConfig.issuer, "api"⟩

/-- The provider answers the first call only. -/
def serviceCall (first : Bool) : Call :=
  ⟨0, if first then .ok serviceResponse else .error "IdP token endpoint is unavailable", 0⟩

/-- The second call finds the token of the first one. -/
theorem serviceAccessToken_usable_reference : ∃ value,
    ((calls serviceClient serviceCall).schedule [true, true, false]).threads false =
      .done (.ok value) ∧ Usable serviceIdp (serviceCall false) value := by
  obtain ⟨value, hvalue⟩ : ∃ value, ((calls serviceClient serviceCall).schedule
      [true, true, false]).threads false = .done (.ok value) :=
    Config.exists_of_succeeded (by decide +kernel)
  refine ⟨value, hvalue, serviceAccessToken_usable serviceIdp serviceClient serviceCall ?_
    (Config.schedule_reachable _ (.of_forall (fun _ _ => trivial) _ _)) hvalue⟩
  rintro (_ | _) r hans
  · cases hans
  · obtain rfl := Except.ok.inj hans
    exact ⟨serviceStore, some serviceAuth,
      eq_ok_responseOf (by decide +kernel), by decide, by decide⟩

/-- A call `secs` seconds later, when the provider is down. -/
def laterCall (secs : ℤ) : Call :=
  ⟨secs * nanosPerSecond, .error "IdP token endpoint is unavailable", secs * nanosPerSecond⟩

/-- The token of an hour is returned after fifty minutes and no more fifteen seconds before it
expires. -/
theorem serviceAccessToken_renewal_reference : ∃ token claims,
    cacheAfter serviceClient [serviceCall true] = some token ∧
      (serviceAccessToken serviceClient (laterCall 3000)).run (some token) =
        (.ok token.value, some token) ∧
      Carries serviceIdp.libs token.value claims ∧ 3004 < claims.exp ∧
      (serviceAccessToken serviceClient (laterCall 3585)).run (some token) =
        (.error "IdP token endpoint is unavailable", some token) := by
  have hcalls : ∀ call ∈ [serviceCall true], call.FromIdp serviceIdp serviceClient := by
    intro call hcall r hans
    obtain rfl := List.mem_singleton.mp hcall
    obtain rfl := Except.ok.inj hans
    exact ⟨serviceStore, some serviceAuth,
      eq_ok_responseOf (by decide +kernel), by decide, by decide⟩
  obtain ⟨token, htoken⟩ : ∃ token, cacheAfter serviceClient [serviceCall true] = some token :=
    Option.isSome_iff_exists.mp (by decide +kernel)
  have hvalid : (cacheAfter serviceClient [serviceCall true]).map (·.validUntil) =
      some (3600 * nanosPerSecond) := by decide +kernel
  rw [htoken, Option.map_some, Option.some.injEq] at hvalid
  obtain ⟨hfresh, -⟩ := serviceAccessToken_renewal serviceIdp serviceClient [serviceCall true]
    hcalls (laterCall 3000)
  obtain ⟨-, hdue⟩ := serviceAccessToken_renewal serviceIdp serviceClient [serviceCall true]
    hcalls (laterCall 3585)
  rw [htoken] at hfresh hdue
  obtain ⟨hrun, claims, hcarries, hlt⟩ := hfresh token rfl (by rw [hvalid]; decide)
  refine ⟨token, claims, htoken, hrun, hcarries, ?_, hdue ?_⟩
  · have hnanos : (3000 * 1000000000 + 4 * 1000000000 : ℤ) < claims.exp * 1000000000 := hlt
    omega
  · intro other hother
    obtain rfl := Option.some.inj hother
    rw [hvalid]
    decide

end IdpClient

end LocalPlatform.Storage
