import LocalPlatform.Oidc.Signin

/-!
# States of sign-ins

The browser client checks the state of a callback that carries a code, and of no other. As long as
no callback carries tokens of its own, every storing of tokens is for a state that the client has
issued and that no callback has used before. A callback with tokens of its own has them stored
whatever its state is.
-/

namespace LocalPlatform.Oidc

open Idp List Option

/-! ## Keys of the storage -/

section Keys
variable (config : SigninConfig)

lemma getPkceStorageKey_ne_last (state : String) :
    config.getPkceStorageKey state ≠ config.getPkceLastStorageKey := by
  intro heq
  have hlist := congrArg String.toList heq
  simp [SigninConfig.getPkceStorageKey, SigninConfig.getPkceLastStorageKey,
    String.toList_append] at hlist

lemma getPkceStorageKey_ne_token (state : String) :
    config.getPkceStorageKey state ≠ config.getTokenStorageKey := by
  intro heq
  have hlist := congrArg String.toList heq
  simp [SigninConfig.getPkceStorageKey, SigninConfig.pkceStoragePrefix,
    SigninConfig.getTokenStorageKey, SigninConfig.tokenStoragePrefix, String.toList_append] at hlist

lemma getPkceLastStorageKey_ne_token :
    config.getPkceLastStorageKey ≠ config.getTokenStorageKey := by
  intro heq
  have hlist := congrArg String.toList heq
  simp [SigninConfig.getPkceLastStorageKey, SigninConfig.pkceStoragePrefix,
    SigninConfig.getTokenStorageKey, SigninConfig.tokenStoragePrefix, String.toList_append] at hlist

/-- Each state has a key of its own. -/
lemma getPkceStorageKey_injective : Function.Injective config.getPkceStorageKey := by
  intro state state' heq
  have hlist := congrArg String.toList heq
  simp only [SigninConfig.getPkceStorageKey, String.toList_append, append_right_inj] at hlist
  exact String.toList_injective hlist

end Keys

/-! ## Verifiers and outstanding states -/

section
variable {config : SigninConfig} {P : Platform} {b : Browser} {outstanding : String → Bool}
  {w : World} {state : String}

/-- The client or the storage has the verifier for the state. -/
def Browser.Has (config : SigninConfig) (b : Browser) (state codeVerifier : String) : Prop :=
  codeVerifier ∈ b.pkceVerifiersByState state ∨
    ∃ storage ∈ b.storage, codeVerifier ∈ storage (config.getPkceStorageKey state)

section Has
variable {s verifier : String}

lemma Browser.Has.of_reload (h : b.reload.Has config s verifier) : b.Has config s verifier :=
  .inr (by simpa [Browser.Has, Browser.reload] using h)

lemma Browser.Has.of_rememberTokenResponse {tokenResponse : OidcTokenResponse}
    (h : (rememberTokenResponse config P tokenResponse b).Has config s verifier) :
    b.Has config s verifier := by
  refine h.imp id ?_
  rintro ⟨_, hstor, hver⟩
  obtain ⟨storage', hstor', rfl⟩ := mem_map.mp hstor
  have hkey := getPkceStorageKey_ne_token config s
  exact ⟨storage', hstor', by simpa [LocalStorage.setItem, hkey] using hver⟩

variable {state codeVerifier : String}

/-- A remembered verifier is the new one or an old one of another state. -/
lemma Browser.Has.of_rememberPkceVerifier
    (h : (rememberPkceVerifier config state codeVerifier b).Has config s verifier) :
    (s = state ∧ verifier = codeVerifier) ∨ (s ≠ state ∧ b.Has config s verifier) := by
  have hkey := getPkceStorageKey_ne_last config s
  by_cases hs : s = state
  · subst hs
    refine .inl ⟨rfl, ?_⟩
    rcases h with hmemory | ⟨_, hstor, hver⟩
    · simpa [rememberPkceVerifier, eq_comm] using hmemory
    · obtain ⟨storage', -, rfl⟩ := mem_map.mp hstor
      simpa [LocalStorage.setItem, hkey, eq_comm] using hver
  · refine .inr ⟨hs, h.imp ?_ ?_⟩
    · intro hmemory
      simpa [rememberPkceVerifier, hs] using hmemory
    · rintro ⟨_, hstor, hver⟩
      obtain ⟨storage', hstor', rfl⟩ := mem_map.mp hstor
      refine ⟨storage', hstor', ?_⟩
      simpa [LocalStorage.setItem, hkey, (getPkceStorageKey_injective config).eq_iff, hs]
        using hver

/-- After a state is consumed there is no verifier for it. -/
lemma Browser.Has.of_consumePkceVerifier
    (h : (consumePkceVerifier config state b).2.Has config s verifier) :
    s ≠ state ∧ b.Has config s verifier := by
  have hkey := getPkceStorageKey_ne_last config s
  have hs : s ≠ state := by
    rintro rfl
    rcases h with hmemory | ⟨_, hstor, hver⟩
    · simp [consumePkceVerifier] at hmemory
    · obtain ⟨storage', -, rfl⟩ := mem_map.mp hstor
      simp [LocalStorage.removeItem] at hver
  refine ⟨hs, h.imp ?_ ?_⟩
  · intro hmemory
    simpa [consumePkceVerifier, hs] using hmemory
  · rintro ⟨_, hstor, hver⟩
    obtain ⟨storage', hstor', rfl⟩ := mem_map.mp hstor
    refine ⟨storage', hstor', ?_⟩
    simpa [LocalStorage.removeItem, hkey, (getPkceStorageKey_injective config).eq_iff, hs]
      using hver

/-- A verifier that is found was there. -/
lemma Browser.has_of_consume (hfound : (consumePkceVerifier config state b).1 = some codeVerifier) :
    b.Has config state codeVerifier := by
  refine (or_eq_some_iff.mp hfound).imp id fun hstor => ?_
  exact bind_eq_some_iff.mp hstor.2

lemma Fresh.not_has (hfresh : Fresh config w) : ¬w.browser.Has config s verifier := by
  rintro (hmemory | ⟨storage, hstor, hver⟩)
  · simp [hfresh.verifiers] at hmemory
  · simp [hfresh.storage storage hstor s] at hver

end Has

/-- Every verifier that the client or the storage has belongs to an outstanding state. -/
structure Browser.Covered (config : SigninConfig) (b : Browser) (outstanding : String → Bool) :
    Prop where
  memory : ∀ state, (b.pkceVerifiersByState state).isSome → outstanding state = true
  storage : ∀ storage ∈ b.storage, ∀ state,
    (storage (config.getPkceStorageKey state)).isSome → outstanding state = true

namespace Browser.Covered

lemma of_has (h : ∀ state verifier, b.Has config state verifier → outstanding state = true) :
    b.Covered config outstanding where
  memory := by
    intro state hver
    exact h state _ (.inl (get_mem hver))
  storage := by
    intro storage hstor state hver
    exact h state _ (.inr ⟨storage, hstor, get_mem hver⟩)

variable (hb : b.Covered config outstanding)
include hb

lemma has {verifier : String} (h : b.Has config state verifier) : outstanding state = true := by
  rcases h with hmemory | ⟨storage, hstor, hver⟩
  · exact hb.memory state (isSome_of_mem hmemory)
  · exact hb.storage storage hstor state (isSome_of_mem hver)

lemma mono {outstanding' : String → Bool}
    (hmore : ∀ state, outstanding state = true → outstanding' state = true) :
    b.Covered config outstanding' :=
  .of_has fun state _ h => hmore state (hb.has h)

lemma rememberTokenResponse (tokenResponse : OidcTokenResponse) :
    (rememberTokenResponse config P tokenResponse b).Covered config outstanding :=
  .of_has fun _ _ h => hb.has h.of_rememberTokenResponse

lemma rememberPkceVerifier (state codeVerifier : String) :
    (rememberPkceVerifier config state codeVerifier b).Covered config
      (fun s => s == state || outstanding s) := by
  refine .of_has fun s verifier h => ?_
  rcases h.of_rememberPkceVerifier with ⟨hs, -⟩ | ⟨-, hold⟩
  · simp [hs]
  · simp [hb.has hold]

lemma consumePkceVerifier (state : String) :
    (consumePkceVerifier config state b).2.Covered config
      (fun s => some state != some s && outstanding s) := by
  refine .of_has fun s verifier h => ?_
  obtain ⟨hs, hold⟩ := h.of_consumePkceVerifier
  simp [hb.has hold, Ne.symm hs]

end Browser.Covered

/-! ## One callback -/

/-- The callback stores the tokens of its own URL. -/
def CallbackUrl.storesTokens (url : CallbackUrl) : Bool :=
  (url.truthy "error").isNone && url.carriesTokens

variable {url : CallbackUrl}

/-- All that a callback without tokens of its own can do. -/
lemma handleSigninCallback_cases (config : SigninConfig) (P : Platform) (now : ℤ)
    (htoks : url.storesTokens = false) (b : Browser) :
    (∃ message, handleSigninCallback config P now url b = (.callbackError message, b)) ∨
    handleSigninCallback config P now url b = (.nothing, b) ∨
    handleSigninCallback config P now url b = (.missingState, b) ∨
    ∃ state, readCallbackParam url "state" = some state ∧ (handleSigninCallback config P now url b =
          (.invalidState, (consumePkceVerifier config state b).2) ∨
        ∃ authorizationCode codeVerifier,
          (consumePkceVerifier config state b).1 = some codeVerifier ∧
          handleSigninCallback config P now url b =
            (.waiting { authorizationCode, codeVerifier, state },
              (consumePkceVerifier config state b).2)) := by
  rw [handleSigninCallback]
  cases herror : url.truthy "error" with
  | some message => exact .inl ⟨message, rfl⟩
  | none =>
    have hnone : url.carriesTokens = false := by
      simpa [CallbackUrl.storesTokens, herror] using htoks
    simp only [hnone, Bool.false_eq_true, if_false]
    cases url.truthy "code" with
    | none => exact .inr (.inl rfl)
    | some authorizationCode =>
      cases hstate : url.truthy "state" with
      | none => exact .inr (.inr (.inl rfl))
      | some state =>
        have hread := (filter_eq_some_iff.mp hstate).1
        refine .inr (.inr (.inr ⟨state, hread, ?_⟩))
        cases hfil : (consumePkceVerifier config state b).1.filter (· != "") with
        | none => simp [hfil]
        | some codeVerifier =>
          have hfound := (filter_eq_some_iff.mp hfil).1
          refine .inr ⟨authorizationCode, codeVerifier, hfound, ?_⟩
          simp [hfil]

/-- Tokens in the URL are stored without looking at the state. -/
lemma handleSigninCallback_stores (config : SigninConfig) (P : Platform) (now : ℤ)
    (htoks : url.storesTokens = true) (b : Browser) :
    handleSigninCallback config P now url b = (.stored (urlTokenResponse P now url),
        rememberTokenResponse config P (urlTokenResponse P now url) b) := by
  obtain ⟨herror, hcarries⟩ := Bool.and_eq_true_iff.mp htoks
  have hnone : url.truthy "error" = none := isNone_iff_eq_none.mp herror
  simp [handleSigninCallback, hnone, hcarries]

/-! ## Runs -/

/-- The verifiers belong to outstanding states, and so did the states of the callbacks that wait
and of all storings of tokens. -/
structure World.Sound (config : SigninConfig) (w : World) : Prop where
  covered : w.browser.Covered config w.outstanding
  waiting : ∀ entry ∈ w.waiting, entry.2 = true
  stores : ∀ entry ∈ w.stores, entry.outstanding = true

lemma Fresh.sound (hfresh : Fresh config w) : w.Sound config where
  covered := .of_has fun _ _ h => absurd h hfresh.not_has
  waiting := by simp [hfresh.waiting]
  stores := by simp [hfresh.stores]

/-- A callback uses up its own state. -/
lemma World.used_eq (w : World) (hstate : readCallbackParam url "state" = some state) :
    w.used url = fun s => some state != some s && w.outstanding s := by
  funext s
  rw [World.used, hstate]

lemma World.recorded_outstanding {entry : StoreRecord}
    (hstores : ∀ entry ∈ w.stores, entry.outstanding = true) (hentry : entry.outstanding = true) :
    ∀ entry' ∈ w.recorded entry, entry'.outstanding = true := by
  intro entry' hmem
  rw [World.recorded] at hmem
  split at hmem
  · rcases mem_append.mp hmem with hold | hnew
    · exact hstores entry' hold
    · rwa [mem_singleton.mp hnew]
  · exact hstores entry' hmem

namespace World.Sound
variable {w : World}

variable (hw : w.Sound config)
include hw

/-- A sign-in keeps the record sound. -/
lemma start (requested : Option String) (generated codeVerifier : String) :
    (step config P w (.start requested generated codeVerifier)).Sound config where
  covered := by
    have hiss := hw.covered.rememberPkceVerifier (authorizationState requested generated)
      codeVerifier
    by_cases hcode : config.includesCode = true
    · simp only [step, getAuthorizationUrl, hcode, if_true]
      exact hiss
    · simp only [step, getAuthorizationUrl, hcode]
      exact hw.covered.mono fun s hs => by simp [World.issued, hs]
  waiting := hw.waiting
  stores := hw.stores

lemma reload : (step config P w .reload).Sound config where
  covered := .of_has fun _ _ h => hw.covered.has h.of_reload
  waiting := by simp [step]
  stores := hw.stores

/-- A callback with a code waits only if its state is outstanding, and then it uses the state. -/
lemma callback (now : ℤ) {url : CallbackUrl}
    (htoks : url.storesTokens = false) : (step config P w (.callback now url)).Sound config := by
  rcases handleSigninCallback_cases config P now htoks w.browser with
    ⟨message, hout⟩ | hout | hout |
      ⟨state, hstate, hout | ⟨authorizationCode, codeVerifier, hfound, hout⟩⟩
  · simpa only [step, hout] using hw
  · simpa only [step, hout] using hw
  · simpa only [step, hout] using hw
  · have hcovered := hw.covered.consumePkceVerifier state
    rw [← w.used_eq hstate] at hcovered
    simp only [step, hout]
    exact { hw with covered := hcovered }
  · have hcovered := hw.covered.consumePkceVerifier state
    rw [← w.used_eq hstate] at hcovered
    have houtstanding := hw.covered.has (Browser.has_of_consume hfound)
    simp only [step, hout]
    refine
      { covered := hcovered
        waiting := ?_
        stores := hw.stores }
    intro entry hentry
    rcases mem_append.mp hentry with hold | hnew
    · exact hw.waiting entry hold
    · rw [mem_singleton.mp hnew]
      exact houtstanding

/-- So does an answer. -/
lemma answer (now : ℤ) (index : ℕ) (json : Option OidcTokenResponse) :
    (step config P w (.answer now index json)).Sound config := by
  cases hentry : w.waiting[index]? with
  | none => simpa only [step, hentry] using hw
  | some entry =>
    obtain ⟨_, wasOutstanding⟩ := entry
    have hwas : wasOutstanding = true := hw.waiting _ (mem_of_getElem? hentry)
    have hwait : ∀ entry ∈ w.waiting.eraseIdx index, entry.2 = true := fun entry hmem =>
      hw.waiting entry (mem_of_mem_eraseIdx hmem)
    cases json with
    | none =>
      simp only [step, hentry]
      exact { hw with waiting := hwait }
    | some json =>
      simp only [step, hentry]
      exact
        { covered := hw.covered.rememberTokenResponse _
          waiting := hwait
          stores := World.recorded_outstanding hw.stores hwas }

/-- Hence every run does whose callbacks carry no tokens. -/
lemma run (events : List SigninEvent)
    (htoks : ∀ now url, SigninEvent.callback now url ∈ events → url.storesTokens = false) :
    (run config P w events).Sound config := by
  induction events generalizing w with
  | nil => exact hw
  | cons event events ih =>
    have hstep : (step config P w event).Sound config := by
      cases event with
      | start requested generated codeVerifier => exact hw.start requested generated codeVerifier
      | reload => exact hw.reload
      | callback now url => exact hw.callback now (htoks now url (by simp))
      | answer now index json => exact hw.answer now index json
    exact ih hstep fun now url hmem => htoks now url (mem_cons_of_mem event hmem)

end World.Sound

/-! ## The record and the storage -/

/-- The tokens that the storage has. -/
def Browser.tokens (config : SigninConfig) (b : Browser) : Option String :=
  b.storage.bind fun storage => storage config.getTokenStorageKey

lemma rememberPkceVerifier_tokens (state codeVerifier : String) :
    (rememberPkceVerifier config state codeVerifier b).tokens config = b.tokens config := by
  have hstate := (getPkceStorageKey_ne_token config state).symm
  have hlast := (getPkceLastStorageKey_ne_token config).symm
  cases hstor : b.storage <;>
    simp [Browser.tokens, rememberPkceVerifier, LocalStorage.setItem, hstor, hstate, hlast]

/-- Consuming a verifier leaves the tokens alone. -/
lemma consumePkceVerifier_tokens (state : String) :
    (consumePkceVerifier config state b).2.tokens config = b.tokens config := by
  have hstate := (getPkceStorageKey_ne_token config state).symm
  have hlast := (getPkceLastStorageKey_ne_token config).symm
  cases hstor : b.storage <;>
    simp [Browser.tokens, consumePkceVerifier, LocalStorage.removeItem, hstor, hstate, hlast]

lemma rememberTokenResponse_tokens (tokenResponse : OidcTokenResponse) (hnone : b.storage = none) :
    (rememberTokenResponse config P tokenResponse b).tokens config = b.tokens config := by
  simp [Browser.tokens, rememberTokenResponse, hnone]

/-- A step either leaves the tokens in the storage alone or is recorded. -/
theorem tokens_unchanged_or_recorded (config : SigninConfig) (P : Platform) (w : World)
    (event : SigninEvent) :
    (step config P w event).browser.tokens config = w.browser.tokens config ∨
      ∃ entry, (step config P w event).stores = w.stores ++ [entry] := by
  have hrec (tokenResponse : OidcTokenResponse) (entry : StoreRecord) :
      (rememberTokenResponse config P tokenResponse w.browser).tokens config =
          w.browser.tokens config ∨
        ∃ entry', w.recorded entry = w.stores ++ [entry'] := by
    cases hstor : w.browser.storage with
    | none => exact .inl (rememberTokenResponse_tokens tokenResponse hstor)
    | some storage => exact .inr ⟨entry, by simp [World.recorded, hstor]⟩
  cases event with
  | start requested generated codeVerifier =>
    left
    simp only [step, getAuthorizationUrl]
    split
    · exact rememberPkceVerifier_tokens _ _
    · rfl
  | reload => exact .inl rfl
  | callback now url =>
    cases hurl : url.storesTokens with
    | true =>
      simp only [step, handleSigninCallback_stores config P now hurl]
      exact hrec _ _
    | false =>
      left
      rcases handleSigninCallback_cases config P now hurl w.browser with
        ⟨message, hout⟩ | hout | hout |
          ⟨state, -, hout | ⟨authorizationCode, codeVerifier, -, hout⟩⟩
      · simp only [step, hout]
      · simp only [step, hout]
      · simp only [step, hout]
      · simp only [step, hout, consumePkceVerifier_tokens]
      · simp only [step, hout, consumePkceVerifier_tokens]
  | answer now index json =>
    cases hentry : w.waiting[index]? with
    | none => simp [step, hentry]
    | some entry =>
      cases json with
      | none => simp [step, hentry]
      | some json =>
        simp only [step, hentry]
        exact hrec _ _

/-- In a run whose callbacks carry no tokens of their own, every storing of tokens is for a state
that was issued and not used before. -/
theorem tokens_stored_for_outstanding_states (config : SigninConfig) (P : Platform)
    (w : World) (hfresh : Fresh config w) (events : List SigninEvent)
    (htokens : ∀ now url, SigninEvent.callback now url ∈ events → url.storesTokens = false) :
    ∀ entry ∈ (run config P w events).stores, entry.outstanding = true :=
  (hfresh.sound.run events htokens).stores

end

/-! ## Runs of one client -/

/-- A client of one authority that asks for codes. -/
def referenceConfig : SigninConfig where
  authority := "https://idp"
  responseType := "code"

/-- A platform that stores the access token alone. -/
def referencePlatform : Platform where
  parseInt _ := none
  stringify tokenResponse := tokenResponse.accessToken.getD ""

/-- A browser with an empty storage. -/
def emptyWorld : World where
  browser :=
    { storage := some fun _ => none
      pkceVerifiersByState := fun _ => none
      lastPkceVerifier := none }
  waiting := []
  outstanding := fun _ => false
  stores := []

lemma emptyWorld_fresh : Fresh referenceConfig emptyWorld where
  verifiers _ := rfl
  storage := by simp [emptyWorld]
  waiting := rfl
  stores := rfl

/-- The callback that brings the code for the state of a sign-in. -/
def codeCallback : CallbackUrl where
  query := [("code", "c"), ("state", "s")]
  fragment := []

/-- An answer of the token endpoint. -/
def codeAnswer : OidcTokenResponse where
  accessToken := some "token"
  idToken := none
  refreshToken := none
  tokenType := some "bearer"
  expiresIn := some (.number 60)
  accessTokenExpiresAt := none
  refreshTokenExpiresIn := none
  scope := none
  state := none

/-- A sign-in, a reload of the page, the callback with the code and the answer to it. -/
def referenceSignin : List SigninEvent :=
  [.start none "s" "v", .reload, .callback 0 codeCallback, .answer 1 0 (some codeAnswer)]

/-- A sign-in from its start to its tokens. -/
theorem tokens_stored_for_outstanding_states_signin :
    (run referenceConfig referencePlatform emptyWorld referenceSignin).browser.tokens
        referenceConfig = some "token" ∧
      (∃ entry, entry ∈ (run referenceConfig referencePlatform emptyWorld referenceSignin).stores) ∧
      ∀ entry ∈ (run referenceConfig referencePlatform emptyWorld referenceSignin).stores,
        entry.outstanding = true := by
  have htoks : ∀ now url, .callback now url ∈ referenceSignin → url.storesTokens = false := by
    intro now url hmem
    have hurl : now = 0 ∧ url = codeCallback := by simpa [referenceSignin] using hmem
    rw [hurl.2]
    decide
  refine ⟨by decide, ⟨{ state := some "s", outstanding := true }, by decide⟩, ?_⟩
  exact tokens_stored_for_outstanding_states referenceConfig referencePlatform emptyWorld
    emptyWorld_fresh referenceSignin htoks

/-- A callback with a token and without a state, before any sign-in, has its token stored. -/
theorem forged_token_stored :
    Fresh referenceConfig emptyWorld ∧
    let w := run referenceConfig referencePlatform emptyWorld
      [.callback 0 { query := [], fragment := [("access_token", "evil")] }]
    w.browser.tokens referenceConfig = some "evil" ∧
      w.stores = [{ state := none, outstanding := false }] :=
  ⟨emptyWorld_fresh, by decide, by decide⟩

end LocalPlatform.Oidc
