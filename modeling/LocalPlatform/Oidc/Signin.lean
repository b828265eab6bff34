import LocalPlatform.Idp.TokenForm

/-!
# Signing in with the browser client

`getAuthorizationUrl`, `rememberPkceVerifier`, `consumePkceVerifier` and `handleSigninCallback` of
`packages/oidc-client/src/OidcClient.ts`. A callback with a code waits for the token endpoint, so
it ends in a later event; a reload of the page forgets what is in memory, and with it the callbacks
that still wait.
-/

namespace LocalPlatform.Oidc

open Idp

/-! ## What the client stores -/

/-- The values of `localStorage`. -/
abbrev LocalStorage := String → Option String

/-- `localStorage.setItem`. -/
def LocalStorage.setItem (storage : LocalStorage) (key value : String) : LocalStorage :=
  fun k => if k = key then some value else storage k

/-- `localStorage.removeItem`. -/
def LocalStorage.removeItem (storage : LocalStorage) (key : String) : LocalStorage :=
  fun k => if k = key then none else storage k

/-- A number; none stands for `NaN`. -/
abbrev Number := Option ℤ

/-- A lifetime, as the token endpoint or a URL gives it. -/
inductive Lifetime where
  | number (seconds : ℤ)
  | text (seconds : String)
deriving DecidableEq, Repr

/-- The answer of the token endpoint, and what is stored of it. -/
structure OidcTokenResponse where
  accessToken : Option String
  idToken : Option String
  refreshToken : Option String
  tokenType : Option String
  expiresIn : Option Lifetime
  accessTokenExpiresAt : Option Number
  refreshTokenExpiresIn : Option Lifetime
  scope : Option String
  state : Option String
deriving DecidableEq, Repr

/-- What the client takes from its platform. -/
structure Platform where
  /-- `Number.parseInt` in base ten -/
  parseInt : String → Number
  /-- `JSON.stringify` -/
  stringify : OidcTokenResponse → String

/-- `Number.parseInt` on a text, the number itself otherwise. -/
def Lifetime.toNumber (P : Platform) : Lifetime → Number
  | .number seconds => some seconds
  | .text seconds => P.parseInt seconds

/-- `normalizeTokenResponse`: an expiry that is already there is kept. -/
def normalizeTokenResponse (P : Platform) (now : ℤ) (input : OidcTokenResponse) :
    OidcTokenResponse :=
  let expiresIn := input.expiresIn.map (Lifetime.toNumber P)
  let refreshTokenExpiresIn := input.refreshTokenExpiresIn.map (Lifetime.toNumber P)
  { input with
    expiresIn := expiresIn.join.map .number
    -- a lifetime that is not a number gives a time that is not a number
    accessTokenExpiresAt := input.accessTokenExpiresAt.or
      (expiresIn.map fun expiresIn => expiresIn.map fun seconds => now + seconds * 1000)
    refreshTokenExpiresIn := refreshTokenExpiresIn.join.map .number }

/-! ## The client -/

/-- The settings that signing in depends on. -/
structure SigninConfig where
  authority : String
  responseType : String
deriving DecidableEq, Repr

namespace SigninConfig

variable (config : SigninConfig)

/-- The start of the keys of verifiers. -/
def pkceStoragePrefix : String := "oidc.pkce:" ++ config.authority

/-- The start of the key of the token response. -/
def tokenStoragePrefix : String := "oidc.token:" ++ config.authority

/-- `getPkceStorageKey`. -/
def getPkceStorageKey (state : String) : String := config.pkceStoragePrefix ++ ":state:" ++ state

/-- `getPkceLastStorageKey`. -/
def getPkceLastStorageKey : String := config.pkceStoragePrefix ++ ":last"

/-- `getTokenStorageKey`. -/
def getTokenStorageKey : String := config.tokenStoragePrefix ++ ":response"

/-- `responseType.includes("code")` -/
def includesCode : Bool := decide ("code".toList <:+: config.responseType.toList)

end SigninConfig

/-- The storage of the browser, if there is one, and the fields of the client. -/
structure Browser where
  storage : Option LocalStorage
  pkceVerifiersByState : String → Option String
  lastPkceVerifier : Option String

section
variable (config : SigninConfig) (P : Platform)

/-- `rememberTokenResponse`; without a storage nothing is kept. -/
def rememberTokenResponse (tokenResponse : OidcTokenResponse) (b : Browser) : Browser :=
  { b with storage := b.storage.map fun storage =>
      storage.setItem config.getTokenStorageKey (P.stringify tokenResponse) }

/-- `rememberPkceVerifier`: under its state and as the last one, in memory and in the storage. -/
def rememberPkceVerifier (state codeVerifier : String) (b : Browser) : Browser where
  pkceVerifiersByState s := if s = state then some codeVerifier else b.pkceVerifiersByState s
  lastPkceVerifier := some codeVerifier
  storage := b.storage.map fun storage =>
    (storage.setItem (config.getPkceStorageKey state) codeVerifier).setItem
      config.getPkceLastStorageKey codeVerifier

/-- `consumePkceVerifier`, for a state that is not empty. -/
def consumePkceVerifier (state : String) (b : Browser) : Option String × Browser :=
  let storageKey := config.getPkceStorageKey state
  ((b.pkceVerifiersByState state).or (b.storage.bind fun storage => storage storageKey),
    { pkceVerifiersByState := fun s => if s = state then none else b.pkceVerifiersByState s
      lastPkceVerifier := none
      storage := b.storage.map fun storage =>
        (storage.removeItem storageKey).removeItem config.getPkceLastStorageKey })

/-- The state that `getAuthorizationUrl` puts into the URL. -/
def authorizationState (requested : Option String) (generated : String) : String :=
  requested.getD generated

/-- `getAuthorizationUrl`, once the configuration and the client id are there. -/
def getAuthorizationUrl (requested : Option String) (generated codeVerifier : String)
    (b : Browser) : Browser :=
  if config.includesCode then
    rememberPkceVerifier config (authorizationState requested generated) codeVerifier b
  else b

/-! ## Callbacks -/

/-- The parameters in the query and in the fragment of a URL. -/
structure CallbackUrl where
  query : Form
  fragment : Form
deriving DecidableEq, Repr

/-- `URLSearchParams.get` -/
def getParam (params : Form) (name : String) : Option String :=
  (params.find? fun param => param.1 == name).map Prod.snd

/-- `readCallbackParam`: the query goes before the fragment. -/
def readCallbackParam (url : CallbackUrl) (name : String) : Option String :=
  (getParam url.query name).or (getParam url.fragment name)

/-- A parameter that is there and not empty, as a condition takes it. -/
def CallbackUrl.truthy (url : CallbackUrl) (name : String) : Option String :=
  (readCallbackParam url name).filter (· != "")

/-- The URL names tokens of its own. -/
def CallbackUrl.carriesTokens (url : CallbackUrl) : Bool :=
  (url.truthy "access_token").isSome || (url.truthy "id_token").isSome

/-- A code that the client has sent to the token endpoint. -/
structure Exchange where
  authorizationCode : String
  codeVerifier : String
  state : String
deriving DecidableEq, Repr

/-- How `handleSigninCallback` goes on: it has stored tokens, it has nothing to do, it throws, or
it waits for the token endpoint. -/
inductive CallbackResult where
  | stored (tokenResponse : OidcTokenResponse)
  | nothing
  | callbackError (message : String)
  | missingState
  | invalidState
  | waiting (exchange : Exchange)
deriving DecidableEq, Repr

/-- The tokens that a URL names, with the state it names. -/
def urlTokenResponse (now : ℤ) (url : CallbackUrl) : OidcTokenResponse :=
  normalizeTokenResponse P now
    { accessToken := readCallbackParam url "access_token"
      idToken := readCallbackParam url "id_token"
      refreshToken := readCallbackParam url "refresh_token"
      tokenType := readCallbackParam url "token_type"
      expiresIn := (readCallbackParam url "expires_in").map .text
      accessTokenExpiresAt := none
      refreshTokenExpiresIn := (readCallbackParam url "refresh_token_expires_in").map .text
      scope := readCallbackParam url "scope"
      state := readCallbackParam url "state" }

/-- `handleSigninCallback` up to the point where it waits for the token endpoint. -/
def handleSigninCallback (now : ℤ) (url : CallbackUrl) (b : Browser) : CallbackResult × Browser :=
  match url.truthy "error" with
  | some message => (.callbackError message, b)
  | none =>
    if url.carriesTokens then
      let tokenResponse := urlTokenResponse P now url
      (.stored tokenResponse, rememberTokenResponse config P tokenResponse b)
    else
      match url.truthy "code" with
      | none => (.nothing, b)
      | some authorizationCode =>
        match url.truthy "state" with
        | none => (.missingState, b)
        | some state =>
          let (codeVerifier, b) := consumePkceVerifier config state b
          match codeVerifier.filter (· != "") with
          | none => (.invalidState, b)
          | some codeVerifier => (.waiting { authorizationCode, codeVerifier, state }, b)

/-- `handleSigninCallback` after the token endpoint has answered. -/
def finishExchange (now : ℤ) (exchange : Exchange) (json : OidcTokenResponse) (b : Browser) :
    Browser :=
  rememberTokenResponse config P
    (normalizeTokenResponse P now { json with state := some exchange.state }) b

/-! ## Runs -/

/-- Tokens were stored: for the state of which callback, and whether that state was outstanding
when the callback came in. -/
structure StoreRecord where
  state : Option String
  outstanding : Bool
deriving DecidableEq, Repr

/-- The browser, the callbacks that wait, and a record of what has happened, which no step reads:
the states that were issued and that no callback has used since, for every waiting callback
whether its state was one of them, and every storing of tokens. -/
structure World where
  browser : Browser
  waiting : List (Exchange × Bool)
  outstanding : String → Bool
  stores : List StoreRecord

/-- What happens in the browser. -/
inductive SigninEvent where
  /-- a sign-in puts its state into a URL and remembers its verifier -/
  | start (requested : Option String) (generated codeVerifier : String)
  | reload
  | callback (now : ℤ) (url : CallbackUrl)
  /-- the token endpoint answers a waiting callback, or the request fails -/
  | answer (now : ℤ) (index : ℕ) (json : Option OidcTokenResponse)
deriving DecidableEq, Repr

namespace World

/-- The states that are outstanding after a sign-in with a state. -/
def issued (w : World) (state : String) : String → Bool :=
  fun s => s == state || w.outstanding s

/-- The states that are outstanding after a callback has used its state. -/
def used (w : World) (url : CallbackUrl) : String → Bool :=
  fun s => readCallbackParam url "state" != some s && w.outstanding s

/-- The record with one more storing of tokens; without a storage nothing is stored. -/
def recorded (w : World) (entry : StoreRecord) : List StoreRecord :=
  if w.browser.storage.isSome then w.stores ++ [entry] else w.stores

end World

/-- The page is loaded again: the fields of the client are empty. -/
def Browser.reload (b : Browser) : Browser :=
  { b with pkceVerifiersByState := fun _ => none, lastPkceVerifier := none }

/-- The browser after one event, with the record of what was issued and stored. -/
def step (w : World) : SigninEvent → World
  | .start requested generated codeVerifier =>
    { w with
      browser := getAuthorizationUrl config requested generated codeVerifier w.browser
      outstanding := w.issued (authorizationState requested generated) }
  | .reload => { w with browser := w.browser.reload, waiting := [] }
  | .callback now url =>
    let (result, browser) := handleSigninCallback config P now url w.browser
    match result with
    | .stored tokenResponse =>
      { w with
        browser
        outstanding := w.used url
        stores := w.recorded
          { state := tokenResponse.state
            outstanding := tokenResponse.state.any w.outstanding } }
    | .waiting exchange =>
      { w with
        browser
        waiting := w.waiting ++ [(exchange, w.outstanding exchange.state)]
        outstanding := w.used url }
    | .invalidState => { w with browser, outstanding := w.used url }
    | .nothing | .callbackError _ | .missingState => { w with browser }
  | .answer now index json =>
    match w.waiting[index]? with
    | none => w
    | some (exchange, wasOutstanding) =>
      let waiting := w.waiting.eraseIdx index
      match json with
      | none => { w with waiting }
      | some json =>
        { w with
          browser := finishExchange config P now exchange json w.browser
          waiting
          stores := w.recorded { state := some exchange.state, outstanding := wasOutstanding } }

/-- The browser after a list of events. -/
def run (w : World) (events : List SigninEvent) : World := events.foldl (step config P) w

/-- Before the first event: nothing waits, nothing was stored, and neither the client nor the
storage has a verifier. -/
structure Fresh (w : World) : Prop where
  verifiers : ∀ state, w.browser.pkceVerifiersByState state = none
  storage : ∀ storage ∈ w.browser.storage, ∀ state, storage (config.getPkceStorageKey state) = none
  waiting : w.waiting = []
  stores : w.stores = []

end

end LocalPlatform.Oidc
