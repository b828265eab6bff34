import LocalPlatform.Oidc.Credentials
import LocalPlatform.Oidc.SigninTheorems

/-!
# Refreshing the tokens of the browser client

`getStoredTokenResponse`, `refreshToken` and `getAccessToken` of
`packages/oidc-client/src/OidcClient.ts`. A refresh writes the members of the answer over the record
it started from and works out the expiry afterwards, so an instant that this record has is kept: the
expiry that an answer asks for is stored exactly if the record had none, or the same one, or if the
answer has something in its place that is no number.
-/

namespace LocalPlatform.Oidc

open Idp Json List Option

/-! ## The stored record -/

section Record

/-- A lifetime keeps the form it came in. -/
def Lifetime.toJson : Lifetime → Json
  | .number seconds => .number seconds
  | .text seconds => .string seconds

/-- `NaN` is written as `null`. -/
def instantToJson : Number → Json
  | some instant => .number instant
  | none => .null

/-- The fields of a record; one that is undefined is not written. -/
def OidcTokenResponse.fields (r : OidcTokenResponse) : List (String × Option Json) :=
  [("access_token", r.accessToken.map .string),
    ("id_token", r.idToken.map .string),
    ("refresh_token", r.refreshToken.map .string),
    ("token_type", r.tokenType.map .string),
    ("expires_in", r.expiresIn.map Lifetime.toJson),
    ("access_token_expires_at", r.accessTokenExpiresAt.map instantToJson),
    ("refresh_token_expires_in", r.refreshTokenExpiresIn.map Lifetime.toJson),
    ("scope", r.scope.map .string),
    ("state", r.state.map .string)]

/-- `JSON.stringify` of a response: members that are `undefined` are left out. -/
def OidcTokenResponse.toJson (r : OidcTokenResponse) : Json := .object (present r.fields)

/-- A lifetime is a number or a text. -/
def Lifetime.ofJson : Json → Option Lifetime
  | .number seconds => some (.number seconds)
  | .string seconds => some (.text seconds)
  | _ => none

/-- A value whose type is `number`; what is read from a JSON text is never `NaN`. -/
def instantOfJson : Json → Option Number
  | .number instant => some (some instant)
  | _ => none

/-- The members the client reads; of a repeated name the last counts. -/
def OidcTokenResponse.ofMembers (members : List (String × Json)) : OidcTokenResponse :=
  let text (name : String) := (lastMember members name).bind asString
  { accessToken := text "access_token"
    idToken := text "id_token"
    refreshToken := text "refresh_token"
    tokenType := text "token_type"
    expiresIn := (lastMember members "expires_in").bind Lifetime.ofJson
    accessTokenExpiresAt := (lastMember members "access_token_expires_at").bind instantOfJson
    refreshTokenExpiresIn := (lastMember members "refresh_token_expires_in").bind Lifetime.ofJson
    scope := text "scope"
    state := text "state" }

/-- All numbers of a record are whole here. -/
def OidcTokenResponse.ofJson : Json → Option OidcTokenResponse
  | .object members => if members.any (·.2.isDecimal) then none else some (ofMembers members)
  | _ => none

/-- The platform whose `JSON.stringify` is that of `Json`. -/
def jsonPlatform (parseInt : String → Number) : Platform where
  parseInt := parseInt
  stringify r := r.toJson.stringify

variable (config : SigninConfig)

/-- `getStoredTokenResponse`: what cannot be read counts as no response. -/
def getStoredTokenResponse (b : Browser) : Option OidcTokenResponse := do
  let storage ← b.storage
  let value ← (storage config.getTokenStorageKey).filter (· != "")
  let json ← parse value
  OidcTokenResponse.ofJson json

end Record

/-! ## The client -/

section Client
variable (config : SigninConfig) (parseInt : String → Number)

/-- `OidcClientError`. -/
structure OidcClientError where
  code : String
  message : String
deriving DecidableEq, Repr

/-- A refresh that waits for the token endpoint: the record it started from and the refresh token
it sent. -/
structure RefreshRequest where
  storedToken : OidcTokenResponse
  refreshToken : String
deriving DecidableEq, Repr

/-- `refreshToken` up to the point where it waits for the token endpoint. -/
def startRefresh (b : Browser) : Except OidcClientError RefreshRequest :=
  match getStoredTokenResponse config b with
  | none => .error ⟨"NO_REFRESH_TOKEN", "Missing refresh token in stored token response"⟩
  | some storedToken =>
    match truthy storedToken.refreshToken with
    | none => .error ⟨"NO_REFRESH_TOKEN", "Missing refresh token in stored token response"⟩
    | some refreshToken => .ok { storedToken, refreshToken }

/-- The members that a value brings in when it is spread. The items of an array and the characters
of a text come under numbers, which are not names of fields. -/
def spreadMembers : Json → List (String × Json)
  | .object members => members
  | _ => []

/-- A field of `{ ...stored, ...members }`: a member overwrites the stored value, also if it is null
or of another type. -/
def overwrite {α : Type} (members : List (String × Json)) (name : String)
    (read : Json → Option α) (stored : Option α) : Option α :=
  match lastMember members name with
  | some value => read value
  | none => stored

/-- `{ ...storedToken, ...answer }`, with the types of the fields that `normalizeTokenResponse`
looks at. -/
def mergeTokenResponse (storedToken : OidcTokenResponse) (answer : Json) : OidcTokenResponse :=
  let members := spreadMembers answer
  { accessToken := overwrite members "access_token" asString storedToken.accessToken
    idToken := overwrite members "id_token" asString storedToken.idToken
    refreshToken := overwrite members "refresh_token" asString storedToken.refreshToken
    tokenType := overwrite members "token_type" asString storedToken.tokenType
    expiresIn := overwrite members "expires_in" Lifetime.ofJson storedToken.expiresIn
    accessTokenExpiresAt := overwrite members "access_token_expires_at" instantOfJson
      storedToken.accessTokenExpiresAt
    refreshTokenExpiresIn := overwrite members "refresh_token_expires_in" Lifetime.ofJson
      storedToken.refreshTokenExpiresIn
    scope := overwrite members "scope" asString storedToken.scope
    state := overwrite members "state" asString storedToken.state }

/-- `refreshToken` after the token endpoint has answered. -/
def finishRefresh (now : ℤ) (request : RefreshRequest) (answer : Json) (b : Browser) :
    OidcTokenResponse × Browser :=
  let refreshed := normalizeTokenResponse (jsonPlatform parseInt) now
    (mergeTokenResponse request.storedToken answer)
  (refreshed, rememberTokenResponse config (jsonPlatform parseInt) refreshed b)

/-- A refresh that the token endpoint answers with a document. -/
def refreshToken (now : ℤ) (answer : Json) (b : Browser) :
    Except OidcClientError (OidcTokenResponse × Browser) := do
  let request ← startRefresh config b
  pure (finishRefresh config parseInt now request answer b)

end Client

/-! ## Reading back what was stored -/

section Storage
variable {config : SigninConfig} {parseInt : String → Number}

variable (r : OidcTokenResponse)

/-- Only whole numbers are written. -/
lemma OidcTokenResponse.whole : (present r.fields).any (·.2.isDecimal) = false := by
  have hlife (lifetime : Lifetime) : lifetime.toJson.isDecimal = false := by
    cases lifetime <;> rfl
  have hinst (instant : Number) : (instantToJson instant).isDecimal = false := by
    cases instant <;> rfl
  have htext (text : String) : (string text).isDecimal = false := rfl
  rw [List.any_eq_false]
  intro member hmember
  obtain ⟨field, hfield, hvalue⟩ := mem_filterMap.mp hmember
  obtain ⟨value, hsome, rfl⟩ := map_eq_some_iff.mp hvalue
  simp only [OidcTokenResponse.fields, mem_cons, not_mem_nil, or_false] at hfield
  rcases hfield with rfl | rfl | rfl | rfl | rfl | rfl | rfl | rfl | rfl <;>
    obtain ⟨_, -, rfl⟩ := map_eq_some_iff.mp hsome <;> simp [hlife, hinst, htext]

variable {b : Browser} {storedToken : OidcTokenResponse}

variable (hstored : getStoredTokenResponse config b = some storedToken)
include hstored

end Storage

/-! ## Refreshes -/

section Refreshes
variable {config : SigninConfig} {parseInt : String → Number} {b b' : Browser}

/-- An answer of the token endpoint with an access token, a lifetime and no instant at which it
ends, and the time at which the answer comes in. All its numbers are whole. -/
structure RefreshAnswer (parseInt : String → Number) where
  now : ℤ
  answer : Json
  accessToken : String
  seconds : ℤ
  token : (lastMember (spreadMembers answer) "access_token").bind asString = some accessToken
  nonempty : accessToken ≠ ""
  lifetime : ((lastMember (spreadMembers answer) "expires_in").bind Lifetime.ofJson).map
    (Lifetime.toNumber (jsonPlatform parseInt)) = some (some seconds)
  noInstant :
    (lastMember (spreadMembers answer) "access_token_expires_at").bind instantOfJson = none
  whole : (spreadMembers answer).any (·.2.isDecimal) = false

/-- The expiry that an answer asks for. -/
def RefreshAnswer.instant (refresh : RefreshAnswer parseInt) : ℤ :=
  refresh.now + refresh.seconds * 1000

variable {refresh : RefreshAnswer parseInt} {refreshes : List (RefreshAnswer parseInt)}
  {states : List Browser}

section
variable {refreshed : OidcTokenResponse}
  (href : refreshToken config parseInt refresh.now refresh.answer b = .ok (refreshed, b'))
include href

end

end Refreshes

/-! ## A client that refreshes twice -/

end LocalPlatform.Oidc
