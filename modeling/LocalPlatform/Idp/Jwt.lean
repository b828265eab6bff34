import LocalPlatform.Lib.Text
import LocalPlatform.Idp.Libraries
import Mathlib.Data.List.Basic

/-!
# JSON Web Tokens

`encode_jwt`, `decode_jwt` and `verify_jwt` of `oauth2/jwt.rs`, and the space-delimited form in
which the scopes of a token are signed.
-/

namespace LocalPlatform.Idp

open Text

/-! ## Scopes in a token -/

/-- `space_delimited::serialize`: every item as JSON, joined by spaces. -/
def serializeScope (L : Libraries) (scope : List String) : Except String String := do
  let items ← scope.mapM L.stringToJson
  pure (" ".intercalate items)

/-- `space_delimited::deserialize` -/
def deserializeScope (L : Libraries) (s : String) : Except String (List String) :=
  (splitWhitespace s).mapM L.stringFromJson

/-- The object that is signed for some claims. -/
def StandardClaims.toObject (c : StandardClaims) (scope : String) : ClaimsObject :=
  { c with scope }

/-- The claims an object stands for, once its scope string is read. -/
def ClaimsObject.toClaims (o : ClaimsObject) (scope : List String) : StandardClaims :=
  { o with scope }

/-- `serde_json::to_vec` of standard claims. -/
def standardClaimsToVec (L : Libraries) (c : StandardClaims) : Except String Bytes := do
  let scope ← serializeScope L c.scope
  L.claimsToVec (c.toObject scope)

/-- `serde_json::from_slice` at standard claims. -/
def standardClaimsFromSlice (L : Libraries) (b : Bytes) : Except String StandardClaims := do
  let o ← L.claimsFromSlice b
  let scope ← deserializeScope L o.scope
  pure (o.toClaims scope)

/-- `serde_json::to_vec` of ID token claims, both parts flattened into one object. -/
def idTokenClaimsToVec (L : Libraries) (c : IdTokenClaims) : Except String Bytes := do
  let scope ← serializeScope L c.standardClaims.scope
  L.idTokenToVec (c.standardClaims.toObject scope) c.userInfo

/-! ## Encoding, decoding and verification -/

/-- The header's algorithm. -/
def jwtHeaderAlg : String := "ES256K"

/-- The header's type. -/
def jwtHeaderTyp : String := "JWT"

/-- `signing_key_from_jwk` -/
def signingKeyFromJwk (L : Libraries) (jwk : JwkPrivate) : ErrorResponseResult Bytes :=
  match jwk.params with
  | .ec _ _ _ d => do
    let privateKeyBytes ← (L.standardDecode d).mapError fun error =>
      .describe .invalidClient s!"invalid client private key encoding: {error}"
    (L.signingKeyFromSlice privateKeyBytes).mapError fun error =>
      .describe .invalidClient s!"invalid client private key: {error}"
  | _ => .error (.describe .invalidClient "client signing key must be an EC key")

/-- `verifing_key_from_jwt` -/
def verifyingKeyFromJwk (L : Libraries) (jwk : JwkPublic) : ErrorResponseResult Bytes :=
  match jwk.params with
  | .ec _ x y => do
    let xBytes ← (L.standardDecode x).mapError fun error =>
      .describe .invalidClient s!"invalid client public key encoding: {error}"
    let yBytes ← (L.standardDecode y).mapError fun error =>
      .describe .invalidClient s!"invalid client public key encoding: {error}"
    (L.verifyingKeyFromSec1 (4 :: (xBytes ++ yBytes))).mapError fun error =>
      .describe .invalidClient s!"invalid client public key: {error}"
  | _ => .error (.describe .invalidClient "client verifying key must be an EC key")

/-- The header every token of this provider carries. -/
def jwtHeader (jwk : JwkPrivate) : JwtHeader :=
  { alg := jwtHeaderAlg, typ := jwtHeaderTyp, kid := jwk.kid, jwk := none }

/-- `encode_jwt`, the claims being given by what `serde_json::to_vec` makes of them. -/
def encodeJwt (L : Libraries) (jwk : JwkPrivate) (claims : Except String Bytes) :
    ErrorResponseResult String := do
  let headerBytes ← (L.headerToVec (jwtHeader jwk)).mapError fun error =>
    .describe .serverError error
  let claimsBytes ← claims.mapError fun error => .describe .serverError error
  let signingInput := L.urlSafeEncode headerBytes ++ "." ++ L.urlSafeEncode claimsBytes
  let signingKey ← signingKeyFromJwk L jwk
  let signature := L.sign signingKey (asBytes signingInput)
  pure (signingInput ++ "." ++ L.urlSafeEncode signature)

/-- `token.split('.')` -/
def splitDots (token : String) : List String := (token.toList.splitOn '.').map String.ofList

/-- The next segment of a token, or the error for a missing one. -/
def segment (parts : List String) (i : ℕ) : ErrorResponseResult String :=
  parts[i]?.elim (.error (.describe .invalidRequest "invalid JWT format")) .ok

/-- A segment of the token, decoded; the error names the segment. -/
def decodeSegment (L : Libraries) (what : String) (encoded : String) : ErrorResponseResult Bytes :=
  (L.urlSafeDecode encoded).mapError fun error =>
    .describe .invalidRequest s!"invalid JWT {what} encoding: {error}"

/-- A decoded segment, parsed; the error names the segment. -/
def parseSegment {α : Type} (what : String) (parsed : Except String α) : ErrorResponseResult α :=
  parsed.mapError fun error => .describe .invalidRequest s!"invalid JWT {what}: {error}"

/-- `decode_jwt`: header and claims, the signature not even looked at. -/
def decodeJwt {α : Type} (L : Libraries) (fromSlice : Bytes → Except String α) (token : String) :
    ErrorResponseResult (JwtHeader × α) := do
  let parts := splitDots token
  let headerEncoded ← segment parts 0
  let claimsEncoded ← segment parts 1
  let headerBytes ← decodeSegment L "header" headerEncoded
  let claimsBytes ← decodeSegment L "claims" claimsEncoded
  let header ← parseSegment "header" (L.headerFromSlice headerBytes)
  let claims ← parseSegment "claims" (fromSlice claimsBytes)
  pure (header, claims)

/-- `verify_jwt` -/
def verifyJwt {α : Type} (L : Libraries) (fromSlice : Bytes → Except String α) (jwk : JwkPublic)
    (token : String) : ErrorResponseResult (JwtHeader × α) := do
  let parts := splitDots token
  let headerEncoded ← segment parts 0
  let claimsEncoded ← segment parts 1
  let signatureEncoded ← segment parts 2
  let headerBytes ← decodeSegment L "header" headerEncoded
  let claimsBytes ← decodeSegment L "claims" claimsEncoded
  let signatureBytes ← decodeSegment L "signature" signatureEncoded
  let header ← parseSegment "header" (L.headerFromSlice headerBytes)
  let claims ← parseSegment "claims" (fromSlice claimsBytes)
  let signature ← parseSegment "signature" (L.signatureFromSlice signatureBytes)
  let verifyingKey ← verifyingKeyFromJwk L jwk
  let signingInput := headerEncoded ++ "." ++ claimsEncoded
  parseSegment "signature" (L.verify verifyingKey (asBytes signingInput) signature)
  pure (header, claims)

/-! ## What the three functions make of each other's tokens -/

/-- A token is split into the segments it was joined from. -/
lemma splitDots_join {h c : String} (rest : List String) (hh : '.' ∉ h.toList)
    (hc : '.' ∉ c.toList) (hrest : ∀ r ∈ rest, '.' ∉ r.toList) :
    splitDots (".".intercalate (h :: c :: rest)) = h :: c :: rest := by
  have hnodot : ∀ l ∈ (h :: c :: rest).map String.toList, '.' ∉ l := by
    simpa using ⟨hh, hc, hrest⟩
  have hlist : (".".intercalate (h :: c :: rest)).toList =
      ['.'].intercalate ((h :: c :: rest).map String.toList) := by
    simp
  rw [splitDots, hlist, List.splitOn_intercalate '.' hnodot (by simp)]
  simp

section
variable {L : Libraries} {α : Type} {fromSlice : Bytes → Except String α}

variable {claims : α} {jwk : JwkPrivate} {token : String} {cb : Bytes}

/-- Decoding reads the first two segments and nothing else. -/
lemma decodeJwt_of_splitDots {token h c : String} {rest : List String} {hb cb : Bytes}
    {header : JwtHeader} (hsplit : splitDots token = h :: c :: rest)
    (hh : L.urlSafeDecode h = .ok hb) (hc : L.urlSafeDecode c = .ok cb)
    (hhdr : L.headerFromSlice hb = .ok header) (hcs : fromSlice cb = .ok claims) :
    decodeJwt L fromSlice token = .ok (header, claims) := by
  simp [decodeJwt, hsplit, segment, decodeSegment, parseSegment, hh, hc, hhdr, hcs,
    Except.mapError, bind, Except.bind, pure, Except.pure]

/-- What `encode_jwt` produces: the two encoded parts and a signature over them. -/
lemma encodeJwt_ok {claims : Except String Bytes} (h : encodeJwt L jwk claims = .ok token) :
    ∃ hb cb key, L.headerToVec (jwtHeader jwk) = .ok hb ∧ claims = .ok cb ∧
      signingKeyFromJwk L jwk = .ok key ∧
      token = ".".intercalate [L.urlSafeEncode hb, L.urlSafeEncode cb, L.urlSafeEncode
          (L.sign key (asBytes (L.urlSafeEncode hb ++ "." ++ L.urlSafeEncode cb)))] := by
  unfold encodeJwt at h
  rcases hhb : L.headerToVec (jwtHeader jwk) with _ | hb
  · simp [hhb, Except.mapError, bind, Except.bind] at h
  rcases hcb : claims with _ | cb
  · simp [hhb, hcb, Except.mapError, bind, Except.bind] at h
  rcases hkey : signingKeyFromJwk L jwk with _ | key
  · simp [hhb, hcb, hkey, Except.mapError, bind, Except.bind] at h
  · simp only [hhb, hcb, hkey, Except.mapError, bind, Except.bind, pure, Except.pure,
      Except.ok.injEq] at h
    exact ⟨hb, cb, key, rfl, rfl, rfl, h.symm⟩

/-- Decoding an encoded token gives back its header and what is read from its claims. -/
lemma decodeJwt_encodeJwt (hL : L.Lawful) (h : encodeJwt L jwk (.ok cb) = .ok token)
    (hcs : fromSlice cb = .ok claims) :
    decodeJwt L fromSlice token = .ok (jwtHeader jwk, claims) := by
  obtain ⟨hb, cb', key, hhb, hcb, -, rfl⟩ := encodeJwt_ok h
  obtain rfl : cb = cb' := by simpa using hcb
  obtain ⟨hb', hhb', hhdr⟩ := hL.header_roundtrip (jwtHeader jwk)
  obtain rfl : hb = hb' := by simpa [hhb] using hhb'
  generalize L.sign key _ = signature
  have hsplit := splitDots_join [L.urlSafeEncode signature] (hL.urlSafe_no_dot hb)
    (hL.urlSafe_no_dot cb) (by simpa using hL.urlSafe_no_dot signature)
  exact decodeJwt_of_splitDots hsplit (hL.urlSafe_roundtrip hb) (hL.urlSafe_roundtrip cb)
    hhdr hcs

/-- An encoded token verifies under a public key that accepts the signatures of its key. -/
lemma verifyJwt_encodeJwt (hL : L.Lawful) {publicJwk : JwkPublic} {key verifyingKey : Bytes}
    (h : encodeJwt L jwk (.ok cb) = .ok token) (hcs : fromSlice cb = .ok claims)
    (hkey : signingKeyFromJwk L jwk = .ok key)
    (hpub : verifyingKeyFromJwk L publicJwk = .ok verifyingKey)
    (hverify : ∀ message, ∃ signature, L.signatureFromSlice (L.sign key message) = .ok signature ∧
      L.verify verifyingKey message signature = .ok ()) :
    verifyJwt L fromSlice publicJwk token = .ok (jwtHeader jwk, claims) := by
  obtain ⟨hb, cb', key', hhb, hcb, hkey', rfl⟩ := encodeJwt_ok h
  obtain rfl : cb = cb' := by simpa using hcb
  obtain rfl : key = key' := by simpa [hkey] using hkey'
  obtain ⟨hb', hhb', hhdr⟩ := hL.header_roundtrip (jwtHeader jwk)
  obtain rfl : hb = hb' := by simpa [hhb] using hhb'
  obtain ⟨_, hsig, hver⟩ :=
    hverify (asBytes (L.urlSafeEncode hb ++ "." ++ L.urlSafeEncode cb))
  generalize hsb : L.sign key _ = signatureBytes at hsig ⊢
  have hsplit := splitDots_join [L.urlSafeEncode signatureBytes] (hL.urlSafe_no_dot hb)
    (hL.urlSafe_no_dot cb) (by simpa using hL.urlSafe_no_dot signatureBytes)
  unfold verifyJwt
  rw [hsplit]
  simp [segment, decodeSegment, parseSegment, hL.urlSafe_roundtrip, hhdr, hcs, hsig,
    hpub, hver, Except.mapError, bind, Except.bind, pure, Except.pure]

end

end LocalPlatform.Idp
