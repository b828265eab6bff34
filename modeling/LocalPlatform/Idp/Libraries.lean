import LocalPlatform.Idp.Contract

/-!
# Library code under the token service

Base64, JSON, ECDSA over secp256k1, BIP-32 and the password hash come from crates outside the
repository. `Libraries` collects the functions of them that the service calls, and
`Libraries.Lawful` what their documentation promises.
-/

namespace LocalPlatform.Idp

/-- The header of a signed token. -/
structure JwtHeader where
  alg : String
  typ : String
  kid : String
  jwk : Option JwkPublic
deriving DecidableEq, Repr

/-- `StandardClaims` as the JSON object that is signed: the scopes are one string there. -/
structure ClaimsObject where
  type : TokenType
  use : TokenUse
  exp : ℤ
  iat : ℤ
  nbf : ℤ
  iss : String
  aud : String
  clientId : String
  sub : String
  principalType : PrincipalType
  resource : Option String
  authorizationDetails : Option (List AuthorizationDetail)
  scope : String
deriving DecidableEq, Repr

/-- One step of a BIP-32 path. -/
structure ChildNumber where
  index : ℕ
  hardened : Bool
deriving DecidableEq, Repr

/-- The steps of a path from the root of a tree. -/
abbrev DerivationPath := List ChildNumber

/-- An extended private key together with the path it was derived along. -/
structure DerivedKey where
  key : Bytes
  derivationPath : DerivationPath
deriving DecidableEq, Repr

/-- The functions the service takes from other crates. Errors are their display texts. -/
structure Libraries where
  /-- `URL_SAFE_NO_PAD.encode` -/
  urlSafeEncode : Bytes → String
  urlSafeDecode : String → Except String Bytes
  /-- `STANDARD_NO_PAD.encode` -/
  standardEncode : Bytes → String
  standardDecode : String → Except String Bytes
  /-- `serde_json::to_vec` and `from_slice` at the types that are signed -/
  headerToVec : JwtHeader → Except String Bytes
  headerFromSlice : Bytes → Except String JwtHeader
  claimsToVec : ClaimsObject → Except String Bytes
  claimsFromSlice : Bytes → Except String ClaimsObject
  idTokenToVec : ClaimsObject → Option UserInfo → Except String Bytes
  /-- `serde_json::to_string` and `from_str` of one string -/
  stringToJson : String → Except String String
  stringFromJson : String → Except String String
  /-- `SigningKey::from_slice`, keys standing for their bytes -/
  signingKeyFromSlice : Bytes → Except String Bytes
  sign : Bytes → Bytes → Bytes
  signatureFromSlice : Bytes → Except String Bytes
  verifyingKeyFromSec1 : Bytes → Except String Bytes
  verify : Bytes → Bytes → Bytes → Except String Unit
  /-- `DerivationPath::from_str` -/
  parseDerivationPath : String → Except String DerivationPath
  /-- `XPrv::derive_child` -/
  deriveChild : Bytes → ChildNumber → Except String Bytes
  /-- `x()` and `y()` of the uncompressed public point of an extended key -/
  publicPoint : Bytes → Option Bytes × Option Bytes
  privateScalar : Bytes → Bytes
  /-- `XPrv::new` of the seed of a mnemonic, from its entropy and passphrase -/
  masterKey : Bytes → String → Except String Bytes
  /-- `Uuid::to_string` and `Uuid::parse_str` -/
  idToString : Id → String
  parseId : String → Option Id
  sha256 : Bytes → Bytes
  /-- `argon2::hash_encoded` under the configured parameters, of a password and a salt -/
  hashEncoded : Bytes → Bytes → Except String String
  /-- `argon2::verify_encoded` -/
  verifyEncoded : String → Bytes → Except String Bool
  parseRfc3339 : String → Option DateTime
  toRfc3339 : DateTime → String
  /-- display text of the engine's error for a violated unique index -/
  uniqueViolation : String

/-- The bytes of a string, `as_bytes`. -/
def asBytes (s : String) : Bytes := s.toUTF8.toList

/-- What the documentation of the crates promises of them. -/
structure Libraries.Lawful (L : Libraries) : Prop where
  urlSafe_roundtrip : ∀ b, L.urlSafeDecode (L.urlSafeEncode b) = .ok b
  /-- the URL-safe alphabet has no dot -/
  urlSafe_no_dot : ∀ b, '.' ∉ (L.urlSafeEncode b).toList
  header_roundtrip : ∀ h, ∃ b, L.headerToVec h = .ok b ∧ L.headerFromSlice b = .ok h
  claims_roundtrip : ∀ c, ∃ b, L.claimsToVec c = .ok b ∧ L.claimsFromSlice b = .ok c
  idToken_total : ∀ c u, ∃ b, L.idTokenToVec c u = .ok b
  string_total : ∀ s, ∃ j, L.stringToJson s = .ok j
  id_roundtrip : ∀ i, L.parseId (L.idToString i) = some i

/-- What `serde_json` promises of the JSON text of a string. -/
structure Libraries.LawfulStrings (L : Libraries) : Prop where
  roundtrip : ∀ s j, L.stringToJson s = .ok j → L.stringFromJson j = .ok s
  /-- the text opens with a quotation mark -/
  opening : ∀ s j, L.stringToJson s = .ok j → ∃ cs, j.toList = '"' :: cs
  /-- and ends with the one that closes it, so nothing shorter is a document -/
  closing : ∀ s j p, L.stringToJson s = .ok j → p.toList <+: j.toList → p ≠ j →
    ∃ e, L.stringFromJson p = .error e

/-- What is promised of the JSON text of ID claims: if it can be read as standard claims at all,
then with the same use. -/
structure Libraries.LawfulIdTokens (L : Libraries) : Prop where
  use : ∀ c u b read, L.idTokenToVec c u = .ok b → L.claimsFromSlice b = .ok read →
    read.use = c.use

/-- What is promised of base64 and of the signatures of an extended key. -/
structure Libraries.LawfulKeys (L : Libraries) : Prop where
  standard_roundtrip : ∀ b, L.standardDecode (L.standardEncode b) = .ok b
  verifies : ∀ key x y secret, L.publicPoint key = (some x, some y) →
    L.signingKeyFromSlice (L.privateScalar key) = .ok secret →
    ∃ verifyingKey, L.verifyingKeyFromSec1 (4 :: (x ++ y)) = .ok verifyingKey ∧
      ∀ message, ∃ signature, L.signatureFromSlice (L.sign secret message) = .ok signature ∧
        L.verify verifyingKey message signature = .ok ()

end LocalPlatform.Idp
