import LocalPlatform.Idp.Grants
import Mathlib.Logic.Equiv.List
import Mathlib.Tactic.DeriveEncodable
import Mathlib.Tactic

/-!
# A reference implementation of the library code

Concrete functions for which everything `Libraries.Lawful` asks can be proved. Bytes are spelled
one character each, and a JSON document is the number that encodes its value, written in unary.
-/

namespace LocalPlatform.Idp.Reference

open List Except

/-! ## Codecs -/

instance encodableChar : Encodable Char :=
  Encodable.ofLeftInverse Char.toNat Char.ofNat Char.ofNat_toNat

instance encodableString : Encodable String :=
  Encodable.ofLeftInverse String.toList String.ofList fun _ => String.ofList_toList

deriving instance Encodable for TokenType, TokenUse, PrincipalType, KeyUse, JwsAlgorithm,
  StorageAuthorizationAction

deriving instance Encodable for StorageAuthorizationDetail

deriving instance Encodable for AuthorizationDetail

deriving instance Encodable for JwkPublicParameters

deriving instance Encodable for JwkPublic

deriving instance Encodable for JwtHeader

deriving instance Encodable for ClaimsObject

/-- A value as the unary spelling of its code. -/
def toVec {α : Type} [Encodable α] (a : α) : Bytes := List.replicate (Encodable.encode a) 0

/-- Reads the number of bytes back as a value. -/
def fromSlice {α : Type} [Encodable α] (b : Bytes) : Except String α :=
  (Encodable.decode b.length).elim (.error "invalid document") .ok

/-- A document is read back. -/
lemma fromSlice_toVec {α : Type} [Encodable α] (a : α) : fromSlice (toVec a) = .ok a := by
  simp [fromSlice, toVec]

/-- One character above the ASCII range for every byte. -/
def spell (b : Bytes) : String := String.ofList (b.map fun byte => Char.ofNat (byte.toNat + 256))

/-- The inverse of `spell`. -/
def unspell (s : String) : Bytes := s.toList.map fun c => UInt8.ofNat (c.toNat - 256)

lemma toNat_ofNat_byte (byte : UInt8) : (Char.ofNat (byte.toNat + 256)).toNat = byte.toNat + 256 := by
  have hlt : byte.toNat < 256 := byte.toNat_lt
  have hvalid : (byte.toNat + 256).isValidChar := .inl (by omega)
  rw [Char.ofNat, dif_pos hvalid]
  rfl

/-- Bytes are read back. -/
lemma unspell_spell (b : Bytes) : unspell (spell b) = b := by
  simp only [unspell, spell, String.toList_ofList, map_map]
  conv_rhs => rw [← map_id b]
  refine map_congr_left fun byte _ => ?_
  simp only [Function.comp_apply, toNat_ofNat_byte, Nat.add_sub_cancel]
  simp

/-- No segment contains the separator of a token. -/
lemma dot_notMem_spell (b : Bytes) : '.' ∉ (spell b).toList := by
  simp only [spell, String.toList_ofList, mem_map, not_exists, not_and]
  intro byte _ hbyte
  have hnat := toNat_ofNat_byte byte
  rw [hbyte] at hnat
  have hdot : '.'.toNat = 46 := rfl
  omega

/-- Identifiers in unary. -/
def idToString (i : Id) : String := String.ofList (List.replicate i 'u')

lemma length_idToString (i : Id) : (idToString i).toList.length = i := by
  simp [idToString]

/-! ## The libraries -/

/-- Libraries that are total and easy to compute with: a signature is the key before the message, a
digest the text itself. -/
def libraries : Libraries where
  urlSafeEncode := spell
  urlSafeDecode s := .ok (unspell s)
  standardEncode := spell
  standardDecode s := .ok (unspell s)
  headerToVec h := .ok (toVec h)
  headerFromSlice := fromSlice
  claimsToVec c := .ok (toVec c)
  claimsFromSlice := fromSlice
  idTokenToVec c _ := .ok (toVec c)
  stringToJson := .ok
  stringFromJson := .ok
  signingKeyFromSlice := .ok
  sign key message := key ++ message
  signatureFromSlice := .ok
  verifyingKeyFromSec1 b := .ok b.tail
  verify key message signature := if signature = key ++ message then .ok () else .error "mismatch"
  parseDerivationPath _ := .ok []
  deriveChild key child := .ok (UInt8.ofNat child.index :: key)
  publicPoint key := (some key, some [])
  privateScalar key := key
  masterKey entropy passphrase := .ok (entropy ++ asBytes passphrase)
  idToString := idToString
  parseId s := some s.toList.length
  sha256 b := b
  hashEncoded input _ := .ok (spell input)
  verifyEncoded hash input := .ok (asBytes hash == input)
  parseRfc3339 _ := none
  toRfc3339 _ := ""
  uniqueViolation := "unique index violated"

/-- The reference libraries keep the laws. -/
lemma libraries_lawful : libraries.Lawful where
  urlSafe_roundtrip b := congrArg ok (unspell_spell b)
  urlSafe_no_dot := dot_notMem_spell
  header_roundtrip h := ⟨toVec h, rfl, fromSlice_toVec h⟩
  claims_roundtrip c := ⟨toVec c, rfl, fromSlice_toVec c⟩
  idToken_total c _ := ⟨toVec c, rfl⟩
  string_total s := ⟨s, rfl⟩
  id_roundtrip i := congrArg some (length_idToString i)

lemma libraries_lawfulKeys : libraries.LawfulKeys where
  standard_roundtrip b := congrArg ok (unspell_spell b)
  verifies key x y secret hpoint hsec := by
    obtain ⟨rfl, rfl⟩ : key = x ∧ [] = y := by simpa [libraries] using hpoint
    obtain rfl := ok.inj hsec
    refine ⟨key, by simp [libraries], fun message => ⟨_, rfl, if_pos rfl⟩⟩

/-! ## Derivation paths -/

/-- One step of a path: its digits, and the mark of a hardened step. -/
def parseStep (step : List Char) : Option ChildNumber :=
  let hardened := step.getLast? == some (Char.ofNat 39)
  let digits := if hardened then step.dropLast else step
  if digits = [] ∨ !digits.all Char.isDigit then none
  else some { index := digits.foldl (fun n c => 10 * n + (c.toNat - '0'.toNat)) 0, hardened }

/-- Paths such as `m/0'/1`. -/
def parsePath (text : String) : Except String DerivationPath :=
  match text.toList.splitOn '/' with
  | ['m'] :: steps => (steps.mapM parseStep).elim (.error "invalid derivation path") .ok
  | _ => .error "invalid derivation path"

/-- The reference libraries with a parser of paths. -/
def pathLibraries : Libraries := { libraries with parseDerivationPath := parsePath }

lemma pathLibraries_lawful : pathLibraries.Lawful :=
  { libraries_lawful with }

/-! ## Quoted strings -/

/-- The characters of a quoted string: each one escaped, and a quotation mark at the end. -/
def quoteChars : List Char → List Char
  | [] => ['"']
  | c :: cs => '+' :: c :: quoteChars cs

/-- Reads what `quoteChars` writes, up to the closing quote. -/
def unquoteChars : List Char → Option (List Char)
  | ['"'] => some []
  | '+' :: c :: cs => (unquoteChars cs).map (c :: ·)
  | _ => none

/-- A quoted string is read back. -/
lemma unquoteChars_quoteChars (cs : List Char) : unquoteChars (quoteChars cs) = some cs := by
  induction cs with
  | nil => rfl
  | cons c cs ih => simp [quoteChars, unquoteChars, ih]

/-- Nothing shorter than a quoted string is one. -/
lemma unquoteChars_of_shorter {cs p : List Char} (hshorter : p <+: quoteChars cs)
    (hne : p ≠ quoteChars cs) : unquoteChars p = none := by
  induction cs generalizing p with
  | nil =>
    obtain ⟨_, hrest⟩ := hshorter
    cases p with
    | nil => rfl
    | cons c p =>
      simp only [quoteChars, cons_append, cons.injEq, append_eq_nil_iff] at hrest
      obtain ⟨rfl, rfl, -⟩ := hrest
      exact absurd rfl hne
  | cons c cs ih =>
    rw [quoteChars] at hshorter hne
    cases p with
    | nil => rfl
    | cons a p =>
      rw [cons_prefix_cons] at hshorter
      obtain ⟨rfl, hshorter⟩ := hshorter
      cases p with
      | nil => rfl
      | cons b p =>
        rw [cons_prefix_cons] at hshorter
        obtain ⟨rfl, hshorter⟩ := hshorter
        rw [unquoteChars, ih hshorter (by simpa using hne)]
        rfl

/-- A string literal with every character escaped. -/
def quote (s : String) : String := String.ofList ('"' :: quoteChars s.toList)

/-- The inverse of `quote`. -/
def unquote (s : String) : Except String String :=
  match s.toList with
  | '"' :: cs => (unquoteChars cs).elim (.error "not a string") fun cs => .ok (String.ofList cs)
  | _ => .error "not a string"

/-- The reference libraries with strings in quotation marks. -/
def quotingLibraries : Libraries :=
  { libraries with stringToJson := fun s => .ok (quote s), stringFromJson := unquote }

lemma quotingLibraries_lawful : quotingLibraries.Lawful :=
  { libraries_lawful with string_total := fun s => ⟨quote s, rfl⟩ }

lemma quotingLibraries_lawfulKeys : quotingLibraries.LawfulKeys :=
  { libraries_lawfulKeys with }

lemma quotingLibraries_lawfulStrings : quotingLibraries.LawfulStrings where
  roundtrip := by
    rintro s j hj
    obtain rfl := ok.inj hj
    simp [quotingLibraries, unquote, quote, unquoteChars_quoteChars]
  opening := by
    rintro s j hj
    obtain rfl := ok.inj hj
    exact ⟨_, String.toList_ofList⟩
  closing := by
    rintro s j p hj hshorter hne
    obtain rfl := ok.inj hj
    have hlists : p.toList ≠ '"' :: quoteChars s.toList := by
      intro h
      refine hne ?_
      rw [quote, ← h, String.ofList_toList]
    rw [quote, String.toList_ofList] at hshorter
    show ∃ e, unquote p = .error e
    unfold unquote
    split
    · rename_i cs hcs
      rw [hcs] at hshorter hlists
      rw [cons_prefix_cons] at hshorter
      rw [unquoteChars_of_shorter hshorter.2 (by simpa using hlists)]
      exact ⟨_, rfl⟩
    · exact ⟨_, rfl⟩

/-! ## Short documents -/

section
variable {α : Type} [Encodable α] [DecidableEq α] (known : List α)

/-- The values of a list are spelled by their position, all others as before. -/
def toShortVec (a : α) : Bytes :=
  match known.findIdx? (· == a) with
  | some n => List.replicate (n + 1) 1
  | none => 0 :: toVec a

/-- Reads a known document by its place in the list, every other one by `fromSlice`. -/
def fromShortSlice : Bytes → Except String α
  | [] => .error "invalid document"
  | b :: bs => if b = 0 then fromSlice bs else (known[bs.length]?).elim (.error "invalid document") .ok

/-- A document is read back, known or not. -/
lemma fromShortSlice_toShortVec (a : α) : fromShortSlice known (toShortVec known a) = .ok a := by
  unfold toShortVec
  split
  · rename_i n hn
    obtain ⟨hlt, hknown, -⟩ := findIdx?_eq_some_iff_getElem.mp hn
    rw [beq_iff_eq] at hknown
    simp [fromShortSlice, replicate_succ, hlt, hknown]
  · simp [fromShortSlice, fromSlice_toVec]

end

/-- The claims as an object of the quoting libraries. -/
def objectOf (claims : StandardClaims) : ClaimsObject :=
  claims.toObject (" ".intercalate (claims.scope.map quote))

/-- The quoting libraries with short documents for some headers and claims, so that tokens made
from them can be computed. -/
def shortLibraries (headers : List JwtHeader) (known : List StandardClaims) : Libraries :=
  { quotingLibraries with
    headerToVec := fun h => .ok (toShortVec headers h)
    headerFromSlice := fromShortSlice headers
    claimsToVec := fun c => .ok (toShortVec (known.map objectOf) c)
    claimsFromSlice := fromShortSlice (known.map objectOf)
    idTokenToVec := fun c _ => .ok (toShortVec (known.map objectOf) c) }

section
variable (headers : List JwtHeader) (known : List StandardClaims)

/-- So do the libraries with short documents. -/
lemma shortLibraries_lawful : (shortLibraries headers known).Lawful :=
  { quotingLibraries_lawful with
    header_roundtrip := fun h => ⟨_, rfl, fromShortSlice_toShortVec headers h⟩
    claims_roundtrip := fun c => ⟨_, rfl, fromShortSlice_toShortVec _ c⟩
    idToken_total := fun _ _ => ⟨_, rfl⟩ }

lemma shortLibraries_lawfulStrings : (shortLibraries headers known).LawfulStrings :=
  { quotingLibraries_lawfulStrings with }

lemma shortLibraries_lawfulIdTokens : (shortLibraries headers known).LawfulIdTokens where
  use c _ b read hb hread := by
    obtain rfl := ok.inj hb
    have hback := fromShortSlice_toShortVec (known.map objectOf) c
    rw [ok.inj (hread.symm.trans hback)]

end

/-! ## A small installation -/

/-- The service over these libraries with the default configuration. -/
def service : OAuth2Service where
  libs := libraries
  oauthConfig := {}
  keyNamespace := "idp"

/-- The service with scopes that can be read back. -/
def quotingService : OAuth2Service := { service with libs := quotingLibraries }

/-- A user with number 1. -/
def user : UserRow where
  id := 1
  name := "alice"
  givenName := none
  familyName := none
  middleName := none
  nickname := none
  profile := none
  picture := none
  website := none
  sex := none
  birthdate := none
  zoneinfo := none
  locale := none
  createdAt := 0
  updatedAt := 0
  handle := "alice"

/-- The root key of the user, with number 2. -/
def userKey : KeyRow where
  id := 2
  parentId := none
  entityType := 0
  entityId := 1
  derivationPath := "m/0'"
  derivationIndex := 0
  hardened := 1
  name := "alice"
  revokedAt := none
  expiresAt := none
  createdAt := 0
  updatedAt := 0

/-- A public client with number 3 that may use every user grant. -/
def client : Client where
  id := 3
  applicationId := 4
  clientId := "app"
  clientSecret := ""
  clientIdIssuedAt := none
  clientSecretExpiresAt := none
  clientName := "app"
  clientUri := ""
  redirectUris := []
  clientType := .publicClient
  profile := .native
  tokenEndpointAuthMethod := .none
  allowedGrantTypes := [.authorizationCode, .refreshToken, .tokenExchange]
  responseTypes := [.code]
  allowedScopes := []
  allowedAudiences := []
  logoUri := none
  contacts := []
  termsOfServiceUri := none
  policyUri := none
  softwareStatement := none
  softwareId := none
  softwareVersion := none
  createdAt := 0
  updatedAt := 0

/-- The user, its key and the client, with nothing in conflict. -/
def store : Store where
  applications := []
  clients := [client.toRow]
  keys := [userKey]
  users := [user]
  userEmails := []
  credentials := []
  authorizationCodes := []
  conflicts _ _ := []
  privateKeys _ path := some { key := [7], derivationPath := path }
  now := 0

end LocalPlatform.Idp.Reference
