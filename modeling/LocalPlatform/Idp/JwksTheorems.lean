import LocalPlatform.Idp.PublishedKeyTheorems
import LocalPlatform.Lib.Encoding

/-!
# Published keys against the standard

What a verifier that follows RFC 7517 and RFC 7518 expects of a published EC key: coordinates of 32
bytes in base64url, and an algorithm that the tokens of the key name as well. The provider publishes
the coordinates in the standard alphabet, and names EdDSA where its tokens name ES256K.
-/

namespace LocalPlatform.Idp

open Resumption Text List

/-- The name of an algorithm in JSON. -/
def JwsAlgorithm.name : JwsAlgorithm → String
  | .rs256 => "RS256"
  | .rs384 => "RS384"
  | .rs512 => "RS512"
  | .es256 => "ES256"
  | .es384 => "ES384"
  | .es512 => "ES512"
  | .ps256 => "PS256"
  | .ps384 => "PS384"
  | .ps512 => "PS512"
  | .edDSA => "EdDSA"

/-- A published key of a point, for tokens that name an algorithm. -/
structure StandardEcKey (L : Libraries) (x y : Bytes) (alg : String) (jwk : JwkPublic) : Prop where
  sizes : x.length = 32 ∧ y.length = 32
  params : jwk.params = .ec "secp256k1" (L.urlSafeEncode x) (L.urlSafeEncode y)
  alg : jwk.alg.name = alg

/-- What is promised of the two base64 engines: they spell bytes as RFC 4648 says. -/
structure Libraries.Base64 (L : Libraries) : Prop where
  standard : ∀ b, L.standardEncode b = base64Standard b
  urlSafe : ∀ b, L.urlSafeEncode b = base64UrlSafe b

/-- A published key comes from an active key that is stored, and has its coordinates. -/
lemma point_of_listed {S : OAuth2Service} {s : Store} {jwks : Jwks}
    (h : (listJwks S).eval s = .ok jwks) {jwk : JwkPublic} (hjwk : jwk ∈ jwks.keys) :
    ∃ key derived x y privateJwk, ActiveKey s key ∧ (storedPrivateKey S key).eval s = .ok derived ∧
      S.libs.publicPoint derived.key = (some x, some y) ∧
      key.toJwkPrivate S.libs derived = .ok privateJwk ∧ jwk.alg = .edDSA ∧
      jwk.params = .ec "secp256k1" (S.libs.standardEncode x) (S.libs.standardEncode y) := by
  obtain ⟨_, hkeys, hlst⟩ := listJwks_ok h
  rw [hlst] at hjwk
  obtain ⟨key, hkey, hpubl⟩ := mem_filterMap.mp hjwk
  obtain ⟨_, hall, rfl, -⟩ := listActive_ok hkeys
  have hact : ActiveKey s key := (activeKey_iff_mem hall).mpr (mem_filter.mp hkey)
  obtain ⟨privateJwk, hload, htoPublic⟩ := Option.bind_eq_some_iff.mp hpubl
  have hloaded : (loadSigningJwk S key).eval s = .ok privateJwk := by
    cases heval : (loadSigningJwk S key).eval s with
    | error e => simp [heval, Except.toOption] at hload
    | ok loaded => simpa [heval, Except.toOption] using hload
  obtain ⟨derived, hder, hpriv⟩ := loadSigningJwk_ok_iff.mp hloaded
  obtain ⟨x, y, -, hpoint, -, -, hparams, -⟩ := toJwk_of_toJwkPrivate hpriv
  have halg : privateJwk.alg = .edDSA := by
    obtain ⟨_, -, hjwk⟩ := except_bind_ok.mp hpriv
    rw [← Except.ok.inj hjwk]
  -- the public form keeps the algorithm and drops the secret
  have hform : jwk.alg = privateJwk.alg ∧
      jwk.params = .ec "secp256k1" (S.libs.standardEncode x) (S.libs.standardEncode y) := by
    rw [JwkPrivate.toPublic, hparams] at htoPublic
    rw [← Option.some.inj htoPublic]
    exact ⟨rfl, rfl⟩
  exact ⟨key, derived, x, y, privateJwk, hact, hder, hpoint, hpriv,
    hform.1.trans halg, hform.2⟩

/-- No key that the provider lists is a standard one for the tokens of that key: its algorithm is
another one than their headers name. Its coordinates are spelled as expected exactly if their
standard spellings do without the two characters in which the alphabets differ. -/
theorem listJwks_never_standard (S : OAuth2Service) (s : Store) (jwks : Jwks)
    (h : (listJwks S).eval s = .ok jwks) (jwk : JwkPublic) (hjwk : jwk ∈ jwks.keys) :
    ∃ key derived x y privateJwk, ActiveKey s key ∧
      (storedPrivateKey S key).eval s = .ok derived ∧
      S.libs.publicPoint derived.key = (some x, some y) ∧
      key.toJwkPrivate S.libs derived = .ok privateJwk ∧
      ¬StandardEcKey S.libs x y (jwtHeader privateJwk).alg jwk ∧
      (S.libs.Base64 →
        (jwk.params = .ec "secp256k1" (S.libs.urlSafeEncode x) (S.libs.urlSafeEncode y) ↔
          ∀ c ∈ (S.libs.standardEncode x ++ S.libs.standardEncode y).toList,
            c ≠ '+' ∧ c ≠ '/')) := by
  obtain ⟨key, derived, x, y, privateJwk, hact, hder, hpoint, hpriv, halg, hparams⟩ :=
    point_of_listed h hjwk
  refine ⟨key, derived, x, y, privateJwk, hact, hder, hpoint, hpriv, ?_, ?_⟩
  · intro hstandard
    have hname := hstandard.alg
    rw [halg] at hname
    exact absurd hname (by decide : JwsAlgorithm.name .edDSA ≠ jwtHeaderAlg)
  · intro hbase64
    rw [hparams, hbase64.standard, hbase64.standard, hbase64.urlSafe, hbase64.urlSafe,
      String.toList_append, forall_mem_append, ← base64Standard_eq_urlSafe_iff,
      ← base64Standard_eq_urlSafe_iff]
    simp

/-! ## The reference installation -/

namespace Reference

/-- Base64 as RFC 4648 has it, and coordinates of 32 bytes. -/
def base64Libraries : Libraries :=
  { libraries with
    standardEncode := base64Standard
    urlSafeEncode := base64UrlSafe
    publicPoint := fun _ => (some (List.replicate 32 251), some (List.replicate 32 1)) }

/-- The fixture's service over a real base64 alphabet. -/
def base64Service : OAuth2Service := { service with libs := base64Libraries }

/-- The one key that is listed. -/
def listedJwk : JwkPublic where
  use := .encryption
  kid := idToString 2
  alg := .edDSA
  params := .ec "secp256k1" (base64Standard (List.replicate 32 251))
    (base64Standard (List.replicate 32 1))

/-- The fixture publishes the key of its user. -/
lemma listJwks_store : (listJwks base64Service).eval store = .ok { keys := [listedJwk] } := by
  decide +kernel

end Reference

open Reference

/-- The key of the reference installation, of which the first coordinate is misspelled besides. -/
theorem listJwks_never_standard_reference :
    ∃ key derived x y privateJwk, ActiveKey store key ∧
      (storedPrivateKey base64Service key).eval store = .ok derived ∧
      base64Libraries.publicPoint derived.key = (some x, some y) ∧
      key.toJwkPrivate base64Libraries derived = .ok privateJwk ∧
      ¬StandardEcKey base64Libraries x y (jwtHeader privateJwk).alg listedJwk ∧
      (listedJwk.params = .ec "secp256k1" (base64Libraries.urlSafeEncode x)
          (base64Libraries.urlSafeEncode y) ↔
        ∀ c ∈ (base64Libraries.standardEncode x ++
          base64Libraries.standardEncode y).toList, c ≠ '+' ∧ c ≠ '/') := by
  obtain ⟨key, derived, x, y, privateJwk, hact, hder, hpoint, hpriv, hnot, hspelled⟩ :=
    listJwks_never_standard base64Service store _ listJwks_store
      listedJwk (mem_singleton_self _)
  exact ⟨key, derived, x, y, privateJwk, hact, hder, hpoint, hpriv, hnot,
    hspelled ⟨fun _ => rfl, fun _ => rfl⟩⟩

/-- The listed key has a coordinate of 32 bytes with a character that base64url does not know, and
names EdDSA, while the tokens that are signed with it name ES256K. -/
theorem listed_key_is_not_standard :
    (listJwks base64Service).eval store =
        .ok { keys := [listedJwk] } ∧
      (∃ rest, (base64Standard (replicate 32 251)).toList = '+' :: rest) ∧
      listedJwk.params ≠ .ec "secp256k1" (base64UrlSafe (replicate 32 251))
        (base64UrlSafe (replicate 32 1)) ∧
      listedJwk.alg.name = "EdDSA" ∧
      ∀ privateJwk, (jwtHeader privateJwk).alg = "ES256K" :=
  ⟨listJwks_store, ⟨_, rfl⟩, by decide +kernel, rfl, fun _ => rfl⟩

end LocalPlatform.Idp
