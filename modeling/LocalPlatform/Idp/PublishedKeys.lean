import LocalPlatform.Idp.Grants

/-!
# Published keys and the verifier that trusts them

`list_jwks`, which the provider serves at `.well-known/jwks.json`, and `verify_access_token` of
`HostedControlPlane`, which accepts what verifies under one of the keys listed there.
-/

namespace LocalPlatform.Idp

open Resumption

/-- The document of `jwks_uri`. -/
structure Jwks where
  keys : List JwkPublic
deriving DecidableEq, Repr

/-- `From<JwkPrivateParameters> for JwkPublicParameters`, which panics on octet keys. -/
def JwkPrivateParameters.toPublic : JwkPrivateParameters → Option JwkPublicParameters
  | .rsa n e _ _ _ => some (.rsa n e)
  | .ec crv x y _ => some (.ec crv x y)
  | .opk crv x _ => some (.opk crv x)
  | .oct _ => none

/-- `From<JwkPrivate> for JwkPublic` -/
def JwkPrivate.toPublic (jwk : JwkPrivate) : Option JwkPublic := do
  let params ← jwk.params.toPublic
  pure { use := .encryption, kid := jwk.kid, alg := jwk.alg, params }

/-- `list_active` -/
def listActive : RepoTask (List Key) := do
  let now ← utcNow
  let keys := (← allKeys).filter (·.active now)
  ensureKeysClear keys
  pure keys

section
variable (S : OAuth2Service)

/-- The loop of `list_jwks`: a key that cannot be loaded is left out. -/
def publicJwks : List Key → ServiceTask (List JwkPublic)
  | [] => pure []
  | key :: keys =>
    (loadSigningJwk S key).handle fun
    | .error _ => publicJwks keys
    | .ok jwk => do
      let published ← okOr jwk.toPublic (.panicked ("internal error: entered unreachable " ++
        "code: Octet keys are not supported in Jwk Public Parameters"))
      let rest ← publicJwks keys
      pure (published :: rest)

/-- `list_jwks`. -/
def listJwks : ServiceTask Jwks := do
  let keys ← repo listActive
  let jwks ← publicJwks S keys
  pure { keys := jwks }

end

namespace HostedControlPlane

/-- What `verify_access_token` asks of claims once the signature and the issuer are checked. -/
def storageClaims (claims : StandardClaims) (now : ℤ) : Bool :=
  claims.type == .bearer && claims.use == .access && decide (now < claims.exp) &&
    decide (claims.iat ≤ now) && decide (claims.nbf ≤ now) && claims.sub != "" &&
    claims.aud != "" && claims.scope.contains "storage"

/-- `verify_access_token`, with the clock and what the provider answers to the request for its
keys. -/
def verifyAccessToken (L : Libraries) (expectedIssuer : String) (now : DateTime)
    (jwks : Except String Jwks) (token : String) : Except String StandardClaims := do
  let (header, _) ← (decodeJwt L (standardClaimsFromSlice L) token).mapError fun _ =>
    "invalid token"
  let jwks ← jwks
  let jwk ← (jwks.keys.find? fun jwk => jwk.kid == header.kid).elim
    (.error "token signing key is not trusted") .ok
  let (_, claims) ← (verifyJwt L (standardClaimsFromSlice L) jwk token).mapError fun _ =>
    "invalid token"
  if claims.iss ≠ expectedIssuer then .error "token issuer is not the configured issuer"
  else if now < 0 then .error "system clock is before Unix epoch"
  else if !storageClaims claims now.timestamp then .error "invalid storage access token"
  else .ok claims

end HostedControlPlane

end LocalPlatform.Idp
