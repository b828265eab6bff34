import LocalPlatform.Idp.ExchangeTheorems
import Mathlib.Data.UInt

/-!
# Which strings are accepted as tokens

`verify_jwt` takes the first three segments of a string and checks the third as a signature over
the first two. What comes after the third segment is not looked at, and neither is the algorithm
that the header names. So wherever a string is accepted at all, there are accepted strings that do
not have the form of RFC 7515, and none that could not be extended.
-/

namespace LocalPlatform.Idp

open Resumption List Except

/-- The segment is a signature of the message under the key. -/
def SignatureOf (L : Libraries) (jwk : JwkPublic) (message encoded : String) : Prop :=
  ∃ key bytes signature, verifyingKeyFromJwk L jwk = .ok key ∧
    L.urlSafeDecode encoded = .ok bytes ∧ L.signatureFromSlice bytes = .ok signature ∧
    L.verify key (asBytes message) signature = .ok ()

/-- A token of RFC 7515: three segments, of which the last is a signature of all that stands before
the last dot, and a header that names the algorithm of the signature. -/
structure Sealed (L : Libraries) (jwk : JwkPublic) (token : String) (header : JwtHeader) : Prop where
  segments : (splitDots token).length = 3
  covered : ∃ message encoded, token = message ++ "." ++ encoded ∧ '.' ∉ encoded.toList ∧
    SignatureOf L jwk message encoded
  alg : header.alg = jwtHeaderAlg

/-! ## Segments -/

/-- The segments of a string that was extended after a dot. -/
lemma splitDots_append (token tail : String) :
    splitDots (token ++ "." ++ tail) = splitDots token ++ splitDots tail := by
  have hlist : (token ++ "." ++ tail).toList = token.toList ++ '.' :: tail.toList := by simp
  rw [splitDots, hlist, splitOn_append_cons_self, map_append]
  rfl

/-! ## What is accepted -/

section
variable {L : Libraries} {α : Type} {fromSlice : Bytes → Except String α} {jwk : JwkPublic}
  {token : String} {header : JwtHeader} {claims : α}

/-- Acceptance says something about the first three segments, and nothing about what follows. -/
lemma verifyJwt_ok_iff :
    verifyJwt L fromSlice jwk token = .ok (header, claims) ↔
      ∃ h c s rest, splitDots token = h :: c :: s :: rest ∧
        (∃ b, L.urlSafeDecode h = .ok b ∧ L.headerFromSlice b = .ok header) ∧
        (∃ b, L.urlSafeDecode c = .ok b ∧ fromSlice b = .ok claims) ∧
        SignatureOf L jwk (h ++ "." ++ c) s := by
  constructor
  · intro hacc
    obtain ⟨h, _, h1⟩ := except_bind_ok.mp hacc
    obtain ⟨c, _, h2⟩ := except_bind_ok.mp h1
    obtain ⟨s, _, h3⟩ := except_bind_ok.mp h2
    obtain ⟨hb, hhb, h4⟩ := except_bind_ok.mp h3
    obtain ⟨cb, hcb, h5⟩ := except_bind_ok.mp h4
    obtain ⟨sb, hsb, h6⟩ := except_bind_ok.mp h5
    obtain ⟨header', hhdr, h7⟩ := except_bind_ok.mp h6
    obtain ⟨claims', hcs, h8⟩ := except_bind_ok.mp h7
    obtain ⟨signature, hsig, h9⟩ := except_bind_ok.mp h8
    obtain ⟨key, hkey, h10⟩ := except_bind_ok.mp h9
    obtain ⟨_, hver, h11⟩ := except_bind_ok.mp h10
    obtain ⟨rfl, rfl⟩ : header' = header ∧ claims' = claims := by
      simpa [pure, Except.pure] using h11
    refine ⟨h, c, s, (splitDots token).drop 3, ?_,
      ⟨hb, except_mapError_ok.mp hhb, parseSegment_ok.mp hhdr⟩,
      ⟨cb, except_mapError_ok.mp hcb, parseSegment_ok.mp hcs⟩,
      ⟨key, sb, signature, hkey, except_mapError_ok.mp hsb, parseSegment_ok.mp hsig,
        parseSegment_ok.mp hver⟩⟩
    -- three segments were taken one after the other
    rcases hsplit : splitDots token with _ | ⟨p, _ | ⟨q, _ | ⟨r, _⟩⟩⟩ <;>
      simp_all [segment]
  · rintro ⟨h, c, s, _, hsplit, ⟨hb, hhb, hhdr⟩, ⟨cb, hcb, hcs⟩,
      ⟨key, sb, signature, hkey, hsb, hsig, hver⟩⟩
    simp [verifyJwt, hsplit, segment, decodeSegment, parseSegment, hhb, hcb, hsb, hhdr, hcs,
      hsig, hkey, hver, Except.mapError, bind, Except.bind, pure, Except.pure]

/-- Whatever is appended to an accepted string after a dot, it is accepted again. -/
lemma verifyJwt_extended (h : verifyJwt L fromSlice jwk token = .ok (header, claims))
    (tail : String) :
    verifyJwt L fromSlice jwk (token ++ "." ++ tail) = .ok (header, claims) := by
  obtain ⟨h, c, s, rest, hsplit, hrest⟩ := verifyJwt_ok_iff.mp h
  refine verifyJwt_ok_iff.mpr ⟨h, c, s, rest ++ splitDots tail, ?_, hrest⟩
  rw [splitDots_append, hsplit]
  rfl

end

/-! ## Signatures of a fixed size -/

namespace Reference

/-- The header of the provider's tokens under another name for the algorithm. -/
def unsignedHeader : JwtHeader := { jwtHeader signingJwk with alg := "none" }

/-- Sixty-four times the sum of the bytes of the key and the message. -/
def checksum (key message : Bytes) : Bytes := List.replicate 64 (key ++ message).sum

/-- Libraries with short documents for two headers, and signatures of 64 bytes. -/
def checksumLibraries : Libraries :=
  { shortLibraries [jwtHeader signingJwk, unsignedHeader] [subjectClaims] with
    sign := checksum
    signatureFromSlice := fun b => if b.length = 64 then .ok b else .error "signature error"
    verify := fun key message signature =>
      if signature = checksum key message then .ok () else .error "signature error" }

/-- The subject's claims under a header, signed with the reference key. -/
def tokenUnder (header : JwtHeader) : String :=
  let headerBytes := toShortVec [jwtHeader signingJwk, unsignedHeader] header
  let claimsBytes := toShortVec ([subjectClaims].map objectOf) (objectOf subjectClaims)
  let signingInput := spell headerBytes ++ "." ++ spell claimsBytes
  signingInput ++ "." ++ spell (checksum [7] (asBytes signingInput))

/-- Both tokens verify: the algorithm in the header is not looked at. -/
lemma verifyJwt_tokenUnder :
    verifyJwt checksumLibraries (standardClaimsFromSlice checksumLibraries) publicJwk
        (tokenUnder (jwtHeader signingJwk)) = .ok (jwtHeader signingJwk, subjectClaims) ∧
      verifyJwt checksumLibraries (standardClaimsFromSlice checksumLibraries) publicJwk
        (tokenUnder unsignedHeader) = .ok (unsignedHeader, subjectClaims) := by
  decide +kernel

end Reference

/-- Under any key: every accepted string is a token of RFC 7515 exactly if no string is accepted,
and accepted strings cannot be extended exactly if no string is accepted. -/
theorem verifyJwt_sealed_iff_none (L : Libraries) {α : Type} (fromSlice : Bytes → Except String α)
    (jwk : JwkPublic) :
    ((∀ token header claims, verifyJwt L fromSlice jwk token = .ok (header, claims) →
        Sealed L jwk token header) ↔
      ∀ token result, verifyJwt L fromSlice jwk token ≠ .ok result) ∧
    ((∀ token result, verifyJwt L fromSlice jwk token = .ok result →
        ∀ tail, tail ≠ "" → ∀ extended, verifyJwt L fromSlice jwk (token ++ tail) ≠ .ok extended) ↔
      ∀ token result, verifyJwt L fromSlice jwk token ≠ .ok result) := by
  refine ⟨⟨fun hsealed token result h => ?_, fun hnone token _ _ h => absurd h (hnone token _)⟩,
    ⟨fun hfixed token result h => ?_, fun hnone token _ h => absurd h (hnone token _)⟩⟩
  · -- of the string and its extension by a segment, only one can have three segments
    have hshort := (hsealed token _ _ h).segments
    have hlong := (hsealed _ _ _ (verifyJwt_extended h "")).segments
    rw [splitDots_append, length_append, hshort] at hlong
    exact absurd hlong (by decide)
  · have hext := verifyJwt_extended h ""
    rw [String.append_assoc] at hext
    exact hfixed token _ h _ (by decide) _ hext

open Reference

/-- A string of four segments is accepted, and so is one whose header names no algorithm. -/
theorem verifyJwt_accepts_other_forms :
    (∃ result, verifyJwt checksumLibraries
        (standardClaimsFromSlice checksumLibraries) publicJwk
        (tokenUnder (jwtHeader signingJwk) ++ "." ++ "x") = .ok result) ∧
      (splitDots (tokenUnder (jwtHeader signingJwk) ++ "." ++ "x")).length = 4 ∧
      ∃ header claims, verifyJwt checksumLibraries
          (standardClaimsFromSlice checksumLibraries) publicJwk
          (tokenUnder unsignedHeader) = .ok (header, claims) ∧
        header.alg = "none" ∧ header.alg ≠ jwtHeaderAlg :=
  ⟨⟨_, verifyJwt_extended verifyJwt_tokenUnder.1 "x"⟩, by decide +kernel,
    _, _, verifyJwt_tokenUnder.2, rfl, by decide⟩

end LocalPlatform.Idp
