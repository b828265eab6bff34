import LocalPlatform.Idp.IssueTheorems

/-!
# Reading back the claims of a token

A token is read back with the header and the claims it was encoded from, except for its scopes:
they are signed as JSON texts joined by spaces, and are cut at white space when they are read. An
item with white space in its JSON text is therefore cut in two, and the whole token is refused.
-/

namespace LocalPlatform.Idp

open Resumption Text Except

/-- No scope has white space in its JSON text. -/
def Legible (L : Libraries) (scope : List String) : Prop :=
  ∀ item ∈ scope, ∀ j, L.stringToJson item = .ok j → ∀ c ∈ j.toList, isWhitespace c = false

/-! ## Scopes -/

section
variable {L : Libraries} (hJ : L.LawfulStrings) {scope : List String} {text : String}
include hJ

/-- Scopes can be read back exactly when none has white space in its JSON text, and then they are
what was written. -/
lemma deserializeScope_ok_iff (h : serializeScope L scope = .ok text) {read : List String} :
    deserializeScope L text = .ok read ↔ Legible L scope ∧ read = scope := by
  obtain ⟨items, hitems, htext⟩ := except_bind_ok.mp h
  obtain rfl := ok.inj htext
  have hopening : ∀ j ∈ items, ∃ cs, j.toList = '"' :: cs := by
    intro j hj
    obtain ⟨item, -, hitem⟩ := exists_of_mem_mapM hitems hj
    exact hJ.opening item j hitem
  rcases forall_or_first (fun j : String => ∀ c ∈ j.toList, isWhitespace c = false) items with
    hwords | ⟨before, j, after, rfl, hbef, hj⟩
  · have hleg : Legible L scope := by
      intro item hitem j hj
      obtain ⟨j', hmem, hj'⟩ := ok_of_mem_of_mapM hitems hitem
      rw [hj, ok.injEq] at hj'
      exact hj' ▸ hwords j' hmem
    have hsplit : splitWhitespace (" ".intercalate items) = items := by
      refine splitWhitespace_intercalate fun j hj => ⟨?_, hwords j hj⟩
      obtain ⟨cs, hcs⟩ := hopening j hj
      rintro rfl
      simp at hcs
    rw [deserializeScope, hsplit, mapM_of_leftInverse hJ.roundtrip hitems, ok.injEq]
    exact ⟨fun hread => ⟨hleg, hread.symm⟩, fun hread => hread.2.symm⟩
  · obtain ⟨item, hitem, hjson⟩ := exists_of_mem_mapM hitems (b := j) (by simp)
    obtain ⟨cs, hcs⟩ := hopening j (by simp)
    have hws : ∀ w ∈ before, IsWord w := by
      intro w hw
      obtain ⟨cs, hcs⟩ := hopening w (List.mem_append_left _ hw)
      refine ⟨?_, hbef w hw⟩
      rintro rfl
      simp at hcs
    obtain ⟨p, _, hshorter, hne, hsplit⟩ :=
      splitWhitespace_intercalate_cut hws hcs (by decide) hj after
    -- the piece in front of the cut is not a JSON document
    obtain ⟨e, he⟩ := hJ.closing item j p hjson hshorter hne
    constructor
    · intro hread
      rw [deserializeScope, hsplit] at hread
      obtain ⟨b, -, hb⟩ := ok_of_mem_of_mapM hread (a := p) (by simp)
      rw [he] at hb
      cases hb
    · rintro ⟨hleg, -⟩
      exact absurd (hleg item hitem j hjson) hj

end

/-! ## Tokens -/

/-- The token is what signing the claims with the key gives. -/
def Signs (L : Libraries) (jwk : JwkPrivate) (claims : StandardClaims) (token : String) : Prop :=
  encodeJwt L jwk (standardClaimsToVec L claims) = .ok token

instance (L : Libraries) (jwk : JwkPrivate) (claims : StandardClaims) (token : String) :
    Decidable (Signs L jwk claims token) :=
  inferInstanceAs (Decidable (_ = _))

/-- The token was made from these claims. -/
def Carries (L : Libraries) (token : String) (claims : StandardClaims) : Prop :=
  ∃ jwk, Signs L jwk claims token

/-- The same for an ID token, which tells of the user besides. -/
def SignsId (L : Libraries) (jwk : JwkPrivate) (claims : IdTokenClaims) (token : String) : Prop :=
  encodeJwt L jwk (idTokenClaimsToVec L claims) = .ok token

/-- The standard claims of a token, of whatever use. -/
def Bears (L : Libraries) (token : String) (claims : StandardClaims) : Prop :=
  Carries L token claims ∨ ∃ jwk userInfo, SignsId L jwk { standardClaims := claims, userInfo } token

variable {α : Type} {L : Libraries} {fromSlice : Bytes → Except String α} {token : String}
  {header : JwtHeader} {claims : α} {read : StandardClaims} {jwk' : JwkPrivate}

lemma parseSegment_ok {what : String} {x : Except String α} {a : α} :
    parseSegment what x = .ok a ↔ x = .ok a := by
  cases x <;> simp [parseSegment, Except.mapError]

/-- Another reader of the claims sees the same header and the same bytes. -/
lemma decodeJwt_ok (h : decodeJwt L fromSlice token = .ok (header, claims)) :
    ∃ b, fromSlice b = .ok claims ∧ ∀ {β : Type} (fromSlice' : Bytes → Except String β)
      (claims' : β), fromSlice' b = .ok claims' →
        decodeJwt L fromSlice' token = .ok (header, claims') := by
  obtain ⟨_, hhdrEnc, h1⟩ := except_bind_ok.mp h
  obtain ⟨_, hcsEnc, h2⟩ := except_bind_ok.mp h1
  obtain ⟨_, hheaderBytes, h3⟩ := except_bind_ok.mp h2
  obtain ⟨claimsBytes, hclaimsBytes, h4⟩ := except_bind_ok.mp h3
  obtain ⟨header', hhdr, h5⟩ := except_bind_ok.mp h4
  obtain ⟨claims', hcs, h6⟩ := except_bind_ok.mp h5
  obtain ⟨rfl, rfl⟩ : header' = header ∧ claims' = claims := by
    simpa [pure, Except.pure] using h6
  refine ⟨claimsBytes, parseSegment_ok.mp hcs, fun fromSlice' claims'' hother => ?_⟩
  exact except_bind_ok.mpr ⟨_, hhdrEnc, except_bind_ok.mpr ⟨_, hcsEnc,
    except_bind_ok.mpr ⟨_, hheaderBytes, except_bind_ok.mpr ⟨_, hclaimsBytes,
    except_bind_ok.mpr ⟨_, hhdr, except_bind_ok.mpr ⟨_, parseSegment_ok.mpr hother, rfl⟩⟩⟩⟩⟩⟩

/-- Whatever verifies can be decoded, to the same header and claims. -/
lemma decodeJwt_of_verifyJwt {jwk : JwkPublic}
    (h : verifyJwt L fromSlice jwk token = .ok (header, claims)) :
    decodeJwt L fromSlice token = .ok (header, claims) := by
  obtain ⟨_, hhdrEnc, h1⟩ := except_bind_ok.mp h
  obtain ⟨_, hcsEnc, h2⟩ := except_bind_ok.mp h1
  obtain ⟨_, -, h3⟩ := except_bind_ok.mp h2
  obtain ⟨_, hheaderBytes, h4⟩ := except_bind_ok.mp h3
  obtain ⟨_, hclaimsBytes, h5⟩ := except_bind_ok.mp h4
  obtain ⟨_, -, h6⟩ := except_bind_ok.mp h5
  obtain ⟨header', hhdr, h7⟩ := except_bind_ok.mp h6
  obtain ⟨claims', hcs, h8⟩ := except_bind_ok.mp h7
  obtain ⟨_, -, h9⟩ := except_bind_ok.mp h8
  obtain ⟨_, -, h10⟩ := except_bind_ok.mp h9
  obtain ⟨_, -, h11⟩ := except_bind_ok.mp h10
  obtain ⟨rfl, rfl⟩ : header' = header ∧ claims' = claims := by
    simpa [pure, Except.pure] using h11
  exact except_bind_ok.mpr ⟨_, hhdrEnc, except_bind_ok.mpr ⟨_, hcsEnc,
    except_bind_ok.mpr ⟨_, hheaderBytes, except_bind_ok.mpr ⟨_, hclaimsBytes,
    except_bind_ok.mpr ⟨_, hhdr, except_bind_ok.mpr ⟨_, hcs, rfl⟩⟩⟩⟩⟩⟩

section
variable {L : Libraries} {claims : StandardClaims}

/-- Claims are read back exactly where their scopes are legible. -/
lemma standardClaimsFromSlice_ok_iff (hJ : L.LawfulStrings) {text : String} {b : Bytes}
    (htext : serializeScope L claims.scope = .ok text)
    (hb : L.claimsFromSlice b = .ok (claims.toObject text)) (read : StandardClaims) :
    standardClaimsFromSlice L b = .ok read ↔ Legible L claims.scope ∧ read = claims := by
  unfold standardClaimsFromSlice
  rw [hb, except_bind_ok]
  constructor
  · rintro ⟨_, hobject, hrest⟩
    obtain rfl := ok.inj hobject
    obtain ⟨_, hscope, hread⟩ := except_bind_ok.mp hrest
    obtain ⟨hleg, rfl⟩ := (deserializeScope_ok_iff hJ htext).mp hscope
    exact ⟨hleg, (ok.inj hread).symm⟩
  · rintro ⟨hleg, rfl⟩
    refine ⟨_, rfl, except_bind_ok.mpr ⟨read.scope, ?_, rfl⟩⟩
    exact (deserializeScope_ok_iff hJ htext).mpr ⟨hleg, rfl⟩

end

section
variable {L : Libraries} (hL : L.Lawful) (hJ : L.LawfulStrings) {jwk : JwkPrivate}
  {claims : StandardClaims} {token : String}
include hL

/-- What is signed, as bytes. -/
lemma Signs.bytes (h : Signs L jwk claims token) : ∃ text b, serializeScope L claims.scope = .ok text ∧
    L.claimsFromSlice b = .ok (claims.toObject text) ∧ encodeJwt L jwk (.ok b) = .ok token := by
  obtain ⟨text, b, htext, hb, hback⟩ := standardClaimsToVec_total hL claims
  rw [Signs, hb] at h
  exact ⟨text, b, htext, hback, h⟩

variable {claims' : StandardClaims}

/-- What a token was made from, up to the form of its scopes, is written in it. -/
lemma Signs.object_eq (h : Signs L jwk claims token) (h' : Signs L jwk' claims' token) :
    ∃ text text', claims.toObject text = claims'.toObject text' := by
  obtain ⟨text, b, -, hb, henc⟩ := h.bytes hL
  obtain ⟨text', b', -, hb', henc'⟩ := h'.bytes hL
  -- a reader that leaves the claims as bytes sees what was encoded
  have hread : decodeJwt L (.ok : Bytes → Except String Bytes) token = .ok (jwtHeader jwk, b) :=
    decodeJwt_encodeJwt hL henc rfl
  have hread' : decodeJwt L (.ok : Bytes → Except String Bytes) token = .ok (jwtHeader jwk', b') :=
    decodeJwt_encodeJwt hL henc' rfl
  obtain ⟨-, rfl⟩ := Prod.mk.inj (ok.inj (hread.symm.trans hread'))
  exact ⟨text, text', ok.inj (hb.symm.trans hb')⟩

/-- A token determines its claims, apart from how scopes are cut into words. -/
lemma Signs.claims_eq (h : Signs L jwk claims token) (h' : Signs L jwk' claims' token) :
    claims' = { claims with scope := claims'.scope } := by
  obtain ⟨text, text', hobject⟩ := h.object_eq hL h'
  have hcs : claims'.toObject text' = claims.toObject text := hobject.symm
  cases claims
  cases claims'
  simp only [StandardClaims.toObject, ClaimsObject.mk.injEq] at hcs
  simp [hcs]

include hJ

/-- A genuine token is decoded to what it was made from, if it can be decoded at all. -/
lemma Signs.decodeJwt_ok_iff (h : Signs L jwk claims token) {header : JwtHeader} :
    decodeJwt L (standardClaimsFromSlice L) token = .ok (header, read) ↔
      Legible L claims.scope ∧ header = jwtHeader jwk ∧ read = claims := by
  obtain ⟨_, b, htext, hb, henc⟩ := h.bytes hL
  have hcs := standardClaimsFromSlice_ok_iff hJ htext hb
  constructor
  · intro hdec
    obtain ⟨b', hb', hother⟩ := decodeJwt_ok hdec
    -- a reader that leaves the claims as bytes sees what was encoded
    have hbytes : decodeJwt L (.ok : Bytes → Except String Bytes) token = .ok (jwtHeader jwk, b) :=
      decodeJwt_encodeJwt hL henc rfl
    rw [hother (.ok : Bytes → Except String Bytes) b' rfl] at hbytes
    obtain ⟨rfl, rfl⟩ := Prod.mk.inj (ok.inj hbytes)
    obtain ⟨hleg, rfl⟩ := (hcs read).mp hb'
    exact ⟨hleg, rfl, rfl⟩
  · rintro ⟨hleg, rfl, rfl⟩
    exact decodeJwt_encodeJwt hL henc ((hcs read).mpr ⟨hleg, rfl⟩)

end

/-- If an ID token can be read as a token of another use at all, its use says what it is. -/
lemma SignsId.use_eq (hL : L.Lawful) (hI : L.LawfulIdTokens) {jwk : JwkPrivate}
    {claims : IdTokenClaims} (h : SignsId L jwk claims token)
    (hdec : decodeJwt L (standardClaimsFromSlice L) token = .ok (header, read)) :
    read.use = claims.standardClaims.use := by
  obtain ⟨b, hb, hother⟩ := decodeJwt_ok hdec
  obtain ⟨b', hb'⟩ := idTokenClaimsToVec_total hL claims
  rw [SignsId, hb'] at h
  -- a reader that leaves the claims as bytes sees what was encoded
  have hbytes : decodeJwt L (.ok : Bytes → Except String Bytes) token = .ok (jwtHeader jwk, b') :=
    decodeJwt_encodeJwt hL h rfl
  rw [hother (.ok : Bytes → Except String Bytes) b rfl] at hbytes
  obtain ⟨-, rfl⟩ := Prod.mk.inj (ok.inj hbytes)
  obtain ⟨_, hobject, hrest⟩ := except_bind_ok.mp hb
  obtain ⟨_, -, hread⟩ := except_bind_ok.mp hrest
  obtain rfl := ok.inj hread
  obtain ⟨_, -, hvec⟩ := except_bind_ok.mp hb'
  exact hI.use _ _ _ _ hvec hobject

end LocalPlatform.Idp
