import LocalPlatform.Idp.Reference
import LocalPlatform.Oidc.Credentials

/-!
# Which right credentials are accepted

The token endpoint reads credentials from the form for one grant only, and from a `Basic` header
by cutting at the first colon and trimming the id. So a client with the right id and secret passes
or not depending on the grant and on the characters of its id, and, where the browser encodes the
header, of its secret.
-/

namespace LocalPlatform.Oidc

open Idp Text TokenRequest Option String

section
variable {B : Base64} {client : Client}

/-- The right credentials in a `Basic` header, in UTF-8. -/
lemma passes_utf8_header_iff (hB : B.Lawful) (hcl : client.clientType = .confidential)
    (form : Form) :
    PassesClientAuthentication B client
        ⟨some (basicHeader B (asBytes (client.clientId ++ ":" ++ client.clientSecret))), form⟩ ↔
      client.tokenEndpointAuthMethod = .clientSecretBasic ∧ BasicId client.clientId ∧
        ∃ request, fromForm form = some request ∧
          ∀ clientId ∈ request.formClientId, clientId = client.clientId := by
  have hspelled : ofUtf8 (asBytes (client.clientId ++ ":" ++ client.clientSecret)) =
      some (client.clientId ++ ":" ++ client.clientSecret) := ofUtf8_eq_some_iff.mpr rfl
  rw [passes_basicHeader_iff hB hcl, hspelled]
  simp only [some.injEq, exists_eq_left', basicCredentials_pair_iff, and_assoc]

/-- A form without a secret does not pass. -/
lemma not_passes_without_secret (hcl : client.clientType = .confidential) {form : Form}
    (hform : Json.field form "client_secret" = none) :
    ¬PassesClientAuthentication B client ⟨none, form⟩ := by
  rw [passes_without_header_iff hcl]
  rintro ⟨-, r, hreq, -⟩
  have hsec := (fromForm_clientCredentials hreq).2
  rw [hform] at hsec
  cases hsec

/-- A form with the right credentials passes for the client credentials grant. -/
lemma passes_post_iff (hcl : client.clientType = .confidential) (body : Form) :
    PassesClientAuthentication B client ⟨none, setField (setField body "client_id" client.clientId)
        "client_secret" client.clientSecret⟩ ↔
      client.tokenEndpointAuthMethod = .clientSecretPost ∧
        ∃ r, fromForm (setField (setField body "client_id" client.clientId)
          "client_secret" client.clientSecret) = some (.clientCredentials r) := by
  rw [passes_without_header_iff hcl]
  refine and_congr_right fun _ => exists_congr fun r => ⟨And.left, fun hreq => ?_⟩
  obtain ⟨hid, hsec⟩ := fromForm_clientCredentials hreq
  rw [field_setField_of_ne (by decide), field_setField_self] at hid
  rw [field_setField_self] at hsec
  exact ⟨hreq, (some.inj hid).symm, (some.inj hsec).symm⟩

/-- What the call of a browser client needs to pass: a secret that is not empty, and then either
the client credentials grant, for credentials in the form, or an id (and with `btoa` a secret)
that the header can carry, for credentials in the header. -/
def Accepted (client : Client) (encoder : Base64Encoder) (form : Form) : Prop :=
  client.clientSecret ≠ "" ∧
    ((client.tokenEndpointAuthMethod = .clientSecretPost ∧
        ∃ r, fromForm form = some (.clientCredentials r)) ∨
      (client.tokenEndpointAuthMethod = .clientSecretBasic ∧ BasicId client.clientId ∧
        (encoder = .btoa →
          ∀ c ∈ (client.clientId ++ ":" ++ client.clientSecret).toList, isAscii c = true) ∧
        ∃ request, fromForm form = some request ∧
          ∀ clientId ∈ request.formClientId, clientId = client.clientId))

/-- What the browser client sends passes the token endpoint exactly where it is `Accepted`. -/
lemma passes_addClientAuthentication_iff (hB : B.Lawful)
    (hcl : client.clientType = .confidential) {encoder : Base64Encoder} {body : Form}
    {call : TokenCall} (hbody : "client_secret" ∉ body.map Prod.fst)
    (hcall : addClientAuthentication B encoder
      ⟨some client.tokenEndpointAuthMethod, some client.clientSecret⟩ client.clientId body =
        some call) :
    PassesClientAuthentication B client call ↔ Accepted client encoder call.form := by
  have hnosecret :
      Json.field (setField body "client_id" client.clientId) "client_secret" = none := by
    rw [field_setField_of_ne (by decide), field_of_notMem hbody]
  rw [addClientAuthentication] at hcall
  by_cases hempty : client.clientSecret = ""
  · -- an empty secret is not sent at all
    have hfalsy : truthy (some client.clientSecret) = none := by simp [truthy, hempty]
    have hcalls : some call = some ⟨none, setField body "client_id" client.clientId⟩ := by
      rw [← hcall, hfalsy]
      split_ifs <;> rfl
    obtain rfl := some.inj hcalls
    exact iff_of_false (not_passes_without_secret hcl hnosecret) fun h => h.1 hempty
  · have htruthy : truthy (some client.clientSecret) = some client.clientSecret := by
      simp [truthy, hempty]
    rw [htruthy] at hcall
    simp only [some.injEq] at hcall
    split_ifs at hcall with hpost hnone
    · obtain rfl := some.inj hcall
      rw [passes_post_iff hcl, Accepted]
      simp [hempty, hpost]
    · obtain rfl := some.inj hcall
      refine iff_of_false (not_passes_without_secret hcl hnosecret) ?_
      rintro ⟨-, ⟨h, -⟩ | ⟨h, -⟩⟩ <;> rw [hnone] at h <;> cases h
    · obtain ⟨_, hencoded, rfl⟩ := map_eq_some_iff.mp hcall
      rw [Accepted]
      cases encoder with
      | missing => cases hencoded
      | buffer =>
        obtain rfl := some.inj hencoded
        have hpasses := passes_utf8_header_iff hB hcl body
        rw [basicHeader] at hpasses
        rw [hpasses]
        simp [hempty, hpost]
      | btoa =>
        obtain ⟨bytes, hbytes, rfl⟩ := map_eq_some_iff.mp hencoded
        have hpasses := passes_basicHeader_iff hB hcl bytes body
        rw [basicHeader] at hpasses
        rw [hpasses, basicCredentials_latin1_iff hbytes]
        simp only [and_assoc, ne_eq, hempty, not_false_eq_true, hpost, false_and, false_or, true_and,
          forall_const]

end

/-- When a confidential client passes the authentication of the token endpoint: without a header,
with its right credentials in a `Basic` header, and with the call that a browser client builds from
its credentials. -/
theorem client_authentication_passes_iff (B : Base64) (hB : B.Lawful) (client : Client)
    (hclient : client.clientType = .confidential) :
    (∀ form, PassesClientAuthentication B client ⟨none, form⟩ ↔
      client.tokenEndpointAuthMethod = .clientSecretPost ∧
        ∃ r, fromForm form = some (.clientCredentials r) ∧
          r.clientId = client.clientId ∧ r.clientSecret = client.clientSecret) ∧
    (∀ form, PassesClientAuthentication B client
        ⟨some (basicHeader B (asBytes (client.clientId ++ ":" ++ client.clientSecret))), form⟩ ↔
      client.tokenEndpointAuthMethod = .clientSecretBasic ∧ BasicId client.clientId ∧
        ∃ request, fromForm form = some request ∧
          ∀ clientId ∈ request.formClientId, clientId = client.clientId) ∧
    ∀ encoder body call, "client_secret" ∉ body.map Prod.fst →
      addClientAuthentication B encoder
        ⟨some client.tokenEndpointAuthMethod, some client.clientSecret⟩ client.clientId body =
          some call →
      (PassesClientAuthentication B client call ↔ Accepted client encoder call.form) :=
  ⟨passes_without_header_iff hclient, passes_utf8_header_iff hB hclient,
    fun _ _ _ hbody hcall => passes_addClientAuthentication_iff hB hclient hbody hcall⟩

/-! ## Two clients -/

namespace Reference

/-- Half a byte as a letter. -/
def letter (n : ℕ) : Char := Char.ofNat (97 + n)

/-- Two letters for every byte. -/
def letters (bytes : Bytes) : List Char :=
  bytes.flatMap fun byte => [letter (byte.toNat / 16), letter (byte.toNat % 16)]

/-- Two letters as a byte. -/
def ofLetters : List Char → Option Bytes
  | [] => some []
  | [_] => none
  | high :: low :: rest =>
    (ofLetters rest).map fun bytes =>
      UInt8.ofNat ((high.toNat - 97) * 16 + (low.toNat - 97)) :: bytes

/-- An encoding in letters, for the fixtures. -/
def base64 : Base64 where
  encode bytes := String.ofList (letters bytes)
  decode s := ofLetters s.toList

lemma toNat_letter {n : ℕ} (hn : n < 16) : (letter n).toNat = 97 + n := by
  interval_cases n <;> rfl

lemma ofLetters_letters (bytes : Bytes) : ofLetters (letters bytes) = some bytes := by
  induction bytes with
  | nil => rfl
  | cons byte bytes ih =>
    have hbyte : byte.toNat < 256 := byte.toNat_lt
    have hback : (97 + byte.toNat / 16 - 97) * 16 + (97 + byte.toNat % 16 - 97) = byte.toNat := by
      omega
    show (ofLetters (letters bytes)).map _ = _
    rw [ih, map_some, toNat_letter (by omega), toNat_letter (by omega), hback]
    simp

lemma base64_lawful : base64.Lawful where
  roundtrip bytes := by
    show ofLetters (ofList (letters bytes)).toList = some bytes
    rw [toList_ofList, ofLetters_letters]
  visible bytes c hc := by
    rw [show (base64.encode bytes).toList = letters bytes from toList_ofList] at hc
    obtain ⟨byte, -, hc⟩ := List.mem_flatMap.mp hc
    have hbyte : byte.toNat < 256 := byte.toNat_lt
    have hletter : ∃ n, n < 16 ∧ c = letter n := by
      rcases List.mem_cons.mp hc with rfl | hc
      · exact ⟨_, by omega, rfl⟩
      · exact ⟨_, by omega, List.mem_singleton.mp hc⟩
    obtain ⟨n, hn, rfl⟩ := hletter
    have hnat := toNat_letter hn
    simp only [isVisibleAscii, hnat]
    simp
    omega

/-- A client that is registered to send its secret in the form. -/
def postClient : Client :=
  { Idp.Reference.client with
    clientSecret := "s3cret"
    clientType := .confidential
    tokenEndpointAuthMethod := .clientSecretPost
    allowedGrantTypes := [.authorizationCode, .clientCredentials] }

/-- A client with a colon in its id that is registered to send its secret in a header. -/
def colonClient : Client :=
  { postClient with
    clientId := "app:1"
    tokenEndpointAuthMethod := .clientSecretBasic }

/-- The form of a code's redemption. -/
def codeBody : Form :=
  [("grant_type", "authorization_code"), ("code", "c0de"), ("redirect_uri", "https://app.test/"),
    ("code_verifier", "verifier")]

/-- The form of a client credentials request. -/
def credentialsBody : Form := [("grant_type", "client_credentials"), ("scope", "read")]

end Reference

open Reference in
/-- Credentials in the body pass. -/
theorem client_authentication_passes_post :
    ∃ call, addClientAuthentication base64 .btoa ⟨some .clientSecretPost, some "s3cret"⟩ "app"
        credentialsBody = some call ∧ PassesClientAuthentication base64 postClient call :=
  ⟨_, rfl, ((client_authentication_passes_iff base64 base64_lawful postClient rfl).2.2 .btoa
    credentialsBody _ (by decide) rfl).mpr ⟨by decide, .inl ⟨rfl, _, rfl⟩⟩⟩

open Reference in
/-- With the right credentials, the one client cannot redeem a code and the other one cannot
authenticate at all. -/
theorem right_credentials_refused :
    (.authorizationCode ∈ postClient.allowedGrantTypes ∧
      ∃ call, addClientAuthentication base64 .btoa ⟨some .clientSecretPost, some "s3cret"⟩ "app"
          codeBody = some call ∧ ¬PassesClientAuthentication base64 postClient call) ∧
    ∃ call, addClientAuthentication base64 .btoa ⟨some .clientSecretBasic, some "s3cret"⟩ "app:1"
        codeBody = some call ∧ ¬PassesClientAuthentication base64 colonClient call := by
  have hpost : addClientAuthentication base64 .btoa
      ⟨some postClient.tokenEndpointAuthMethod, some postClient.clientSecret⟩ postClient.clientId
        codeBody = some _ := rfl
  have hcolon : addClientAuthentication base64 .btoa
      ⟨some colonClient.tokenEndpointAuthMethod, some colonClient.clientSecret⟩
        colonClient.clientId codeBody = some _ := rfl
  refine ⟨⟨by decide, _, hpost, fun hpasses => ?_⟩, _, hcolon, fun hpasses => ?_⟩
  · obtain ⟨-, ⟨-, r, hr⟩ | ⟨hmeth, -⟩⟩ := (passes_addClientAuthentication_iff base64_lawful
      (show postClient.clientType = _ from rfl) (by decide) hpost).mp hpasses
    · cases hr
    · cases hmeth
  · obtain ⟨-, ⟨hmeth, -⟩ | ⟨-, hid, -⟩⟩ := (passes_addClientAuthentication_iff base64_lawful
      (show colonClient.clientType = _ from rfl) (by decide) hcolon).mp hpasses
    · cases hmeth
    · exact absurd hid (by decide)

end LocalPlatform.Oidc
