import LocalPlatform.Idp.Service
import LocalPlatform.Idp.TokenForm
import LocalPlatform.Lib.Encoding

/-!
# Credentials at the token endpoint

`parse_client_auth` of `idp-server/src/router/routes/oauth2/token.rs` reads the credentials of a
client from the `Authorization` header or the form, and
`authenticate_client_for_token_endpoint` compares them with the client's.
-/

namespace LocalPlatform.Idp

open Text List Except

/-- The `STANDARD` engine of the `base64` crate. -/
structure Base64 where
  encode : Bytes → String
  decode : String → Option Bytes

/-- The characters a header may have to be read as a text. -/
def isVisibleAscii (c : Char) : Bool := (32 ≤ c.toNat && c.toNat < 127) || c.toNat == 9

/-- What the encoding of a header relies on. -/
structure Base64.Lawful (B : Base64) : Prop where
  roundtrip : ∀ bytes, B.decode (B.encode bytes) = some bytes
  /-- the alphabet consists of letters, digits and signs -/
  visible : ∀ bytes, ∀ c ∈ (B.encode bytes).toList, isVisibleAscii c = true

/-- The value of a header, one character for each byte. -/
abbrev HeaderValue := String

/-- `HeaderValue::to_str` -/
def headerToStr (value : HeaderValue) : Option String :=
  if value.toList.all isVisibleAscii then some value else none

/-- The credentials in the decoded token of a `Basic` header. -/
def basicCredentials (decoded : String) : ErrorResponseResult OAuth2ClientAuth :=
  let parts := splitOnce ':' decoded
  let clientId := trim parts.1
  if clientId.isEmpty then
    .error (.describe .invalidClient "client_id is required in basic authorization")
  else
    .ok
      { clientId
        clientSecret := parts.2
        method := .clientSecretBasic }

/-- `parse_client_auth`: with a header present, the credentials in the body are not looked at. -/
def parseClientAuth (B : Base64) (authorization : Option HeaderValue) (request : TokenRequest) :
    ErrorResponseResult (Option OAuth2ClientAuth) :=
  match authorization with
  | none => .ok (clientAuthWithoutHeader request)
  | some value =>
    match headerToStr value with
    | none => .error (.describe .invalidClient "invalid authorization header encoding")
    | some raw =>
      match List.isPrefixOf? "Basic ".toList raw.toList with
      | none => .error (.describe .invalidClient "unsupported token endpoint authorization method")
      | some encoded =>
        match (B.decode (String.ofList encoded)).bind ofUtf8 with
        | none => .error (.describe .invalidClient "invalid basic authorization token")
        | some decoded => (basicCredentials decoded).map some

/-- What a client sends to the token endpoint. -/
structure TokenCall where
  authorization : Option HeaderValue
  form : Form
deriving DecidableEq, Repr

/-- The client that a form has to name: the grants that find their client by the form, or compare
it with the form, require the field. -/
def TokenRequest.formClientId : TokenRequest → Option String
  | .password request => some request.clientId
  | .clientCredentials request => some request.clientId
  | .authorizationCode _ | .refreshToken _ | .tokenExchange _ => none

/-- A call passes the authentication as a client: its form is a token request, for that client
where the form has to name one, and its credentials are found and right. -/
def PassesClientAuthentication (B : Base64) (client : Client) (call : TokenCall) : Prop :=
  ∃ request auth, TokenRequest.fromForm call.form = some request ∧
    (∀ clientId ∈ request.formClientId, clientId = client.clientId) ∧
    parseClientAuth B call.authorization request = .ok auth ∧
    authenticateClientForTokenEndpoint client auth = .ok ()

/-! ## Reading the credentials -/

/-- The header that carries an id and a secret. -/
def basicHeader (B : Base64) (bytes : Bytes) : HeaderValue := "Basic " ++ B.encode bytes

lemma headerToStr_basicHeader {B : Base64} (hB : B.Lawful) (bytes : Bytes) :
    headerToStr (basicHeader B bytes) = some (basicHeader B bytes) := by
  refine if_pos ?_
  rw [all_eq_true]
  intro c hc
  rw [basicHeader, String.toList_append, mem_append] at hc
  rcases hc with hc | hc
  · revert c
    simp [isVisibleAscii]
  · exact hB.visible bytes c hc

/-- From a `Basic` header the route reads whatever its bytes spell. -/
lemma parseClientAuth_basicHeader {B : Base64} (hB : B.Lawful) (bytes : Bytes)
    (request : TokenRequest) : parseClientAuth B (some (basicHeader B bytes)) request =
      match ofUtf8 bytes with
      | none => .error (.describe .invalidClient "invalid basic authorization token")
      | some decoded => (basicCredentials decoded).map some := by
  have hscheme : isPrefixOf? "Basic ".toList (basicHeader B bytes).toList =
      some (B.encode bytes).toList := by
    rw [isPrefixOf?_eq_some_iff_append_eq, basicHeader, String.toList_append]
  simp only [parseClientAuth, headerToStr_basicHeader hB, hscheme, String.ofList_toList,
    hB.roundtrip, Option.bind_some]

variable {method : TokenEndpointAuthMethod} {clientId clientSecret : String}

/-- What has to stand before the secret for an id to be read from a header. -/
lemma basicCredentials_ok_iff {clientId clientSecret decoded : String} :
    basicCredentials decoded = .ok ⟨clientId, some clientSecret, method⟩ ↔
      ∃ before : String, decoded.toList = before.toList ++ ':' :: clientSecret.toList ∧
        ':' ∉ before.toList ∧ trim before = clientId ∧ clientId ≠ "" ∧
        method = .clientSecretBasic := by
  rw [basicCredentials]
  constructor
  · intro h
    split at h
    · cases h
    · rename_i hempty
      obtain ⟨hid, hsec, hmeth⟩ := (OAuth2ClientAuth.mk.injEq ..).mp (ok.inj h)
      have hparts : splitOnce ':' decoded = ((splitOnce ':' decoded).1, some clientSecret) := by
        rw [← hsec]
      obtain ⟨hsplit, hcolon⟩ := splitOnce_eq_iff.mp hparts
      refine ⟨_, hsplit, hcolon, hid, ?_, hmeth.symm⟩
      rintro rfl
      exact hempty (by rw [hid]; rfl)
  · rintro ⟨before, hdec, hcolon, htrim, hne, rfl⟩
    have hparts : splitOnce ':' decoded = (before, some clientSecret) :=
      splitOnce_eq_iff.mpr ⟨hdec, hcolon⟩
    have hnonempty : ¬clientId.isEmpty = true := by simpa using hne
    rw [hparts]
    simp only [htrim, if_neg hnonempty]

/-- An id that a `Basic` header can carry: without a colon, without white space at its ends, and
not empty. -/
def BasicId (clientId : String) : Prop :=
  ':' ∉ clientId.toList ∧ trim clientId = clientId ∧ clientId ≠ ""

instance (clientId : String) : Decidable (BasicId clientId) :=
  inferInstanceAs (Decidable (_ ∧ _ ∧ _))

/-- The text `id:secret` is read as this id and this secret exactly if the id can be carried. -/
lemma basicCredentials_pair_iff : basicCredentials (clientId ++ ":" ++ clientSecret) =
        .ok ⟨clientId, some clientSecret, method⟩ ↔
      method = .clientSecretBasic ∧ BasicId clientId := by
  have hpair : (clientId ++ ":" ++ clientSecret).toList =
      clientId.toList ++ ':' :: clientSecret.toList := by simp
  rw [basicCredentials_ok_iff, hpair]
  constructor
  · rintro ⟨_, hsplit, hcolon, htrim, hne, rfl⟩
    -- the secret is what follows the first colon, so the id is what precedes it
    obtain rfl := String.toList_injective (append_cancel_right hsplit)
    exact ⟨rfl, hcolon, htrim, hne⟩
  · rintro ⟨rfl, hcolon, htrim, hne⟩
    exact ⟨clientId, rfl, hcolon, htrim, hne, rfl⟩

/-- The Latin-1 bytes of `id:secret` are read as this id and this secret exactly if the id can be
carried and both are ASCII. -/
lemma basicCredentials_latin1_iff {bytes : Bytes}
    (hbytes : latin1 (clientId ++ ":" ++ clientSecret) = some bytes) :
    (∃ decoded, ofUtf8 bytes = some decoded ∧
        basicCredentials decoded = .ok ⟨clientId, some clientSecret, method⟩) ↔
      method = .clientSecretBasic ∧ BasicId clientId ∧
        ∀ c ∈ (clientId ++ ":" ++ clientSecret).toList, isAscii c = true := by
  have hpair : (clientId ++ ":" ++ clientSecret).toList =
      clientId.toList ++ ':' :: clientSecret.toList := by simp
  constructor
  · rintro ⟨decoded, hdec, hcreds⟩
    obtain ⟨before, hsplit, hcolon, htrim, hne, rfl⟩ := basicCredentials_ok_iff.mp hcreds
    have hutf8 : decoded.toList.flatMap String.utf8EncodeChar = bytes := by
      rw [← toList_toUTF8]
      exact ofUtf8_eq_some_iff.mp hdec
    -- there are as many bytes as characters in the pair, so no room for white space or for a
    -- character of several bytes
    have hcount : bytes.length = clientId.toList.length + 1 + clientSecret.toList.length := by
      rw [length_of_latin1 hbytes, hpair]
      simp only [length_append, length_cons]
      omega
    have hlen : decoded.toList.length = before.toList.length + 1 + clientSecret.toList.length := by
      rw [hsplit]
      simp only [length_append, length_cons]
      omega
    have hle := length_le_length_flatMap_utf8 decoded.toList
    rw [hutf8] at hle
    obtain rfl := trim_eq_self_of_length htrim (by omega)
    have hascii : ∀ c ∈ decoded.toList, isAscii c = true :=
      ascii_of_length_flatMap_utf8_le (by rw [hutf8]; omega)
    rw [hsplit, ← hpair] at hascii
    exact ⟨rfl, ⟨hcolon, htrim, hne⟩, hascii⟩
  · rintro ⟨rfl, hid, hascii⟩
    have hutf8 := (latin1_of_ascii hascii).symm.trans hbytes
    exact ⟨_, ofUtf8_eq_some_iff.mpr (Option.some.inj hutf8),
      basicCredentials_pair_iff.mpr ⟨rfl, hid⟩⟩

/-! ## Comparing the credentials -/

section
variable {B : Base64} {client : Client}

/-- A confidential client has to present its secret by its registered method. -/
lemma authenticate_confidential_iff (hcl : client.clientType = .confidential)
    {auth : Option OAuth2ClientAuth} :
    authenticateClientForTokenEndpoint client auth = .ok () ↔
      auth = some ⟨client.clientId, some client.clientSecret, client.tokenEndpointAuthMethod⟩ ∧
        (client.tokenEndpointAuthMethod = .clientSecretBasic ∨
          client.tokenEndpointAuthMethod = .clientSecretPost) := by
  unfold authenticateClientForTokenEndpoint
  simp only [hcl]
  cases auth with
  | none => simp
  | some auth =>
    obtain ⟨-, -, -⟩ := auth
    simp only [Option.some.injEq, OAuth2ClientAuth.mk.injEq]
    split_ifs with hid hmeth hsec
    · simp [hid]
    · refine iff_of_false (by simp) ?_
      rintro ⟨⟨-, -, rfl⟩, hsupported⟩
      exact hmeth.elim (fun h => h rfl) fun h => h hsupported
    · simp [hsec]
    · rw [not_or, not_not, not_not] at hmeth
      exact iff_of_true rfl ⟨⟨not_not.mp hid, not_not.mp hsec, hmeth.1⟩, hmeth.1 ▸ hmeth.2⟩

/-- Without a header a confidential client passes with the client credentials grant alone. -/
lemma passes_without_header_iff (hcl : client.clientType = .confidential) (form : Form) :
    PassesClientAuthentication B client ⟨none, form⟩ ↔
      client.tokenEndpointAuthMethod = .clientSecretPost ∧
        ∃ r, TokenRequest.fromForm form = some (.clientCredentials r) ∧
          r.clientId = client.clientId ∧ r.clientSecret = client.clientSecret := by
  constructor
  · rintro ⟨request, _, hreq, _, hparse, hauth⟩
    obtain rfl := ok.inj hparse
    obtain ⟨hcreds, -⟩ := (authenticate_confidential_iff hcl).mp hauth
    cases request with
    | clientCredentials r =>
      obtain ⟨hid, hsec, hmeth⟩ :=
        (OAuth2ClientAuth.mk.injEq ..).mp (Option.some.inj hcreds)
      exact ⟨hmeth.symm, r, hreq, hid, Option.some.inj hsec⟩
    | password r => cases hcreds
    | authorizationCode r => cases hcreds
    | refreshToken r => cases hcreds
    | tokenExchange r => cases hcreds
  · rintro ⟨hmeth, r, hreq, hid, hsec⟩
    refine ⟨_, _, hreq, ?_, rfl, (authenticate_confidential_iff hcl).mpr ⟨?_, .inr hmeth⟩⟩
    · rintro _ hcid
      exact (Option.some.inj hcid).symm.trans hid
    · rw [clientAuthWithoutHeader, hid, hsec, hmeth]

/-- With a `Basic` header it passes if the right credentials are read from its bytes. -/
lemma passes_basicHeader_iff (hB : B.Lawful) (hcl : client.clientType = .confidential)
    (bytes : Bytes) (form : Form) :
    PassesClientAuthentication B client ⟨some (basicHeader B bytes), form⟩ ↔
      (∃ decoded, ofUtf8 bytes = some decoded ∧ basicCredentials decoded =
        .ok ⟨client.clientId, some client.clientSecret, client.tokenEndpointAuthMethod⟩) ∧
      ∃ request, TokenRequest.fromForm form = some request ∧
        ∀ clientId ∈ request.formClientId, clientId = client.clientId := by
  constructor
  · rintro ⟨request, auth, hreq, hnames, hparse, hauth⟩
    refine ⟨?_, request, hreq, hnames⟩
    obtain ⟨rfl, -⟩ := (authenticate_confidential_iff hcl).mp hauth
    rw [parseClientAuth_basicHeader hB] at hparse
    split at hparse
    · cases hparse
    · rename_i decoded hdec
      refine ⟨decoded, hdec, ?_⟩
      cases hcreds : basicCredentials decoded with
      | error e => rw [hcreds] at hparse; cases hparse
      | ok auth =>
        rw [hcreds] at hparse
        exact congrArg ok (Option.some.inj (ok.inj hparse))
  · rintro ⟨⟨decoded, hdec, hcreds⟩, request, hreq, hnames⟩
    obtain ⟨-, -, -, -, -, hmeth⟩ := basicCredentials_ok_iff.mp hcreds
    refine ⟨request, _, hreq, hnames, ?_,
      (authenticate_confidential_iff hcl).mpr ⟨rfl, .inl hmeth⟩⟩
    rw [parseClientAuth_basicHeader hB, hdec]
    simp only [hcreds]
    rfl

end

end LocalPlatform.Idp
