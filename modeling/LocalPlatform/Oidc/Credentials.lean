import LocalPlatform.Idp.ClientAuth

/-!
# Credentials of the browser client

`addClientAuthentication` of `packages/oidc-client/src/OidcClient.ts`: how the client puts its
credentials into a call of the token endpoint.
-/

namespace LocalPlatform.Oidc

open Idp Text List

/-- `URLSearchParams.set`: the first field of the name gets the value and the others go; without
such a field there is a new one at the end. -/
def setField (form : Form) (name value : String) : Form :=
  match form with
  | [] => [(name, value)]
  | entry :: rest =>
    if entry.1 = name then (name, value) :: rest.filter fun other => other.1 != name
    else entry :: setField rest name value

/-- The settings of the client that its credentials depend on. -/
structure OidcClientConfig where
  /-- `registration?.tokenEndpointAuthMethod` -/
  tokenEndpointAuthMethod : Option TokenEndpointAuthMethod
  clientSecret : Option String
deriving DecidableEq, Repr

/-- The base64 encoder that the platform offers. -/
inductive Base64Encoder where
  | btoa
  | buffer
  | missing
deriving DecidableEq, Repr

/-- `encodeBasicAuth`. The function `btoa` takes a character for a byte and throws at characters
above 255; without an encoder the client throws as well. -/
def encodeBasicAuth (B : Base64) (encoder : Base64Encoder) (clientId clientSecret : String) :
    Option String :=
  let value := clientId ++ ":" ++ clientSecret
  match encoder with
  | .btoa => (latin1 value).map B.encode
  | .buffer => some (B.encode (asBytes value))
  | .missing => none

/-- A string that is there and not empty, as a condition takes it. -/
def truthy (value : Option String) : Option String := value.filter (· != "")

/-- The call that carries a body and the credentials; none if encoding them throws. -/
def addClientAuthentication (B : Base64) (encoder : Base64Encoder) (config : OidcClientConfig)
    (clientId : String) (body : Form) : Option TokenCall :=
  if config.tokenEndpointAuthMethod = some .clientSecretPost then
    let body := setField body "client_id" clientId
    some
      { authorization := none
        form := match truthy config.clientSecret with
          | some clientSecret => setField body "client_secret" clientSecret
          | none => body }
  else if config.tokenEndpointAuthMethod = some .none then
    some { authorization := none, form := setField body "client_id" clientId }
  else
    match truthy config.clientSecret with
    | none => some { authorization := none, form := setField body "client_id" clientId }
    | some clientSecret => (encodeBasicAuth B encoder clientId clientSecret).map fun encoded =>
      { authorization := some ("Basic " ++ encoded), form := body }

/-! ## Fields -/

lemma filter_setField_self (form : Form) (name value : String) :
    (setField form name value).filter (·.1 == name) = [(name, value)] := by
  induction form with
  | nil => simp [setField]
  | cons entry rest ih =>
    rw [setField]
    split_ifs with hname
    · simp [filter_filter]
    · simp [hname, ih]

lemma filter_setField_of_ne {name name' : String} (hne : name' ≠ name) (form : Form)
    (value : String) :
    (setField form name value).filter (·.1 == name') = form.filter (·.1 == name') := by
  induction form with
  | nil => simp [setField, hne.symm]
  | cons entry rest ih =>
    rw [setField]
    split_ifs with hname
    · have hrest : (rest.filter fun other => other.1 != name).filter (·.1 == name') =
          rest.filter (·.1 == name') := by
        rw [filter_filter]
        refine filter_congr fun other _ => ?_
        by_cases hother : other.1 = name' <;> simp [hother, hne]
      simp [hname, hne.symm, hrest]
    · rw [filter_cons, filter_cons, ih]

/-- A field that was set is read back. -/
lemma field_setField_self (form : Form) (name value : String) :
    Json.field (setField form name value) name = some value := by
  simp [Json.field, Json.optionalField, filter_setField_self]

/-- Other fields are left alone. -/
lemma field_setField_of_ne {name name' : String} (hne : name' ≠ name) (form : Form)
    (value : String) : Json.field (setField form name value) name' = Json.field form name' := by
  simp only [Json.field, Json.optionalField, filter_setField_of_ne hne]

lemma field_of_notMem {form : Form} {name : String} (h : name ∉ form.map Prod.fst) :
    Json.field form name = none := by
  have hfil : form.filter (·.1 == name) = [] := by
    rw [filter_eq_nil_iff]
    intro entry hentry hname
    exact h (mem_map.mpr ⟨entry, hentry, by simpa using hname⟩)
  simp [Json.field, Json.optionalField, hfil]

/-- The client credentials grant reads the credentials from the form. -/
lemma fromForm_clientCredentials {form : Form} {r : ClientCredentialsGrantRequest}
    (h : TokenRequest.fromForm form = some (.clientCredentials r)) :
    Json.field form "client_id" = some r.clientId ∧
      Json.field form "client_secret" = some r.clientSecret := by
  obtain ⟨_, -, h⟩ := Option.bind_eq_some_iff.mp h
  split_ifs at h
  · simp at h
  · simp at h
  · obtain ⟨_, hreq, hr⟩ := Option.map_eq_some_iff.mp h
    obtain rfl := TokenRequest.clientCredentials.inj hr
    obtain ⟨_, hid, hreq⟩ := Option.bind_eq_some_iff.mp hreq
    obtain ⟨_, hsec, hreq⟩ := Option.bind_eq_some_iff.mp hreq
    obtain ⟨_, -, hreq⟩ := Option.bind_eq_some_iff.mp hreq
    obtain ⟨_, -, hreq⟩ := Option.bind_eq_some_iff.mp hreq
    obtain ⟨_, -, hreq⟩ := Option.bind_eq_some_iff.mp hreq
    obtain rfl := Option.some.inj hreq
    exact ⟨hid, hsec⟩
  · simp at h
  · simp at h

end LocalPlatform.Oidc
