import Mathlib.Data.List.Basic
import Mathlib.Tactic.SplitIfs

/-!
# Which service URLs are accepted

`IdpClient`, `ManagementClient` and `HostedControlPlane` each check the URLs they are configured
with: HTTPS, or HTTP to a loopback host. The check is written three times, and twice alike. All of
them parse the text of the host as an address, and the text of an IPv6 host has brackets.
-/

namespace LocalPlatform.Storage

/-- `url::Host` -/
inductive UrlHost where
  | domain (name : String)
  | ipv4 (a b c d : UInt8)
  | ipv6 (address : BitVec 128)
deriving DecidableEq

/-- `localhost`, 127.0.0.0/8 or ::1. -/
def UrlHost.Loopback : UrlHost → Prop
  | .domain name => name = "localhost"
  | .ipv4 a _ _ _ => a = 127
  | .ipv6 address => address = 1

/-- `std::net::IpAddr` -/
inductive IpAddr where
  | v4 (a b c d : UInt8)
  | v6 (address : BitVec 128)

/-- `IpAddr::is_loopback` -/
def IpAddr.isLoopback : IpAddr → Bool
  | .v4 a _ _ _ => a == 127
  | .v6 address => address == 1

/-- `url::Url`, as far as it is looked at. -/
structure Url where
  scheme : String
  host : Option UrlHost
  username : String
  password : Option String
  path : String
  query : Option String
  fragment : Option String
deriving DecidableEq

/-- `Url::parse`, `Url::host_str` on a host, and the parser of addresses. -/
structure UrlLibrary where
  parse : String → Option Url
  hostStr : UrlHost → String
  parseIp : String → Option IpAddr

/-- `str::to_ascii_lowercase` -/
def toAsciiLowercase (s : String) : String := String.ofList (s.toList.map Char.toLower)

/-- `host.to_ascii_lowercase().ends_with(".localhost")` -/
def isBelowLocalhost (host : String) : Bool :=
  ".localhost".toList.isSuffixOf (toAsciiLowercase host).toList

namespace UrlLibrary

variable (U : UrlLibrary)

/-- `is_loopback` of both clients of the storage server. -/
def isLoopback (url : Url) : Bool :=
  match url.host.map U.hostStr with
  | none => false
  | some host =>
    toAsciiLowercase host == "localhost" || (U.parseIp host).any IpAddr.isLoopback

/-- `is_loopback` of the control plane, which knows the names below `localhost` as well. -/
def isLoopbackOrBelow (url : Url) : Bool :=
  match url.host.map U.hostStr with
  | none => false
  | some host =>
    toAsciiLowercase host == "localhost" || isBelowLocalhost host ||
      (U.parseIp host).any IpAddr.isLoopback

/-- The check of a service URL, by what counts as loopback and the texts of the two errors. -/
def checkUrl (loopback : Url → Bool) (invalid refused value : String) : Except String Url :=
  match U.parse value with
  | none => .error invalid
  | some url =>
    if !(url.scheme == "http" || url.scheme == "https") || url.host.isNone || url.query.isSome ||
        url.fragment.isSome || url.username != "" || url.password.isSome ||
        (url.scheme == "http" && !loopback url) then .error refused
    else .ok url

/-- `validate_http_url` of `IdpClient`. -/
def idpClientUrl (value description : String) : Except String Url :=
  U.checkUrl U.isLoopback ("invalid " ++ description)
    (description ++ " must use HTTPS except for loopback") value

/-- `validate_http_url` of `ManagementClient`. -/
def managementClientUrl (value description : String) : Except String Url :=
  U.checkUrl U.isLoopback ("invalid " ++ description)
    (description ++ " must use HTTPS except for loopback") value

/-- `normalize_service_url` of `HostedControlPlane`: an accepted path ends in a slash. -/
def normalizeServiceUrl (value : String) : Except String Url :=
  (U.checkUrl U.isLoopbackOrBelow "invalid service URI" ("service URI must use HTTPS except for " ++
    "loopback and must not contain credentials, a query, or a fragment") value).map fun url =>
      if "/".toList.isSuffixOf url.path.toList then url else { url with path := url.path ++ "/" }

/-! ## What is assumed of the parser -/

/-- A parsed URL of one of the two schemes. -/
def Parsed (url : Url) : Prop :=
  (∃ value, U.parse value = some url) ∧ (url.scheme = "http" ∨ url.scheme = "https")

/-- The characters of an address. -/
def addressChars : List Char := "0123456789abcdef.:[]".toList

/-- The parser gives each such URL a host. A domain is written in lower case and is no address; an
IPv4 address is read back; an IPv6 address is written in brackets, with which nothing is an
address. -/
structure Lawful : Prop where
  host : ∀ url, U.Parsed url → url.host.isSome
  domain : ∀ url name, U.Parsed url → url.host = some (.domain name) →
    U.hostStr (.domain name) = name ∧ toAsciiLowercase name = name ∧ U.parseIp name = none
  ipv4 : ∀ url a b c d, U.Parsed url → url.host = some (.ipv4 a b c d) →
    U.parseIp (U.hostStr (.ipv4 a b c d)) = some (.v4 a b c d) ∧
      ∀ char ∈ (U.hostStr (.ipv4 a b c d)).toList, char ∈ addressChars
  ipv6 : ∀ url address, U.Parsed url → url.host = some (.ipv6 address) →
    (∃ text, U.hostStr (.ipv6 address) = "[" ++ text ++ "]") ∧
      ∀ char ∈ (U.hostStr (.ipv6 address)).toList, char ∈ addressChars
  bracketed : ∀ text, U.parseIp ("[" ++ text ++ "]") = none

variable {U} {url : Url} {value : String}

/-- An address is neither `localhost` nor a name below it: it has no `l`. -/
lemma not_localhost_of_address {text : String} (h : ∀ c ∈ text.toList, c ∈ addressChars) :
    toAsciiLowercase text ≠ "localhost" ∧ isBelowLocalhost text = false := by
  have hlower : 'l' ∉ addressChars.map Char.toLower := by decide
  have hno : 'l' ∉ (toAsciiLowercase text).toList := by
    simp only [toAsciiLowercase, String.toList_ofList, List.mem_map, not_exists, not_and]
    exact fun c hc heq => hlower (List.mem_map.mpr ⟨c, h c hc, heq⟩)
  constructor
  · intro heq
    rw [heq] at hno
    exact hno (by decide)
  · rw [isBelowLocalhost, Bool.eq_false_iff, Ne, List.isSuffixOf_iff_suffix]
    exact fun hsuffix => hno (hsuffix.subset (by decide))

/-- The hosts that both kinds of client take for loopback. -/
def knownLoopback : UrlHost → Bool
  | .domain name => name == "localhost"
  | .ipv4 a _ _ _ => a == 127
  | .ipv6 _ => false

/-- A name below `localhost`. -/
def belowLocalhost : UrlHost → Bool
  | .domain name => isBelowLocalhost name
  | _ => false

lemma isLoopback_eq (hU : U.Lawful) (hurl : U.Parsed url) {host : UrlHost}
    (hhost : url.host = some host) :
    U.isLoopback url = knownLoopback host ∧
      U.isLoopbackOrBelow url = (knownLoopback host || belowLocalhost host) := by
  unfold isLoopback isLoopbackOrBelow
  rw [hhost]
  cases host with
  | domain name =>
    obtain ⟨htext, hlower, hip⟩ := hU.domain url name hurl hhost
    simp [htext, hlower, hip, knownLoopback, belowLocalhost]
  | ipv4 a b c d =>
    obtain ⟨hip, hchars⟩ := hU.ipv4 url a b c d hurl hhost
    obtain ⟨hne, hnot⟩ := not_localhost_of_address hchars
    simp [hip, hne, hnot, knownLoopback, belowLocalhost, IpAddr.isLoopback]
  | ipv6 address =>
    obtain ⟨⟨text, htext⟩, hchars⟩ := hU.ipv6 url address hurl hhost
    obtain ⟨hne, hnot⟩ := not_localhost_of_address hchars
    have hip : U.parseIp (U.hostStr (.ipv6 address)) = none := htext ▸ hU.bracketed text
    simp [hip, hne, hnot, knownLoopback, belowLocalhost]

/-! ## The rule -/

/-- The URL is one of HTTPS, or of HTTP with a loopback host. -/
def Secure (U : UrlLibrary) (value : String) : Prop :=
  ∃ url, U.parse value = some url ∧ (url.scheme = "https" ∨
    url.scheme = "http" ∧ ∃ host, url.host = some host ∧ host.Loopback)

/-- The value has no user info, query or fragment. -/
def Plain (U : UrlLibrary) (value : String) : Prop :=
  ∀ url, U.parse value = some url →
    url.username = "" ∧ url.password = none ∧ url.query = none ∧ url.fragment = none

/-- The host of an HTTP URL is neither ::1 nor a name below `localhost`. -/
def Undisputed (U : UrlLibrary) (value : String) : Prop :=
  ∀ url host, U.parse value = some url → url.scheme = "http" → url.host = some host →
    host ≠ .ipv6 1 ∧ belowLocalhost host = false

/-- On the hosts themselves: the clients miss ::1, and the control plane adds the names below
`localhost`. -/
lemma knownLoopback_iff (host : UrlHost) :
    ((knownLoopback host = true ↔ host.Loopback) ∧
      ((knownLoopback host || belowLocalhost host) = true ↔ host.Loopback)) ↔
        host ≠ .ipv6 1 ∧ belowLocalhost host = false := by
  cases host with
  | domain name =>
    have hnot : isBelowLocalhost name = true → name ≠ "localhost" := by
      rintro h rfl
      revert h
      decide
    cases hbelow : isBelowLocalhost name
    · simp [knownLoopback, belowLocalhost, UrlHost.Loopback, hbelow]
    · simp [knownLoopback, belowLocalhost, UrlHost.Loopback, hbelow, hnot hbelow]
  | ipv4 a b c d => simp [knownLoopback, belowLocalhost, UrlHost.Loopback]
  | ipv6 address => simp [knownLoopback, belowLocalhost, UrlHost.Loopback]

lemma isOk_map {α β : Type} (f : α → β) (x : Except String α) : (x.map f).isOk = x.isOk := by
  cases x <;> rfl

/-- What one of the three checks accepts. -/
lemma checkUrl_ok_iff (hU : U.Lawful) (hplain : Plain U value) (loopback : Url → Bool)
    (invalid refused : String) :
    (U.checkUrl loopback invalid refused value).isOk = true ↔ ∃ url, U.parse value = some url ∧
      (url.scheme = "https" ∨ url.scheme = "http" ∧ loopback url = true) := by
  unfold checkUrl
  cases hparse : U.parse value with
  | none => simp [Except.isOk, Except.toBool]
  | some url =>
    obtain ⟨huser, hpass, hquery, hfragment⟩ := hplain url hparse
    have hhost : url.scheme = "http" ∨ url.scheme = "https" → url.host.isSome :=
      fun h => hU.host url ⟨⟨value, hparse⟩, h⟩
    by_cases hscheme : url.scheme = "http" ∨ url.scheme = "https"
    · obtain ⟨host, hsome⟩ := Option.isSome_iff_exists.mp (hhost hscheme)
      rcases hscheme with hs | hs <;> cases hloop : loopback url <;>
        simp [hloop, hs, hsome, huser, hpass, hquery, hfragment, Except.isOk, Except.toBool]
    · obtain ⟨hhttp, hhttps⟩ := not_or.mp hscheme
      simp [hhttp, hhttps, Except.isOk, Except.toBool]

/-- Each of the three accepts exactly the secure URLs, and so all accept the same, if and only if
the value is undisputed. -/
theorem serviceUrls_secure_iff (U : UrlLibrary) (hU : U.Lawful) (value description : String)
    (hplain : Plain U value) :
    (((U.idpClientUrl value description).isOk = true ↔ Secure U value) ∧
      ((U.managementClientUrl value description).isOk = true ↔ Secure U value) ∧
      ((U.normalizeServiceUrl value).isOk = true ↔ Secure U value)) ↔ Undisputed U value := by
  simp only [idpClientUrl, managementClientUrl, normalizeServiceUrl, isOk_map,
    checkUrl_ok_iff hU hplain, Secure, Undisputed]
  cases hparse : U.parse value with
  | none => simp
  | some url =>
    by_cases hs : url.scheme = "http"
    · have hurl : U.Parsed url := ⟨⟨value, hparse⟩, .inl hs⟩
      obtain ⟨host, hhost⟩ := Option.isSome_iff_exists.mp (hU.host url hurl)
      obtain ⟨hclient, hhosted⟩ := isLoopback_eq hU hurl hhost
      have hhttps : ("http" = "https") ↔ False := by decide
      have hundisputed : (∀ url' host, url = url' → url'.scheme = "http" →
          url'.host = some host → host ≠ .ipv6 1 ∧ belowLocalhost host = false) ↔
            host ≠ .ipv6 1 ∧ belowLocalhost host = false := by
        refine ⟨fun h => h url host rfl hs hhost, ?_⟩
        rintro h _ other rfl - hother
        exact Option.some.inj (hhost.symm.trans hother) ▸ h
      simp only [Option.some.injEq, exists_eq_left', hs, hhost, hclient, hhosted, hhttps, false_or,
        true_and, ← and_assoc, and_self]
      rw [hundisputed]
      exact knownLoopback_iff host
    · refine iff_of_true (by simp [hs]) ?_
      rintro _ host ⟨⟩ hhttp
      exact absurd hhttp hs

/-! ## The disputed hosts -/

/-- A parser of three URLs. -/
def threeUrls : UrlLibrary where
  parse value :=
    if value = "http://localhost/" then
      some ⟨"http", some (.domain "localhost"), "", none, "/", none, none⟩
    else if value = "http://[::1]/" then some ⟨"http", some (.ipv6 1), "", none, "/", none, none⟩
    else if value = "http://app.localhost/" then
      some ⟨"http", some (.domain "app.localhost"), "", none, "/", none, none⟩
    else none
  hostStr
    | .domain name => name
    | .ipv4 _ _ _ _ => ""
    | .ipv6 _ => "[::1]"
  parseIp _ := none

lemma threeUrls_parsed {url : Url} (h : threeUrls.Parsed url) :
    url.host = some (.domain "localhost") ∨ url.host = some (.ipv6 1) ∨
      url.host = some (.domain "app.localhost") := by
  obtain ⟨⟨value, hvalue⟩, -⟩ := h
  unfold threeUrls at hvalue
  dsimp only at hvalue
  split_ifs at hvalue <;> simp_all [← Option.some.inj hvalue]

lemma threeUrls_lawful : threeUrls.Lawful where
  host url h := by rcases threeUrls_parsed h with h | h | h <;> rw [h] <;> rfl
  domain url name h hname := by
    refine ⟨rfl, ?_, rfl⟩
    rcases threeUrls_parsed h with h | h | h <;> cases h.symm.trans hname <;> decide
  ipv4 url a b c d h hhost := by
    rcases threeUrls_parsed h with h | h | h <;> cases h.symm.trans hhost
  ipv6 _ _ _ _ := by
    refine ⟨⟨"::1", rfl⟩, ?_⟩
    show "[::1]".toList ⊆ addressChars
    decide
  bracketed _ := rfl

/-- `localhost` is undisputed. -/
theorem serviceUrls_secure_iff_localhost :
    ((threeUrls.idpClientUrl "http://localhost/" "IdP API URL").isOk = true ↔
      Secure threeUrls "http://localhost/") := by
  refine ((serviceUrls_secure_iff threeUrls threeUrls_lawful _ "IdP API URL" ?_).mpr ?_).1
  · rintro _ ⟨⟩
    exact ⟨rfl, rfl, rfl, rfl⟩
  · rintro _ _ ⟨⟩ - ⟨⟩
    exact ⟨by decide, by decide⟩

/-- The loopback address of IPv6 is refused by all three, and a name below `localhost` is accepted
by one of them. -/
theorem serviceUrls_disputed :
    Secure threeUrls "http://[::1]/" ∧
      (threeUrls.idpClientUrl "http://[::1]/" "IdP API URL").isOk = false ∧
      (threeUrls.managementClientUrl "http://[::1]/" "Management URL").isOk = false ∧
      (threeUrls.normalizeServiceUrl "http://[::1]/").isOk = false ∧
      (threeUrls.idpClientUrl "http://app.localhost/" "IdP API URL").isOk = false ∧
      (threeUrls.normalizeServiceUrl "http://app.localhost/").isOk = true :=
  ⟨⟨_, rfl, .inr ⟨rfl, _, rfl, rfl⟩⟩, by decide, by decide, by decide, by decide, by decide⟩

end UrlLibrary

end LocalPlatform.Storage
