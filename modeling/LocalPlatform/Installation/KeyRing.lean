import LocalPlatform.Lib.Json
import LocalPlatform.Idp.Grants

/-!
# Private keys in the key ring of the machine

`PrivateKeyKeyringRepo` of `idp-service/src/repo`, and how a start of the desktop app names the
service under which its repository keeps the secrets: `localhost_server_base_url`,
`app_config_for_localhost_base_url` and `init_router`. The key ring is a map from a service and an
entry to a secret that outlives the process; every entry has the same target.
-/

namespace LocalPlatform.Installation

open Resumption
open Idp

/-! ## The repository -/

/-- What the repository takes from the BIP-32 crate and the standard library. -/
structure KeyTexts where
  /-- `XPrv::to_string` with the prefix of private keys -/
  xprvToString : Bytes → String
  /-- `XPrv::from_str` -/
  xprvFromStr : String → Except String Bytes
  /-- `String::from_utf8` -/
  fromUtf8 : Bytes → Except String String
  /-- display text of the key ring's error for a missing entry -/
  noEntry : String

/-- What the texts of keys rely on: each is read back as it was written. -/
structure KeyTexts.Lawful (T : KeyTexts) : Prop where
  xprv_roundtrip : ∀ key, T.xprvFromStr (T.xprvToString key) = .ok key
  utf8_roundtrip : ∀ s, T.fromUtf8 (asBytes s) = .ok s

/-- A step of a path as the BIP-32 crate displays it. -/
def childNumberChars (child : ChildNumber) : List Char :=
  Nat.toDigits 10 child.index ++ if child.hardened then "'".toList else []

/-- `DerivationPath::to_string` -/
def derivationPathToString (path : DerivationPath) : String :=
  String.ofList ('m' :: path.flatMap fun child => '/' :: childNumberChars child)

/-- `derived_key_entry_name`: the name of a key in the key ring. -/
def derivedKeyEntryName (ns derivationPath : String) : String := s!"{ns}:{derivationPath}"

/-- The secret of every entry, by service and name of the entry. -/
abbrev KeyRing := String → String → Option Bytes

/-- `PrivateKeyKeyringRepo`: the entries of one service name in the key ring of the platform. -/
structure PrivateKeyKeyringRepo where
  serviceName : String
deriving DecidableEq, Repr

namespace PrivateKeyKeyringRepo

variable (T : KeyTexts) (keyring : PrivateKeyKeyringRepo) (ring : KeyRing)

/-- The name of the entry of a derivation path. -/
def entryName (ns : String) (path : DerivationPath) : String :=
  derivedKeyEntryName ns (derivationPathToString path)

/-- The key ring with another content of one entry of this repository. -/
def put (entry : String) (secret : Option Bytes) : KeyRing := fun service name =>
  if service = keyring.serviceName ∧ name = entry then secret else ring service name

/-- `PrivateKeyKeyringRepo::load`: a missing entry is no error. -/
def load (ns : String) (derivationPath : DerivationPath) : RepoResult (Option DerivedKey) :=
  match ring keyring.serviceName (entryName ns derivationPath) with
  | some secret => do
    let xprv ← (T.fromUtf8 secret).mapError .invalidInput
    let key ← (T.xprvFromStr xprv).mapError .key
    pure (some { key, derivationPath })
  | none => .ok none

/-- `PrivateKeyKeyringRepo::store`: an existing entry is overwritten. -/
def store (ns : String) (derivedKey : DerivedKey) : RepoResult Unit × KeyRing :=
  (.ok (), keyring.put ring (entryName ns derivedKey.derivationPath)
    (some (asBytes (T.xprvToString derivedKey.key))))

/-- `PrivateKeyKeyringRepo::delete`: a missing entry is an error. -/
def delete (ns : String) (derivationPath : DerivationPath) : RepoResult Unit × KeyRing :=
  match ring keyring.serviceName (entryName ns derivationPath) with
  | some _ => (.ok (), keyring.put ring (entryName ns derivationPath) none)
  | none => (.error (.other T.noEntry), ring)

end PrivateKeyKeyringRepo

/-- A call of the repository. -/
inductive KeyRingCall where
  | load (ns : String) (path : DerivationPath)
  | store (ns : String) (key : DerivedKey)
  | delete (ns : String) (path : DerivationPath)
deriving DecidableEq, Repr

/-- The key ring after a call. -/
def KeyRingCall.leaves (T : KeyTexts) (keyring : PrivateKeyKeyringRepo) (ring : KeyRing) :
    KeyRingCall → KeyRing
  | .load _ _ => ring
  | .store ns key => (keyring.store T ring ns key).2
  | .delete ns path => (keyring.delete T ring ns path).2

/-! ## Starts of the app -/

/-- The settings of the app that its services read. -/
structure AppConfig where
  oauth2 : OAuth2Config
  keyNamespace : String
  uiPublicUri : String
  apiPublicUri : String
deriving DecidableEq, Repr

/-- `localhost_server_base_url`. -/
def localhostServerBaseUrl (port : UInt16) : String := s!"https://localhost:{port.toNat}"

/-- `app_config_for_localhost_base_url`: issuer and public addresses follow the port. -/
def appConfigForLocalhostBaseUrl (appConfig : AppConfig) (baseUrl : String) : AppConfig :=
  { appConfig with
    oauth2 := { appConfig.oauth2 with issuer := s!"{baseUrl}/lidp" }
    uiPublicUri := baseUrl
    apiPublicUri := baseUrl }

/-- The settings of a start whose listener was given a port. -/
def runtimeConfig (appConfig : AppConfig) (port : UInt16) : AppConfig :=
  appConfigForLocalhostBaseUrl appConfig (localhostServerBaseUrl port)

/-- The key repository that `init_router` and the set-up routes build from the settings. -/
def AppConfig.keyRepo (appConfig : AppConfig) : PrivateKeyKeyringRepo where
  serviceName := appConfig.oauth2.issuer

/-- The token service that `init_router` builds from the settings. -/
def AppConfig.oauth2Service (appConfig : AppConfig) (libs : Libraries) : OAuth2Service where
  libs := libs
  oauthConfig := appConfig.oauth2
  keyNamespace := appConfig.keyNamespace

/-- A store whose private keys are read through a repository; a secret that cannot be read is no
key. -/
def withKeyring (T : KeyTexts) (keyring : PrivateKeyKeyringRepo) (ring : KeyRing) (s : Store) :
    Store :=
  { s with privateKeys := fun ns path => (keyring.load T ring ns path).toOption.join }

/-- A start of the app: the port of its listener and the calls its services make of the key
repository. -/
structure Start where
  port : UInt16
  calls : List KeyRingCall
deriving DecidableEq, Repr

/-- The key ring after the calls of a start. -/
def Start.leaves (T : KeyTexts) (appConfig : AppConfig) (start : Start) (ring : KeyRing) :
    KeyRing :=
  start.calls.foldl (KeyRingCall.leaves T (runtimeConfig appConfig start.port).keyRepo) ring

end LocalPlatform.Installation
