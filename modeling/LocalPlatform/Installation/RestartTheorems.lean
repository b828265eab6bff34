import LocalPlatform.Idp.GrantTheorems
import LocalPlatform.Installation.KeyRing
import LocalPlatform.Lib.Encoding

/-!
# Private keys after a restart of the app

The entries of different paths have different names, and the services of different ports have
different names. So a key repository reads what it wrote itself and nothing that the repository of
another port wrote: the keys of a start are found by the next one if it is given the same port.
-/

namespace LocalPlatform.Installation

open Resumption Text List String
open Idp

/-! ## Names of entries -/

lemma isDigit_of_mem_toDigits {n : ℕ} {c : Char} (h : c ∈ Nat.toDigits 10 n) : c.isDigit = true :=
  Nat.isDigit_of_mem_toDigits (by decide) (by decide) h

/-- The number of a step ends where its digits end: at the mark of a hardened step, at the next
step or at the end. -/
lemma endsDigits_of_hardened (hardened : Bool) (path : DerivationPath) :
    Json.EndsDigits ((if hardened then "'".toList else []) ++
      path.flatMap fun child => '/' :: childNumberChars child) := by
  cases hardened with
  | true => simp [Json.EndsDigits]
  | false => cases path <;> simp [Json.EndsDigits]

variable {path path' : DerivationPath} {ns service ns' : String}

/-- The steps of a path can be read off its text. -/
lemma flatMap_childNumberChars_injective
    (h : (path.flatMap fun child => '/' :: childNumberChars child) =
      path'.flatMap fun child => '/' :: childNumberChars child) : path = path' := by
  induction path generalizing path' with
  | nil =>
    cases path' with
    | nil => rfl
    | cons child path' => simp at h
  | cons child path ih =>
    cases path' with
    | nil => simp at h
    | cons child' path' =>
      have hchars : Nat.toDigits 10 child.index ++ ((if child.hardened then "'".toList else []) ++
            path.flatMap fun child => '/' :: childNumberChars child) =
          Nat.toDigits 10 child'.index ++ ((if child'.hardened then "'".toList else []) ++
            path'.flatMap fun child => '/' :: childNumberChars child) := by
        simpa [childNumberChars] using h
      have hparse := congrArg Json.parseDigits hchars
      rw [Json.parseDigits_toDigits _ (endsDigits_of_hardened _ _),
        Json.parseDigits_toDigits _ (endsDigits_of_hardened _ _)] at hparse
      obtain ⟨-, hrest⟩ : child.index = child'.index ∧ _ = _ := by
        simpa only [Option.some.injEq, Prod.mk.injEq] using hparse
      -- a mark and the slash of a next step differ, so both steps are hardened or none is
      have hhardened : child.hardened = child'.hardened := by
        cases hc : child.hardened <;> cases hc' : child'.hardened <;>
          cases path <;> cases path' <;> simp_all
      have hchild : child = child' := by
        cases child
        cases child'
        simp_all
      rw [hhardened, append_cancel_left_eq] at hrest
      rw [hchild, ih hrest]

/-- A path is determined by its text. -/
lemma derivationPathToString_injective
    (h : derivationPathToString path = derivationPathToString path') : path = path' := by
  refine flatMap_childNumberChars_injective ?_
  simpa [derivationPathToString] using congrArg toList h

/-- The text of a path has no colon. -/
lemma colon_notMem_derivationPathToString (path : DerivationPath) :
    ':' ∉ (derivationPathToString path).toList := by
  intro hcolon
  obtain ⟨child, -, hchild⟩ : ∃ child ∈ path, ':' ∈ '/' :: childNumberChars child := by
    simpa [derivationPathToString] using hcolon
  rw [mem_cons, childNumberChars, mem_append] at hchild
  rcases hchild with hslash | hdigit | hmark
  · exact absurd hslash (by decide)
  · exact absurd (isDigit_of_mem_toDigits hdigit) (by decide)
  · cases hh : child.hardened <;> simp [hh] at hmark

/-- The last colon of a text cuts it in one way. -/
lemma append_colon_inj {a a' b b' : List Char} (hb : ':' ∉ b) (hb' : ':' ∉ b')
    (h : a ++ ':' :: b = a' ++ ':' :: b') : a = a' ∧ b = b' := by
  have hreverse : b.reverse ++ ':' :: a.reverse = b'.reverse ++ ':' :: a'.reverse := by
    simpa using congrArg reverse h
  have htake : ∀ {c d : List Char}, ':' ∉ c →
      (c.reverse ++ ':' :: d).takeWhile (· != ':') = c.reverse := by
    intro c d hc
    rw [takeWhile_append_of_pos]
    · simp
    · intro x hx
      have hne : x ≠ ':' := fun heq => hc (mem_reverse.mp (heq ▸ hx))
      simpa using hne
  have hb_eq : b = b' := by
    have hcut := congrArg (takeWhile (· != ':')) hreverse
    rw [htake hb, htake hb'] at hcut
    simpa using hcut
  subst hb_eq
  exact ⟨append_cancel_right h, rfl⟩

/-- Different paths and name spaces have different entries. -/
lemma entryName_injective
    (h : PrivateKeyKeyringRepo.entryName ns path = PrivateKeyKeyringRepo.entryName ns' path') :
    ns = ns' ∧ path = path' := by
  have htext : ns ++ ":" ++ derivationPathToString path =
      ns' ++ ":" ++ derivationPathToString path' := h
  have hchars : ns.toList ++ ':' :: (derivationPathToString path).toList =
      ns'.toList ++ ':' :: (derivationPathToString path').toList := by
    simpa using congrArg toList htext
  obtain ⟨hns, hpath⟩ := append_colon_inj (colon_notMem_derivationPathToString path)
    (colon_notMem_derivationPathToString path') hchars
  exact ⟨toList_injective hns,
    derivationPathToString_injective (toList_injective hpath)⟩

/-- Starts with different ports keep their keys under different services. -/
lemma keyRepo_serviceName_injective {config : AppConfig} {p q : UInt16}
    (h : (runtimeConfig config p).keyRepo.serviceName =
      (runtimeConfig config q).keyRepo.serviceName) : p = q := by
  have htext : "https://localhost:" ++ toString p.toNat ++ "/lidp" =
      "https://localhost:" ++ toString q.toNat ++ "/lidp" := h
  have hchars := congrArg toList htext
  rw [toList_append, toList_append, toList_append, toList_append,
    append_cancel_right_eq, append_cancel_left_eq] at hchars
  exact UInt16.toNat_inj.mp (toString_nat_injective (toList_injective hchars))

/-! ## Calls of a repository -/

section
variable {T : KeyTexts} {keyring : PrivateKeyKeyringRepo} {ring : KeyRing}

lemma load_congr {ring' : KeyRing} {path : DerivationPath}
    (h : ring' keyring.serviceName (PrivateKeyKeyringRepo.entryName ns path) =
      ring keyring.serviceName (PrivateKeyKeyringRepo.entryName ns path)) :
    keyring.load T ring' ns path = keyring.load T ring ns path := by
  rw [PrivateKeyKeyringRepo.load, PrivateKeyKeyringRepo.load, h]

/-- Changing one entry leaves what is loaded from the others. -/
lemma load_put_of_ne {path path' : DerivationPath} {secret : Option Bytes}
    (hne : ¬(ns' = ns ∧ path' = path)) :
    keyring.load T (keyring.put ring (PrivateKeyKeyringRepo.entryName ns' path') secret) ns path =
      keyring.load T ring ns path := by
  refine load_congr (if_neg ?_)
  rintro ⟨-, hname⟩
  obtain ⟨rfl, rfl⟩ := entryName_injective hname
  exact hne ⟨rfl, rfl⟩

/-- A key that was stored is loaded as it was. -/
lemma load_store (hT : T.Lawful) (ns : String) (key : DerivedKey) :
    keyring.load T (keyring.store T ring ns key).2 ns key.derivationPath = .ok (some key) := by
  have hentry : (keyring.store T ring ns key).2 keyring.serviceName
      (PrivateKeyKeyringRepo.entryName ns key.derivationPath) =
        some (asBytes (T.xprvToString key.key)) := if_pos ⟨rfl, rfl⟩
  have hutf8 : (T.fromUtf8 (asBytes (T.xprvToString key.key))).mapError RepoError.invalidInput =
      .ok (T.xprvToString key.key) := by rw [hT.utf8_roundtrip]; rfl
  have hxprv : (T.xprvFromStr (T.xprvToString key.key)).mapError RepoError.key = .ok key.key := by
    rw [hT.xprv_roundtrip]; rfl
  rw [PrivateKeyKeyringRepo.load, hentry]
  simp only [hutf8, hxprv, bind, Except.bind, pure, Except.pure]

/-- A key that was deleted is not found. -/
lemma load_delete (ns : String) (path : DerivationPath) :
    keyring.load T (keyring.delete T ring ns path).2 ns path = .ok none := by
  have hentry : (keyring.delete T ring ns path).2 keyring.serviceName
      (PrivateKeyKeyringRepo.entryName ns path) = none := by
    rw [PrivateKeyKeyringRepo.delete]
    split
    · exact if_pos ⟨rfl, rfl⟩
    · assumption
  rw [PrivateKeyKeyringRepo.load, hentry]

end

/-- What a call writes to the entry of a path: a key, its absence, or nothing. -/
def KeyRingCall.writes (ns : String) (path : DerivationPath) :
    KeyRingCall → Option (Option DerivedKey)
  | .load _ _ => none
  | .store ns' key => if ns' = ns ∧ key.derivationPath = path then some (some key) else none
  | .delete ns' path' => if ns' = ns ∧ path' = path then some none else none

/-- The last thing that calls write to the entry of a path. -/
def lastWrite (ns : String) (path : DerivationPath) :
    List KeyRingCall → Option (Option DerivedKey)
  | [] => none
  | call :: calls => lastWrite ns path calls <|> call.writes ns path

/-- A start stores a key and neither overwrites nor deletes it later. -/
def Start.Stores (start : Start) (ns : String) (key : DerivedKey) : Prop :=
  lastWrite ns key.derivationPath start.calls = some (some key)

instance (start : Start) (ns : String) (key : DerivedKey) : Decidable (start.Stores ns key) :=
  inferInstanceAs (Decidable (_ = _))

section
variable {T : KeyTexts} {keyring : PrivateKeyKeyringRepo}

/-- A load after a call finds what the call wrote, or what was there before. -/
lemma load_leaves (hT : T.Lawful) (ring : KeyRing) (call : KeyRingCall) (ns : String)
    (path : DerivationPath) : keyring.load T (call.leaves T keyring ring) ns path =
      (call.writes ns path).elim (keyring.load T ring ns path) .ok := by
  cases call with
  | load ns' path' => rfl
  | store ns' key =>
    rw [KeyRingCall.writes]
    split_ifs with hsame
    · obtain ⟨rfl, rfl⟩ := hsame
      exact load_store hT ns' key
    · exact load_put_of_ne hsame
  | delete ns' path' =>
    rw [KeyRingCall.writes]
    split_ifs with hsame
    · obtain ⟨rfl, rfl⟩ := hsame
      exact load_delete ns' path'
    · show keyring.load T (keyring.delete T ring ns' path').2 ns path = keyring.load T ring ns path
      rw [PrivateKeyKeyringRepo.delete]
      split
      · exact load_put_of_ne hsame
      · rfl

/-- A repository reads what it wrote last, and what was there where it wrote nothing. -/
lemma load_foldl (hT : T.Lawful) (calls : List KeyRingCall) (ring : KeyRing) (ns : String)
    (path : DerivationPath) :
    keyring.load T (calls.foldl (KeyRingCall.leaves T keyring) ring) ns path =
      (lastWrite ns path calls).elim (keyring.load T ring ns path) .ok := by
  induction calls generalizing ring with
  | nil => rfl
  | cons call calls ih =>
    rw [foldl_cons, ih, load_leaves hT, lastWrite]
    cases lastWrite ns path calls <;> rfl

variable (hne : service ≠ keyring.serviceName)
include hne

/-- The calls of a repository do not change the entries of another service. -/
lemma leaves_other (ring : KeyRing) (call : KeyRingCall) (name : String) :
    call.leaves T keyring ring service name = ring service name := by
  cases call with
  | load ns path => rfl
  | store ns key => exact if_neg fun h => hne h.1
  | delete ns path =>
    show (keyring.delete T ring ns path).2 service name = ring service name
    rw [PrivateKeyKeyringRepo.delete]
    split
    · exact if_neg fun h => hne h.1
    · rfl

/-- The entries of other services are left alone. -/
lemma foldl_leaves_other (calls : List KeyRingCall) (ring : KeyRing) (name : String) :
    calls.foldl (KeyRingCall.leaves T keyring) ring service name = ring service name := by
  induction calls generalizing ring with
  | nil => rfl
  | cons call calls ih => rw [foldl_cons, ih, leaves_other hne]

end

/-! ## The next start -/

section
variable {T : KeyTexts} {config : AppConfig} {first : Start} {ring : KeyRing}

/-- A start loads the keys that it stored. -/
lemma Start.Stores.load (hT : T.Lawful) {key : DerivedKey} (h : first.Stores ns key) :
    (runtimeConfig config first.port).keyRepo.load T (first.leaves T config ring) ns
      key.derivationPath = .ok (some key) := by
  rw [Start.leaves, load_foldl hT, show lastWrite _ _ _ = _ from h]
  rfl

/-- A start with another port loads what it would have loaded without the first one. -/
lemma load_leaves_of_ne {port : UInt16} (hne : first.port ≠ port) (ns : String)
    (path : DerivationPath) :
    (runtimeConfig config port).keyRepo.load T (first.leaves T config ring) ns path =
      (runtimeConfig config port).keyRepo.load T ring ns path := by
  refine load_congr (foldl_leaves_other ?_ _ _ _)
  exact fun hservice => hne (keyRepo_serviceName_injective hservice).symm

/-- Without its stored secret a key signs nothing. -/
lemma issueTokensForClient_needs_key {S : OAuth2Service} {client : Client} {principal : Principal}
    {scopes : List String} {resource : Option String} {details : Option (List AuthorizationDetail)}
    {audience : Option String} {s : Store} {r : TokenResponse} (path : DerivationPath)
    (hpath : S.libs.parseDerivationPath principal.key.derivationPath = .ok path)
    (hnone : s.privateKeys (scopedNamespace S.libs S.keyNamespace principal.key.entityType
      principal.key.entityId) path = none) :
    (issueTokensForClient S client principal scopes resource details audience).eval s ≠ .ok r := by
  intro h
  obtain ⟨_, _, _, _, _, _, _, rfl, -, hjwk, -⟩ := issueTokensForClient_ok h
  obtain ⟨_, hder, -⟩ := loadSigningJwk_ok_iff.mp hjwk
  obtain ⟨_, hpath', hsome⟩ := storedPrivateKey_ok_iff.mp hder
  obtain rfl := Except.ok.inj (hpath.symm.trans hpath')
  exact absurd (hnone.symm.trans hsome) (by simp)

end

/-- The keys that a start stores are loaded by the next one if and only if it has the same port,
or had these very keys before. And where the next start knew no key for a user, the user can be
issued tokens after the restart, as before it, if and only if the port is the same. -/
theorem stored_keys_survive_restart_iff (T : KeyTexts) (hT : T.Lawful) (config : AppConfig)
    (first : Start) (ring : KeyRing) (port : UInt16) :
    ((∀ ns key, first.Stores ns key →
        (runtimeConfig config port).keyRepo.load T (first.leaves T config ring) ns
          key.derivationPath = .ok (some key)) ↔
      first.port = port ∨ ∀ ns key, first.Stores ns key →
        (runtimeConfig config port).keyRepo.load T ring ns key.derivationPath = .ok (some key)) ∧
    ∀ (libs : Libraries) (s : Store) (client : Client) (principal : Principal)
      (scopes : List String) (resource : Option String)
      (details : Option (List AuthorizationDetail)) (audience : Option String)
      (path : DerivationPath) (r : TokenResponse),
      libs.parseDerivationPath principal.key.derivationPath = .ok path →
      (runtimeConfig config port).keyRepo.load T ring (scopedNamespace libs config.keyNamespace
        principal.key.entityType principal.key.entityId) path = .ok none →
      (issueTokensForClient ((runtimeConfig config first.port).oauth2Service libs) client principal
        scopes resource details audience).eval (withKeyring T
          (runtimeConfig config first.port).keyRepo (first.leaves T config ring) s) = .ok r →
      ((∃ r', (issueTokensForClient ((runtimeConfig config port).oauth2Service libs) client
          principal scopes resource details audience).eval (withKeyring T
            (runtimeConfig config port).keyRepo (first.leaves T config ring) s) = .ok r') ↔
        first.port = port) := by
  -- a start at another port writes nothing that this one reads
  refine ⟨⟨fun hload => ?_, ?_⟩, ?_⟩
  · by_cases hport : first.port = port
    · exact .inl hport
    · refine .inr fun ns key hstores => ?_
      rw [← load_leaves_of_ne hport]
      exact hload ns key hstores
  · rintro (rfl | hheld) ns key hstores
    · exact hstores.load hT
    · by_cases hport : first.port = port
      · subst hport
        exact hstores.load hT
      · rw [load_leaves_of_ne hport]
        exact hheld ns key hstores
  · intro libs s client principal scopes resource details audience path r hpath hnone hiss
    refine ⟨fun ⟨r', hr'⟩ => ?_, ?_⟩
    · by_contra hport
      refine issueTokensForClient_needs_key path hpath ?_ hr'
      show ((runtimeConfig config port).keyRepo.load T (first.leaves T config ring) _ path
        ).toOption.join = none
      rw [load_leaves_of_ne hport]
      exact congrArg (fun result => result.toOption.join) hnone
    · rintro rfl
      exact ⟨r, hiss⟩

/-! ## Two ports -/

namespace Reference

/-- The key texts of the reference implementation. -/
def keyTexts : KeyTexts where
  xprvToString := Idp.Reference.spell
  xprvFromStr s := .ok (Idp.Reference.unspell s)
  fromUtf8 bytes := (ofUtf8 bytes).elim (.error "invalid utf-8") .ok
  noEntry := "No matching entry found in secure storage"

lemma keyTexts_lawful : keyTexts.Lawful where
  xprv_roundtrip key := congrArg Except.ok (Idp.Reference.unspell_spell key)
  utf8_roundtrip s := by
    have hutf8 : ofUtf8 (asBytes s) = some s := ofUtf8_eq_some_iff.mpr rfl
    simp [keyTexts, hutf8]

/-- A configuration before the port is known. -/
def appConfig : AppConfig where
  oauth2 := {}
  keyNamespace := "idp"
  uiPublicUri := "https://localhost"
  apiPublicUri := "https://localhost"

/-- The first start of the app creates the key of the user. -/
def firstStart : Start where
  port := 49152
  calls := [.store "idp:user:u" { key := [7], derivationPath := [] }]

end Reference

open Reference in
/-- The fixture restarts on the port it had. -/
theorem stored_keys_survive_restart_same_port :
    firstStart.Stores "idp:user:u" { key := [7], derivationPath := [] } ∧
    (runtimeConfig appConfig 49152).keyRepo.load keyTexts
      (firstStart.leaves keyTexts appConfig fun _ _ => none) "idp:user:u" [] =
        .ok (some { key := [7], derivationPath := [] }) := by
  have hstores : firstStart.Stores "idp:user:u" { key := [7], derivationPath := [] } := by decide
  exact ⟨hstores, (stored_keys_survive_restart_iff keyTexts keyTexts_lawful appConfig firstStart
    (fun _ _ => none) 49152).1.mpr (.inl rfl) _ _ hstores⟩

open Reference in
/-- The app is set up at one port and started again at another one: the key of the user is not
found, and no token can be issued to the user any more. -/
theorem restart_at_other_port_loses_key :
    firstStart.Stores "idp:user:u" { key := [7], derivationPath := [] } ∧
    (runtimeConfig appConfig 49153).keyRepo.load keyTexts
      (firstStart.leaves keyTexts appConfig fun _ _ => none) "idp:user:u" [] = .ok none ∧
    ∃ user key, (findPrincipal ((runtimeConfig appConfig 49152).oauth2Service
        Idp.Reference.libraries) 2).eval Idp.Reference.store = .ok (some (.user user key)) ∧
      (∃ r, (issueTokensForClient ((runtimeConfig appConfig 49152).oauth2Service
        Idp.Reference.libraries) Idp.Reference.client (.user user key) [] none none none).eval
          (withKeyring keyTexts (runtimeConfig appConfig 49152).keyRepo
            (firstStart.leaves keyTexts appConfig fun _ _ => none) Idp.Reference.store) = .ok r) ∧
      ∀ r, (issueTokensForClient ((runtimeConfig appConfig 49153).oauth2Service
        Idp.Reference.libraries) Idp.Reference.client (.user user key) [] none none none).eval
          (withKeyring keyTexts (runtimeConfig appConfig 49153).keyRepo
            (firstStart.leaves keyTexts appConfig fun _ _ => none) Idp.Reference.store) ≠ .ok r := by
  have hstores : firstStart.Stores "idp:user:u" { key := [7], derivationPath := [] } := by decide
  have hkept : (runtimeConfig appConfig 49152).keyRepo.load keyTexts
      (firstStart.leaves keyTexts appConfig fun _ _ => none) "idp:user:u" [] =
        .ok (some { key := [7], derivationPath := [] }) := hstores.load keyTexts_lawful
  have hlost : (runtimeConfig appConfig 49153).keyRepo.load keyTexts
      (firstStart.leaves keyTexts appConfig fun _ _ => none) "idp:user:u" [] = .ok none := by
    rfl
  refine ⟨hstores, hlost, _, _, rfl, ?_, fun r => ?_⟩
  · refine issueTokensForClient_total Idp.Reference.libraries_lawful ⟨⟨_, _,
      loadSigningJwk_ok_iff.mpr ⟨{ key := [7], derivationPath := [] },
        storedPrivateKey_ok_iff.mpr ⟨[], rfl, ?_⟩, rfl⟩, rfl⟩, ?_, ?_⟩ _ _ _ _ _ _
    · exact congrArg (fun result => result.toOption.join) hkept
    · decide
    · decide
  · refine issueTokensForClient_needs_key [] rfl ?_
    exact congrArg (fun result => result.toOption.join) hlost

end LocalPlatform.Installation
