import LocalPlatform.Bootstrap.RegistryTheorems
import LocalPlatform.Management.DeviceKeys

/-!
# Who receives the database

Registrations, calls of the device repository and bootstrap connections take turns. The handler
approves the device that the grant names and never looks at its key; that the key is the one of the
peer rests on `BootstrapState.Sound`, which ties the grants to the rows.
-/

namespace LocalPlatform.Bootstrap

open Resumption Function BootstrapRegistry List Option
open Management

/-! ## What runs -/

/-- What goes on at the server. -/
inductive Activity where
  | setup (readings : SetupReadings) (claims : Idp.StandardClaims)
      (request : SetupBootstrapRequest)
  | device (call : RepoCall)
  | connection (conn : Connection)

/-- The peer of a connection. -/
def Activity.peer : Activity → Option EndpointId
  | .connection conn => some conn.remoteId
  | .setup .. | .device _ => none

section
variable {ι : Type} [DecidableEq ι]

/-- An activity with the name `i`, whose result does not matter here. -/
def Activity.task (P : BootstrapPlatform) (i : ι) : Activity → BootstrapTask ι IoError Unit
  | .setup readings claims request => (registerBootstrap P readings claims request).ignore
  | .device call => (onDevices (call.task P.devices)).ignore
  | .connection conn => handle P i conn

/-- Any number of activities, at any point of an interleaving of their steps. -/
abbrev BootstrapRun (ι : Type) :=
  Config ι BootstrapCall (BootstrapState ι) (Except IoError Unit)

/-- All activities are about to start, no grant has been registered, and the engine has kept ids
and public keys unique. -/
structure BootstrapRun.Initial (P : BootstrapPlatform) (activities : ι → Activity)
    (c : BootstrapRun ι) : Prop where
  threads : ∀ i, c.threads i = ((activities i).task P i).prog
  distinct : c.shared.devices.Distinct
  registry : c.shared.registry = .empty
  observed : ∀ i, c.shared.observed i = {}

/-- The grant id that a registration draws has not been drawn before. -/
def FreshGrant : BootstrapCall → BootstrapState ι → Prop
  | .register grantId, s => grantId ∉ s.issued
  | .devices, _ | .reserve, _ | .get, _ | .finish, _ | .synchronize, _ | .receive, _ => True

/-- One thread takes one step, or a grant is drawn that no registration has drawn before. -/
def BootstrapRun.Step : BootstrapRun ι → BootstrapRun ι → Prop :=
  Config.Step (fun _ _ => False) FreshGrant

end

/-! ## Grants that stay what they are -/

/-- Every grant was there before, for the same endpoint and the same device. -/
def BootstrapRegistry.Narrows (registry registry' : BootstrapRegistry) : Prop :=
  ∀ grantId grant', registry'.grants grantId = some grant' →
    ∃ grant, registry.grants grantId = some grant ∧ grant'.endpointId = grant.endpointId ∧
      grant'.deviceId = grant.deviceId

section
variable {registry : BootstrapRegistry}

/-- Dropping expired grants adds none. -/
lemma retain_narrows (clock : String → Instant) : registry.Narrows (registry.retain clock) :=
  fun _ grant h => ⟨grant, (retain_eq_some.mp h).1, rfl, rfl⟩

/-- A grant that is marked or unmarked. -/
lemma insert_narrows {registry' : BootstrapRegistry} (h : registry.Narrows registry')
    {grantId : String} {grant : BootstrapGrant} (hgrant : registry.grants grantId = some grant)
    (inUse : Bool) : registry.Narrows (registry'.insert grantId { grant with inUse }) := by
  intro other found hfound
  by_cases hne : other = grantId
  · subst hne
    obtain rfl := some.inj (insert_self.symm.trans hfound)
    exact ⟨grant, hgrant, rfl, rfl⟩
  · exact h other found ((insert_ne hne).symm.trans hfound)

/-- A reservation adds no grant. -/
lemma reserve_narrows (clock : String → Instant) (grantId : String) (endpointId : EndpointId) :
    registry.Narrows (registry.reserve clock grantId endpointId).2 := by
  rcases registry.reserve_cases clock grantId endpointId with ⟨_, hav⟩ | hdenied
  · rw [reserve_of_available hav]
    exact insert_narrows (retain_narrows clock) hav.grants true
  · rw [hdenied]
    exact retain_narrows clock

/-- The end of a session adds no grant. -/
lemma finish_narrows (grantId : String) (endpointId : EndpointId) (success : Bool) :
    registry.Narrows (registry.finish grantId endpointId success) := by
  have hrefl : registry.Narrows registry := fun _ grant h => ⟨grant, h, rfl, rfl⟩
  unfold finish
  split
  · exact hrefl
  · rename_i grant hgrant
    split
    · exact hrefl
    · split
      · intro other found hfound
        by_cases hne : other = grantId
        · subst hne
          rw [remove_self] at hfound
          cases hfound
        · exact hrefl other found ((remove_ne hne).symm.trans hfound)
      · exact insert_narrows hrefl hgrant false

end

/-! ## The invariant -/

/-- The connection reserved a live grant for the peer, and at its last look at the device table the
device with the key of the peer was approved. -/
def Observed.Justifies (o : Observed) (remote : EndpointId) : Prop :=
  ∃ presentation table, o.presented = some presentation ∧
    presentation.grant.endpointId = remote ∧
    presentation.readAt < presentation.grant.expiresAt ∧
    o.checked = some table ∧ table.KeyIn remote.text .approved

section
variable {ι α : Type} {peers : ι → Option EndpointId} {table : DeviceTable} {remote : EndpointId}
  {t : DeviceTask α} {X : α → DeviceTable → Prop}

/-- What ties the registry to the device table, and both to what connections have seen. -/
structure BootstrapState.Sound (peers : ι → Option EndpointId) (s : BootstrapState ι) : Prop where
  distinct : s.devices.Distinct
  /-- A grant names a row with the key of its endpoint. -/
  grants : ∀ grantId grant, s.registry.grants grantId = some grant →
    grantId ∈ s.issued ∧ s.devices.Names grant.deviceId grant.endpointId.text
  /-- The id of a reserved grant stands for its endpoint for good. -/
  presented : ∀ i presentation, (s.observed i).presented = some presentation →
    presentation.grantId ∈ s.issued ∧
      ∀ grant, s.registry.grants presentation.grantId = some grant →
        grant.endpointId = presentation.grant.endpointId
  synchronizing : ∀ i remote, (s.observed i).synchronizing = some remote →
    peers i = some remote ∧ (s.observed i).Justifies remote

/-- One step of activity `i`. -/
structure Moves (peers : ι → Option EndpointId) (i : ι) (s s' : BootstrapState ι) : Prop where
  sound : s'.Sound peers
  devices : s.devices.Keeps s'.devices
  others : ∀ j, j ≠ i → s'.observed j = s.observed j
  checked : ∀ j, (s'.observed j).checked = (s.observed j).checked ∨
    (s'.observed j).checked = some s'.devices

/-- The others keep the invariant and every row, and do not touch what `i` has seen. -/
def bootstrapContract (peers : ι → Option EndpointId) (i : ι) :
    Contract BootstrapCall (BootstrapState ι) where
  rely s s' := s.Sound peers →
    s'.Sound peers ∧ s.devices.Keeps s'.devices ∧ s'.observed i = s.observed i
  guarantee s s' := s.Sound peers → Moves peers i s s'
  guard := FreshGrant
  refl s h := ⟨h, .refl _, rfl⟩
  trans h h' hs := by
    obtain ⟨hb, hkeeps, hobserved⟩ := h hs
    obtain ⟨hc, hkeeps', hobserved'⟩ := h' hb
    exact ⟨hc, hkeeps.trans hkeeps', hobserved'.trans hobserved⟩

variable {i : ι} {s s' : BootstrapState ι}

/-- A fact about the rows and about what `i` has seen is stable. -/
lemma stable_of {X : BootstrapState ι → Prop}
    (h : ∀ s s', s.Sound peers → s.devices.Keeps s'.devices → s'.observed i = s.observed i →
      X s → X s') :
    (bootstrapContract peers i).Stable fun s => s.Sound peers ∧ X s := by
  intro s s' hrely hs
  obtain ⟨hsound, hkeeps, hobs⟩ := hrely hs.1
  exact ⟨hsound, h s s' hs.1 hkeeps hobs hs.2⟩

/-- No other activity breaks soundness. -/
lemma stable_sound : (bootstrapContract peers i).Stable fun s => s.Sound peers :=
  fun _ _ hrely hs => (hrely hs).1

/-- What only depends on what `i` has seen. -/
lemma stable_seen (X : Observed → Prop) :
    (bootstrapContract peers i).Stable fun s => s.Sound peers ∧ X (s.observed i) := by
  refine stable_of fun s s' _ _ hobs hX => ?_
  rw [hobs]
  exact hX

/-! ## Single steps -/

/-- A step that changes rows of the device table. -/
lemma Moves.ofDevices (hs : s.Sound peers) (h : s.devices.Keeps table) :
    Moves peers i s { s with devices := table } where
  sound :=
    { distinct := h.distinct hs.distinct
      grants := fun grantId grant hgrant =>
        (hs.grants grantId grant hgrant).imp_right (h.names hs.distinct)
      presented := hs.presented
      synchronizing := hs.synchronizing }
  devices := h
  others _ _ := rfl
  checked _ := .inl rfl

/-- A step that drops, marks or unmarks grants. -/
lemma Moves.ofRegistry (hs : s.Sound peers) {registry : BootstrapRegistry}
    (h : s.registry.Narrows registry) : Moves peers i s { s with registry } where
  sound :=
    { distinct := hs.distinct
      grants := by
        intro grantId grant hgrant
        obtain ⟨old, hold, hend, hdev⟩ := h grantId grant hgrant
        rw [hend, hdev]
        exact hs.grants grantId old hold
      presented := by
        intro j presentation hpres
        obtain ⟨hiss, hsame⟩ := hs.presented j presentation hpres
        refine ⟨hiss, fun grant hgrant => ?_⟩
        obtain ⟨old, hold, hend, -⟩ := h _ grant hgrant
        exact hend.trans (hsame old hold)
      synchronizing := hs.synchronizing }
  devices := .refl _
  others _ _ := rfl
  checked _ := .inl rfl

section
variable (ht : ∀ table : DeviceTable, table.Distinct → table.Keeps (t.run table).2)
include ht

/-- A call of the device repository that keeps every row, with what its result tells about the rows
from then on. -/
lemma under_onDevices
    (hX : ∀ a (table table' : DeviceTable), table.Distinct → table.Keeps table' →
      X a table → X a table')
    (h : ∀ table a, t.eval table = .ok a → X a (t.run table).2) (hs : s.Sound peers) :
    (onDevices t : BootstrapTask ι ManagementError α).Under (bootstrapContract peers i)
      (fun r s => s.Sound peers ∧ ∀ a, r = .ok a → X a s.devices) s := by
  refine .atomic stable_sound (fun r => stable_of fun _ _ hs hkeeps _ hr a ha =>
    hX a _ _ hs.distinct hkeeps (hr a ha)) hs fun s hs _ => ?_
  have hmoves : Moves peers i s { s with devices := (t.run s.devices).2 } :=
    .ofDevices hs (ht s.devices hs.distinct)
  exact ⟨fun _ => hmoves, hmoves.sound, h s.devices⟩

/-- The same call, with its error replaced by a response. -/
lemma under_onDevices_mapError {ε : Type} {f : ManagementError → ε}
    (hX : ∀ a (table table' : DeviceTable), table.Distinct → table.Keeps table' →
      X a table → X a table')
    (h : ∀ table a, t.eval table = .ok a → X a (t.run table).2) (hs : s.Sound peers) :
    ((onDevices t).mapError f : BootstrapTask ι ε α).Under (bootstrapContract peers i)
      (fun r s => s.Sound peers ∧ ∀ a, r = .ok a → X a s.devices) s :=
  .mapError (.mono (fun _ _ hr => ⟨hr.1, fun a ha => hr.2 a (except_mapError_ok.mp ha)⟩)
    (under_onDevices ht hX h hs))

end

/-- The registration of a grant for a row with the key of its endpoint. -/
lemma under_registerGrant {ε : Type} (readings : SetupReadings) (grant : BootstrapGrant)
    (hs : s.Sound peers ∧ s.devices.Names grant.deviceId grant.endpointId.text) :
    (registerGrant readings grant : BootstrapTask ι ε BootstrapGrant).Under
      (bootstrapContract peers i) (fun _ s => s.Sound peers) s := by
  refine .atomic (stable_of fun _ _ hs hkeeps _ => hkeeps.names hs.distinct)
    (fun _ => stable_sound) hs fun s hs hfresh => ?_
  obtain ⟨hsound, hnames⟩ := hs
  have hnew : readings.grant ∉ s.issued := hfresh
  have hgrs : ∀ grantId, grantId ≠ readings.grant → ∀ found,
      (s.registry.register readings.clock readings.grant grant).grants grantId = some found →
        s.registry.grants grantId = some found := by
    intro grantId hne found hfound
    have hkept := (insert_ne hne).symm.trans hfound
    exact (retain_eq_some.mp hkept).1
  have hafter : BootstrapState.Sound peers { s with
      registry := s.registry.register readings.clock readings.grant grant
      issued := readings.grant :: s.issued } := by
    refine ⟨hsound.distinct, fun grantId found hfound => ?_, fun j presentation hpres => ?_,
      hsound.synchronizing⟩
    · by_cases hne : grantId = readings.grant
      · subst hne
        obtain rfl := some.inj (insert_self.symm.trans hfound)
        exact ⟨mem_cons_self, hnames⟩
      · obtain ⟨hiss, hnames'⟩ := hsound.grants grantId found (hgrs grantId hne found hfound)
        exact ⟨mem_cons_of_mem _ hiss, hnames'⟩
    · obtain ⟨hiss, hsame⟩ := hsound.presented j presentation hpres
      have hne : presentation.grantId ≠ readings.grant := fun heq => hnew (heq ▸ hiss)
      exact ⟨mem_cons_of_mem _ hiss, fun found hfound =>
        hsame found (hgrs _ hne found hfound)⟩
  exact ⟨fun _ => ⟨hafter, .refl _, fun _ _ => rfl, fun _ => .inl rfl⟩, hafter⟩

/-! ## The route -/

/-- The result of a step names a row with the key of the endpoint. -/
def NamesResult (endpointId : EndpointId) (r : Except Idp.ErrorResponse (Id × Idp.Bytes))
    (s : BootstrapState ι) : Prop :=
  ∀ deviceId hash, r = .ok (deviceId, hash) → s.devices.Names deviceId endpointId.text

lemma stable_namesResult (endpointId : EndpointId) (r : Except Idp.ErrorResponse (Id × Idp.Bytes)) :
    (bootstrapContract peers i).Stable fun s => s.Sound peers ∧ NamesResult endpointId r s :=
  stable_of fun _ _ hs hkeeps _ h deviceId hash hr =>
    hkeeps.names hs.distinct (h deviceId hash hr)

variable (P : BootstrapPlatform)

/-- The device inserted is the one the grant will name. -/
lemma under_createPendingDevice (readings : SetupReadings)
    (ownerSubject : String) (request : SetupBootstrapRequest) (endpointId : EndpointId)
    (hs : s.Sound peers) : (createPendingDevice P readings ownerSubject request endpointId).Under
      (bootstrapContract peers i)
      (fun r s => s.Sound peers ∧ NamesResult endpointId r s) s := by
  -- the row that was inserted keeps its id and its key
  refine .bind (under_onDevices_mapError
    (fun table _ => ends_create (.refl table) fun _ hnew _ _ => .append hnew)
    (X := fun device table => table.Names device.id endpointId.text)
    (fun _ _ _ hdist hkept => hkept.names hdist) (fun table device hdev => ?_) hs)
    (fun device s h => ?_) (fun e s h => ⟨h.1, fun _ _ hr => nomatch hr⟩)
  · exact create_ok (Prod.ext hdev rfl)
  · refine .pure (stable_namesResult endpointId _) ⟨h.1, fun deviceId hash hr => ?_⟩
    obtain ⟨rfl, -⟩ := Prod.ext_iff.mp (Except.ok.inj hr)
    exact h.2 device rfl

/-- An existing device or a new one: either carries the endpoint's key. -/
lemma under_bootstrapDevice (readings : SetupReadings)
    (ownerSubject : String) (request : SetupBootstrapRequest) (endpointId : EndpointId)
    (existing : Option DeviceRecord) (hs : s.Sound peers ∧ ∀ device, existing = some device →
      s.devices.Names device.id endpointId.text) :
    (bootstrapDevice P readings ownerSubject request endpointId existing).Under
      (bootstrapContract peers i)
      (fun r s => s.Sound peers ∧ NamesResult endpointId r s) s := by
  obtain ⟨hsound, hnames⟩ := hs
  cases existing with
  | none => exact under_createPendingDevice P readings ownerSubject request endpointId hsound
  | some device =>
    unfold bootstrapDevice
    dsimp only
    split
    · refine .pure (stable_namesResult endpointId _) ⟨hsound, fun deviceId hash hr => ?_⟩
      obtain ⟨rfl, -⟩ := Prod.ext_iff.mp (Except.ok.inj hr)
      exact hnames device rfl
    · exact .bind (under_onDevices_mapError (X := fun _ _ => True)
        (fun table _ => ends_revoke (.refl table) fun _ _ _ => .revoke _) (fun _ _ _ _ _ h => h)
        (fun _ _ _ => trivial) hsound)
        (fun _ s hs => under_createPendingDevice P readings ownerSubject request endpointId hs.1)
        (fun e s hs => ⟨hs.1, fun _ _ hr => nomatch hr⟩)
    · exact under_createPendingDevice P readings ownerSubject request endpointId hsound

/-- A registration keeps the invariant. -/
lemma under_registerBootstrap (readings : SetupReadings)
    (claims : Idp.StandardClaims) (request : SetupBootstrapRequest) (hs : s.Sound peers) :
    (registerBootstrap P readings claims request).Under (bootstrapContract peers i)
      (fun _ s => s.Sound peers) s := by
  refine .lift_bind stable_sound hs (fun _ s hs => ?_) fun _ _ hs => hs
  refine .lift_bind stable_sound hs (fun endpointId s hs => ?_) fun _ _ hs => hs
  -- the devices that are listed are rows of the table, with their keys
  refine .bind (under_onDevices_mapError (X := fun (devices : List DeviceRecord) table =>
    ∀ device ∈ devices, table.Names device.id device.publicKey)
    (fun table _ => Task.Ends.reads (.refl table))
    (fun _ _ _ hdist hkept h device hdev => hkept.names hdist (h device hdev))
    (fun table devices hdevs device hdev => ?_) hs)
    (fun devices s hs => ?_) (fun _ _ hs => hs.1)
  · rw [run_reads]
    exact list_names hdevs hdev
  · obtain ⟨hsound, hnames⟩ := hs
    have hexist : ∀ device, (devices.find? fun device => device.publicKey == endpointId.text) =
        some device → s.devices.Names device.id endpointId.text := by
      intro device hfind
      have hkey : device.publicKey = endpointId.text := by simpa using find?_some hfind
      have hmem := hnames devices rfl device (mem_of_find?_eq_some hfind)
      rw [hkey] at hmem
      exact hmem
    refine .lift_bind (A := fun s => s.Sound peers ∧
      ∀ device, (devices.find? fun device => device.publicKey == endpointId.text) = some device →
        s.devices.Names device.id endpointId.text)
      (stable_of fun _ _ hs hkeeps _ h device hfind => hkeeps.names hs.distinct (h device hfind))
      ⟨hsound, hexist⟩ (fun _ s hs => ?_) fun _ _ hs => hs.1
    refine .bind (under_bootstrapDevice P readings claims.sub request endpointId _ hs)
      (fun result s hs => ?_) (fun _ _ hs => hs.1)
    obtain ⟨deviceId, hash⟩ := result
    refine .bind (under_registerGrant readings _ ⟨hs.1, hs.2 deviceId hash rfl⟩)
      (fun record s hs => ?_) (fun _ _ hs => hs)
    exact .lift_bind stable_sound hs (fun _ s hs => .pure stable_sound hs) fun _ _ hs => hs

/-! ## The handler -/

section
variable [DecidableEq ι]

/-- A step after which the connection has seen `o`. -/
lemma Moves.see {s₁ : BootstrapState ι} (h : Moves peers i s s₁)
    (hobs : s₁.observed = s.observed) {o : Observed}
    (hpres : ∀ presentation, o.presented = some presentation →
      presentation.grantId ∈ s₁.issued ∧
        ∀ grant, s₁.registry.grants presentation.grantId = some grant →
          grant.endpointId = presentation.grant.endpointId)
    (hsync : ∀ remote, o.synchronizing = some remote →
      peers i = some remote ∧ o.Justifies remote)
    (hchk : o.checked = (s.observed i).checked ∨ o.checked = some s₁.devices) :
    Moves peers i s { s₁ with observed := update s.observed i o } := by
  have hself : update s.observed i o i = o := update_self ..
  have hother : ∀ j, j ≠ i → update s.observed i o j = s₁.observed j := by
    intro j hj
    rw [hobs]
    exact update_of_ne hj ..
  constructor
  case sound =>
    refine ⟨h.sound.distinct, h.sound.grants, fun j presentation hj => ?_, fun j remote hj => ?_⟩
    all_goals
      by_cases hji : j = i
      · subst hji
        simp only [hself] at hj ⊢
        first
        | exact hpres presentation hj
        | exact hsync remote hj
      · simp only [hother j hji] at hj ⊢
        first
        | exact h.sound.presented j presentation hj
        | exact h.sound.synchronizing j remote hj
  case devices => exact h.devices
  case others => exact fun j hj => (hother j hj).trans (congrFun hobs j)
  case checked =>
    intro j
    by_cases hji : j = i
    · subst hji
      simp only [hself]
      exact hchk
    · simp only [hother j hji]
      exact h.checked j

/-- The connection holds a live grant for the peer and has not started to synchronize. -/
def Observed.Presents (remote : EndpointId) (grantId : String) (o : Observed) : Prop :=
  o.synchronizing = none ∧ ∃ presentation, o.presented = some presentation ∧
    presentation.grantId = grantId ∧ presentation.grant.endpointId = remote ∧
    presentation.readAt < presentation.grant.expiresAt

variable (conn : Connection) (grantId : String)

/-- The first step: the connection has seen nothing yet. -/
lemma under_reserveGrant (hs : s.Sound peers ∧ s.observed i = {}) :
    (reserveGrant i conn grantId).Under (bootstrapContract peers i) (fun r s => s.Sound peers ∧
        (r = .ok true → (s.observed i).Presents conn.remoteId grantId)) s := by
  refine .atomic (stable_seen fun o => o = {})
    (fun r => stable_seen fun o => r = .ok true → o.Presents conn.remoteId grantId) hs
    fun s hs _ => ?_
  obtain ⟨hsound, hunseen⟩ := hs
  have hmoves : Moves peers i s
      { s with registry := (s.registry.reserve conn.clock grantId conn.remoteId).2 } :=
    .ofRegistry hsound (reserve_narrows conn.clock grantId conn.remoteId)
  rcases s.registry.reserve_cases conn.clock grantId conn.remoteId with ⟨grant, hav⟩ | hdenied
  · have hiss := (hsound.grants grantId grant hav.grants).1
    have hpresentation : ((s.registry.grants grantId).map fun grant =>
        (⟨grantId, grant, conn.clock grantId⟩ : Presentation)) =
          some ⟨grantId, grant, conn.clock grantId⟩ := by
      rw [hav.grants]
      rfl
    rw [reserve_of_available hav] at hmoves ⊢
    dsimp only
    rw [if_pos rfl, hpresentation]
    have hseen := hmoves.see rfl
      (o := { s.observed i with presented := some ⟨grantId, grant, conn.clock grantId⟩ })
      (fun presentation hpres => by
        obtain rfl := some.inj hpres
        refine ⟨hiss, fun found hfound => ?_⟩
        obtain rfl := some.inj (insert_self.symm.trans hfound)
        rfl)
      (fun remote hrem => by
        rw [hunseen] at hrem
        cases hrem)
      (.inl rfl)
    refine ⟨fun _ => hseen, hseen.sound, fun _ => ?_⟩
    rw [Observed.update, update_self, hunseen]
    exact ⟨rfl, _, rfl, rfl, hav.endpointId, hav.live⟩
  · rw [hdenied] at hmoves ⊢
    exact ⟨fun _ => hmoves, hmoves.sound, fun hr => nomatch hr⟩

/-- A look at the device table, before the synchronization. -/
lemma Moves.consulted (hs : s.Sound peers) (hidle : (s.observed i).synchronizing = none)
    (h : s.devices.Keeps table) :
    Moves peers i s { s with
      devices := table
      observed := Observed.update s.observed i fun o => { o with checked := some table } } := by
  have hmoves : Moves peers i s { s with devices := table } := .ofDevices hs h
  refine hmoves.see rfl (hs.presented i) (fun remote hrem => ?_) (.inr rfl)
  exact absurd (hidle.symm.trans hrem) nofun

/-- A call of the device repository by a connection that presented its grant. -/
lemma under_consult {grantId : String}
    (ht : ∀ table : DeviceTable, table.Distinct → table.Keeps (t.run table).2)
    {deviceId : Id} {R : α → Prop}
    (hR : ∀ table : DeviceTable, table.Distinct → table.Names deviceId remote.text → ∀ a,
      t.eval table = .ok a → R a → (t.run table).2.KeyIn remote.text .approved)
    (hs : s.Sound peers ∧ (s.observed i).Presents remote grantId ∧
      s.devices.Names deviceId remote.text) :
    (consult i t).Under (bootstrapContract peers i) (fun r s => s.Sound peers ∧
      ((s.observed i).Presents remote grantId ∧
        ∀ a, r = .ok a → R a → (s.observed i).Justifies remote) ∧
      s.devices.Names deviceId remote.text) s := by
  have hstab : ∀ X : Observed → Prop, (bootstrapContract peers i).Stable fun s =>
      s.Sound peers ∧ X (s.observed i) ∧ s.devices.Names deviceId remote.text := by
    refine fun X => stable_of fun s s' hs hkeeps hobs h => ?_
    rw [hobs]
    exact ⟨h.1, hkeeps.names hs.distinct h.2⟩
  refine .atomic (hstab _) (fun r => hstab fun o => o.Presents remote grantId ∧
    ∀ a, r = .ok a → R a → o.Justifies remote) hs fun s hs _ => ?_
  obtain ⟨hsound, hpres, hnames⟩ := hs
  have hkeeps := ht s.devices hsound.distinct
  have hmoves := Moves.consulted hsound hpres.1 hkeeps
  refine ⟨fun _ => hmoves, hmoves.sound, ?_, hkeeps.names hsound.distinct hnames⟩
  dsimp only
  rw [Observed.update, update_self]
  refine ⟨hpres, fun a ha hRa => ?_⟩
  obtain ⟨-, presentation, hpresented, -, hend, hlive⟩ := hpres
  have heval : t.eval s.devices = .ok a := except_mapError_ok.mp ha
  exact ⟨presentation, _, hpresented, hend, hlive, rfl,
    hR s.devices hsound.distinct hnames a heval hRa⟩

omit [DecidableEq ι] in
/-- The grant that is read back is for the peer and names a row with its key. -/
lemma under_getGrant {grantId : String}
    (hs : s.Sound peers ∧ (s.observed i).Presents remote grantId) :
    (getGrant grantId : BootstrapTask ι IoError (Option BootstrapGrant)).Under
      (bootstrapContract peers i)
      (fun r s => s.Sound peers ∧ (s.observed i).Presents remote grantId ∧
        ∀ grant, r = .ok (some grant) → s.devices.Names grant.deviceId remote.text) s := by
  refine .read (stable_seen _) (fun r => ?_) hs fun s hs => ⟨fun hsound => ?_, hs.1, hs.2, ?_⟩
  · refine stable_of fun s s' hs hkeeps hobs h => ?_
    rw [hobs]
    exact ⟨h.1, fun grant hr => hkeeps.names hs.distinct (h.2 grant hr)⟩
  · exact ⟨hsound, .refl _, fun _ _ => rfl, fun _ => .inl rfl⟩
  · obtain ⟨hsound, -, presentation, hpres, rfl, rfl, -⟩ := hs
    intro grant hr
    have hgrant : s.registry.grants presentation.grantId = some grant := Except.ok.inj hr
    have hnames := (hsound.grants _ grant hgrant).2
    rw [(hsound.presented i presentation hpres).2 grant hgrant] at hnames
    exact hnames

/-- When the approval succeeds, it has seen an approved device with the key of the peer. -/
lemma under_approval (hs : s.Sound peers ∧ (s.observed i).Presents conn.remoteId grantId) :
    (approval i conn grantId).Under (bootstrapContract peers i)
      (fun r s => s.Sound peers ∧ (s.observed i).Presents conn.remoteId grantId ∧
        (r = .ok () → (s.observed i).Justifies conn.remoteId)) s := by
  have hstab : ∀ r : Except IoError Unit, (bootstrapContract peers i).Stable fun s =>
      s.Sound peers ∧ (s.observed i).Presents conn.remoteId grantId ∧
        (r = .ok () → (s.observed i).Justifies conn.remoteId) :=
    fun r => stable_seen fun o => o.Presents conn.remoteId grantId ∧
      (r = .ok () → o.Justifies conn.remoteId)
  refine .bind (under_getGrant hs) (fun found s hs => ?_)
    (fun e s hs => ⟨hs.1, hs.2.1, fun hr => nomatch hr⟩)
  cases found with
  | none => exact .lift (hstab _) ⟨hs.1, hs.2.1, fun hr => nomatch hr⟩
  | some grant =>
    obtain ⟨hsound, hpres, hnames⟩ := hs
    -- the row that the grant names carries the key of the peer
    change Task.Under _ _ (consult i _ >>= _) s
    refine .bind (under_consult
      (fun table hdist => approve_keeps hdist conn.now conn.updatedAt grant.deviceId
        grant.enrollmentCodeHash)
      (R := fun approved => approved.isSome = true) ?_ ⟨hsound, hpres, hnames grant rfl⟩)
      (fun approved s hs => ?_) (fun e s hs => ⟨hs.1, hs.2.1.1, fun hr => nomatch hr⟩)
    · intro table hdist hrow approved hok happr
      obtain ⟨device, rfl⟩ := isSome_iff_exists.mp happr
      obtain ⟨row, hmem, hid, hstate⟩ := approve_some hok
      have hkeeps := approve_keeps hdist conn.now conn.updatedAt grant.deviceId
        grant.enrollmentCodeHash
      have hkey := (hkeeps.distinct hdist).keyIn (hkeeps.names hdist hrow) hmem hid
      rw [hstate] at hkey
      exact hkey
    · obtain ⟨hsound, ⟨hpres, hjust⟩, hrow⟩ := hs
      cases approved with
      | some device =>
        exact .pure (hstab _) ⟨hsound, hpres, fun _ => hjust _ rfl rfl⟩
      | none =>
        refine .bind (under_consult (fun table _ => Task.Ends.reads (.refl table))
          (R := fun found => found.isSome = true) ?_ ⟨hsound, hpres, hrow⟩)
          (fun found s hs => ?_) (fun e s hs => ⟨hs.1, hs.2.1.1, fun hr => nomatch hr⟩)
        · intro table _ _ found hok hfound
          obtain ⟨device, rfl⟩ := isSome_iff_exists.mp hfound
          rw [run_reads]
          exact findApprovedByPublicKey_some hok
        · obtain ⟨hsound, ⟨hpres, hjust⟩, -⟩ := hs
          refine .lift (hstab _) ⟨hsound, hpres, fun hr => ?_⟩
          cases found with
          | none => cases hr
          | some device => exact hjust _ rfl rfl

omit [DecidableEq ι] in
/-- Ending the session keeps soundness, whatever its result. -/
lemma under_finishGrant (success : Bool) (x : Except IoError Unit) (hs : s.Sound peers) :
    (finishGrant conn grantId success >>= fun _ => Task.lift x : BootstrapTask ι IoError Unit).Under
      (bootstrapContract peers i) (fun _ s => s.Sound peers) s := by
  refine .bind (P := fun _ s => s.Sound peers) ?_ (fun _ s hs => .lift stable_sound hs)
    fun _ _ hs => hs
  refine .atomic stable_sound (fun _ => stable_sound) hs fun s hs _ => ?_
  have hmoves : Moves peers i s
      { s with registry := s.registry.finish grantId conn.remoteId success } :=
    .ofRegistry hs (finish_narrows grantId conn.remoteId success)
  exact ⟨fun _ => hmoves, hmoves.sound⟩

/-- The synchronization starts when it is justified. -/
lemma under_synchronize (hpeer : peers i = some conn.remoteId)
    (hrecv : ∀ change ∈ conn.received, ∀ table : DeviceTable, table.Keeps (change table))
    (grantId : String) (hs : s.Sound peers ∧ (s.observed i).Justifies conn.remoteId) :
    (synchronize i conn grantId).Under (bootstrapContract peers i)
      (fun _ s => s.Sound peers) s := by
  have hstart : (startSynchronize i conn).Under (bootstrapContract peers i)
      (fun _ s => s.Sound peers) s := by
    refine .atomic (stable_seen fun o => o.Justifies conn.remoteId) (fun _ => stable_sound) hs
      fun s hs _ => ?_
    obtain ⟨hsound, hjust⟩ := hs
    have hstays : Moves peers i s s := ⟨hsound, .refl _, fun _ _ => rfl, fun _ => .inl rfl⟩
    have hmoves := hstays.see rfl
      (o := { s.observed i with synchronizing := some conn.remoteId }) (hsound.presented i)
      (fun remote hrem => by
        obtain rfl := some.inj hrem
        exact ⟨hpeer, hjust⟩)
      (.inl rfl)
    exact ⟨fun _ => hmoves, hmoves.sound⟩
  refine .bind hstart (fun _ s hs => ?_) (fun _ _ hs => hs)
  refine .bind (.forM_of_keeps stable_sound (fun change hchange s hs => ?_) hs)
    (fun _ s hs => ?_) (fun _ _ hs => hs)
  · refine .atomic stable_sound (fun _ => stable_sound) hs fun s hs _ => ?_
    have hmoves : Moves peers i s { s with devices := change s.devices } :=
      .ofDevices hs (hrecv change hchange s.devices)
    exact ⟨fun _ => hmoves, hmoves.sound⟩
  · exact under_finishGrant conn grantId conn.synchronized _ hs

/-- A connection keeps soundness from its first byte to its end. -/
lemma under_handle (P : BootstrapPlatform) (conn : Connection)
    (hpeer : peers i = some conn.remoteId)
    (hrecv : ∀ change ∈ conn.received, ∀ table : DeviceTable, table.Keeps (change table))
    (hs : s.Sound peers ∧ s.observed i = {}) :
    (handle P i conn).Under (bootstrapContract peers i) (fun _ s => s.Sound peers) s := by
  have hunseen : (bootstrapContract peers i).Stable fun s => s.Sound peers ∧ s.observed i = {} :=
    stable_seen fun o => o = {}
  refine .lift_bind hunseen hs (fun _ s hs => ?_) fun _ _ hs => hs.1
  refine .lift_bind hunseen hs (fun header s hs => ?_) fun _ _ hs => hs.1
  refine .lift_bind hunseen hs (fun _ s hs => ?_) fun _ _ hs => hs.1
  refine .lift_bind hunseen hs (fun token s hs => ?_) fun _ _ hs => hs.1
  refine .lift_bind hunseen hs (fun grantId s hs => ?_) fun _ _ hs => hs.1
  refine .bind (under_reserveGrant conn grantId hs) (fun reserved s hs => ?_) (fun _ _ hs => hs.1)
  cases reserved with
  | false => exact .lift stable_sound hs.1
  | true =>
    change Task.Under _ _ (bootstrapPeer i conn grantId) s
    refine .handle (under_approval conn grantId ⟨hs.1, hs.2 rfl⟩) fun r s hs => ?_
    cases r with
    | error e => exact under_finishGrant conn grantId false _ hs.1
    | ok u =>
      dsimp only
      split
      · exact under_synchronize conn hpeer hrecv grantId ⟨hs.1, hs.2.2 rfl⟩
      · exact under_finishGrant conn grantId false _ hs.1

/-! ## Whole runs -/

/-- What connections bring in keeps ids, keys and revocations. -/
def Activity.Benign : Activity → Prop
  | .connection conn =>
    ∀ change ∈ conn.received, ∀ table : DeviceTable, table.Keeps (change table)
  | .setup .. | .device _ => True

/-- Every activity keeps its contract, from a state in which it has seen nothing. -/
lemma Activity.under (P : BootstrapPlatform) (activity : Activity)
    (hpeer : peers i = activity.peer) (hbenign : activity.Benign)
    (hs : s.Sound peers ∧ s.observed i = {}) :
    (activity.task P i).Under (bootstrapContract peers i) (fun _ s => s.Sound peers) s := by
  cases activity with
  | setup readings claims request =>
    exact .handle (under_registerBootstrap P readings claims request hs.1) fun _ s hs =>
      .pure stable_sound hs
  | device call =>
    exact .handle (under_onDevices (X := fun _ _ => True)
      (fun table hdist => call.keeps hdist) (fun _ _ _ _ _ h => h) (fun _ _ _ => trivial)
      hs.1) fun _ s hs => .pure stable_sound hs.1
  | connection conn => exact under_handle P conn hpeer hbenign hs

/-- In every history of registrations, device operations and bootstrap connections: a connection
synchronizes the database only with its peer, who presented a live grant registered for it, and only
when the last look at the device table showed an approved device with the key of the peer. A device
that is revoked before its connection starts never gets that far. -/
theorem synchronizes_only_approved {P : BootstrapPlatform} {activities : ι → Activity}
    (hbenign : ∀ i, (activities i).Benign) {c c' c'' : BootstrapRun ι}
    (hinitial : BootstrapRun.Initial P activities c)
    (hrun : Relation.ReflTransGen BootstrapRun.Step c c')
    (hlater : Relation.ReflTransGen BootstrapRun.Step c' c'') :
    (∀ i remote, (c'.shared.observed i).synchronizing = some remote →
      (activities i).peer = some remote ∧ (c'.shared.observed i).Justifies remote) ∧
    ∀ i remote, (activities i).peer = some remote → c'.threads i = c.threads i →
      c'.shared.devices.KeyIn remote.text .revoked →
        (c''.shared.observed i).synchronizing = none := by
  obtain ⟨peers, hpeers⟩ : ∃ peers : ι → Option EndpointId, ∀ i, peers i = (activities i).peer :=
    ⟨_, fun _ => rfl⟩
  have hsound : c.shared.Sound peers := by
    refine ⟨hinitial.distinct, fun grantId grant hgrant => ?_, fun i presentation hpres => ?_,
      fun i remote hrem => ?_⟩
    · rw [hinitial.registry] at hgrant
      cases hgrant
    · rw [hinitial.observed] at hpres
      cases hpres
    · rw [hinitial.observed] at hrem
      cases hrem
  have hunder : c.Under (bootstrapContract peers) fun _ _ s => s.Sound peers := by
    intro i
    rw [hinitial.threads i]
    exact ((activities i).under P (hpeers i) (hbenign i) ⟨hsound, hinitial.observed i⟩).steps
  have hcomp : Compatible (bootstrapContract peers) (fun _ _ => False) FreshGrant := by
    refine ⟨fun _ _ _ h => h.elim, fun _ _ _ h => h, fun i j s s' hj h hs => ?_⟩
    have hmoves := h hs
    exact ⟨hmoves.sound, hmoves.devices, hmoves.others j hj⟩
  have hsound' : c'.shared.Sound peers :=
    hunder.keeps hcomp (fun _ _ h => h.elim) (fun i s s' h hs => (h hs).sound) hrun hsound
  refine ⟨fun i remote hrem => ?_, fun i remote hpeer hunstarted hrev => ?_⟩
  · rw [← hpeers i]
    exact hsound'.synchronizing i remote hrem
  rw [← hpeers i] at hpeer
  have hunseen : c'.shared.Sound peers ∧ c'.shared.observed i = {} :=
    hunder.unstarted hcomp (stable_seen fun o => o = {}) hrun ⟨hsound, hinitial.observed i⟩
      hunstarted
  -- from now on, every table that the connection can see has the device revoked
  have hunder' := hunder.run hcomp hrun
  have hseen : c''.shared.Sound peers ∧ c''.shared.devices.KeyIn remote.text .revoked ∧
      ∀ table, (c''.shared.observed i).checked = some table →
        table.Distinct ∧ table.KeyIn remote.text .revoked := by
    refine hunder'.keeps (J := fun s => s.Sound peers ∧ s.devices.KeyIn remote.text .revoked ∧
      ∀ table, (s.observed i).checked = some table →
        table.Distinct ∧ table.KeyIn remote.text .revoked) hcomp
      (fun _ _ h => h.elim) (fun j s s' h hs => ?_) hlater ⟨hsound', hrev, fun table htable => ?_⟩
    · have hmoves := h hs.1
      have hrev' := hmoves.devices.revoked hs.1.distinct hs.2.1
      refine ⟨hmoves.sound, hrev', fun table htable => ?_⟩
      rcases hmoves.checked i with hsame | hnow
      · exact hs.2.2 table (hsame.symm.trans htable)
      · obtain rfl := some.inj (hnow.symm.trans htable)
        exact ⟨hmoves.sound.distinct, hrev'⟩
    · rw [hunseen.2] at htable
      cases htable
  cases hsync : (c''.shared.observed i).synchronizing with
  | none => rfl
  | some remote' =>
    obtain ⟨hpeer', presentation, table, -, -, -, hchk, happr⟩ :=
      hseen.1.synchronizing i remote' hsync
    obtain rfl := some.inj (hpeer.symm.trans hpeer')
    obtain ⟨hdist, hstill⟩ := hseen.2.2 table hchk
    exact absurd (hdist.state_unique happr hstill) nofun

end

end

/-! ## A concrete run -/

namespace Reference

/-- Activity `0` registers the peer, and all others are its connections, over which a new name for
its device comes in. -/
def joinActivities : ℕ → Activity
  | 0 => .setup setupReadings setupClaims joinRequest
  | _ => .connection
    { joinConnection with received := [fun table => table.update 2 [.name "tablet"]] }

/-- The server and one device that joins it. -/
def joinRun : BootstrapRun ℕ where
  shared := { devices := serverTable, registry := .empty, issued := [], observed := fun _ => {} }
  threads i := ((joinActivities i).task bootstrapPlatform i).prog

end Reference

instance {ι : Type} (call : BootstrapCall) (s : BootstrapState ι) :
    Decidable (FreshGrant call s) := by
  cases call
  all_goals
    unfold FreshGrant
    infer_instance

open Reference

/-- The peer is registered, presents its grant, and has brought in the new name while it receives
the database. -/
theorem synchronizes_only_approved_reference :
    ((joinRun.schedule [0, 0, 0, 1, 1, 1, 1, 1]).shared.devices.rows.map (·.name)) =
        ["phone", "tablet"] ∧
      ((joinRun.schedule [0, 0, 0, 1, 1, 1, 1, 1]).shared.observed 1).synchronizing =
        some peer ∧
      ((joinRun.schedule [0, 0, 0, 1, 1, 1, 1, 1]).shared.observed 1).Justifies
        peer := by
  have hbenign : ∀ i, (joinActivities i).Benign := by
    rintro (_ | i)
    · trivial
    · intro change hchange table
      rw [mem_singleton.mp hchange]
      exact .update (by simp)
  have hinit : BootstrapRun.Initial bootstrapPlatform joinActivities joinRun := by
    refine ⟨fun _ => rfl, ⟨?_, ?_⟩, rfl, fun _ => rfl⟩
    · exact nodup_singleton _
    · exact nodup_singleton _
  have hsync : ((joinRun.schedule [0, 0, 0, 1, 1, 1, 1, 1]).shared.observed
      1).synchronizing = some peer := by
    decide +kernel
  have hrun : Relation.ReflTransGen BootstrapRun.Step joinRun
      (joinRun.schedule [0, 0, 0, 1, 1, 1, 1, 1]) :=
    Config.schedule_reachable _ (by decide +kernel)
  exact ⟨by decide +kernel, hsync,
    ((synchronizes_only_approved hbenign hinit hrun .refl).1 1 _ hsync).2⟩

namespace Reference

/-- Activity `2` revokes the device of the peer; over connection `1` an approved row for it comes
in, and then the synchronization fails. -/
def rejoinActivities : ℕ → Activity
  | 0 => .setup setupReadings setupClaims joinRequest
  | 1 => .connection
    { joinConnection with
      received := [fun table => table.update 2 [.state .approved]]
      synchronized := false }
  | 2 => .device (.revokeSelf (fun _ => 0) "peer")
  | _ => .connection joinConnection

/-- The same, with a second connection that presents the grant again. -/
def rejoinRun : BootstrapRun ℕ :=
  { joinRun with threads := fun i => ((rejoinActivities i).task bootstrapPlatform i).prog }

/-- The first synchronization has begun, and the device is revoked. -/
def revokedRun : BootstrapRun ℕ := rejoinRun.schedule [0, 0, 0, 1, 1, 1, 1, 2]

end Reference

/-- The device is revoked before connection `3` starts; what connection `1` brings in approves it
again, and connection `3` synchronizes the database with it. -/
theorem revoked_device_synchronizes :
    BootstrapRun.Initial bootstrapPlatform rejoinActivities rejoinRun ∧
    Relation.ReflTransGen BootstrapRun.Step rejoinRun revokedRun ∧
    revokedRun.threads 3 = rejoinRun.threads 3 ∧
    revokedRun.shared.devices.KeyIn peer.text .revoked ∧
    ∃ later, Relation.ReflTransGen BootstrapRun.Step revokedRun later ∧
      (later.shared.observed 3).synchronizing = some peer := by
  refine ⟨⟨fun _ => rfl, ⟨nodup_singleton _, nodup_singleton _⟩, rfl, fun _ => rfl⟩,
    Config.schedule_reachable _ (by decide +kernel), Config.schedule_threads (by decide), ?_,
    revokedRun.schedule [1, 1, 3, 3, 3, 3, 3], Config.schedule_reachable _ (by decide +kernel),
    by decide +kernel⟩
  show ∃ row ∈ revokedRun.shared.devices.rows, row.publicKey = "peer" ∧ row.state = .revoked
  decide +kernel

end LocalPlatform.Bootstrap
