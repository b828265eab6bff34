import LocalPlatform.Bootstrap.Reference

/-!
# One holder for a grant

Sessions register, reserve and finish grants in any order while time passes. A reservation succeeds
exactly for a registered grant that is not expired, not used up and not held, and for the endpoint
it was registered for; at most one session holds a grant. Grant ids must not be used twice for
that: a registration forgets that the id is held.
-/

namespace LocalPlatform.Bootstrap

open Management (Id)
open Idp (Bytes)

/-! ## What the calls do to the map -/

namespace BootstrapRegistry

variable {registry : BootstrapRegistry} {clock : String → Instant} {grantId : String}
  {endpointId : EndpointId} {grant : BootstrapGrant}

/-- What survives is what has not expired. -/
lemma retain_eq_some :
    (registry.retain clock).grants grantId = some grant ↔
      registry.grants grantId = some grant ∧ clock grantId < grant.expiresAt := by
  simp [retain, Option.filter_eq_some_iff]

/-- What `retain` drops has expired. -/
lemma expired_of_retain (h : (registry.retain clock).grants grantId = none)
    (hgrant : registry.grants grantId = some grant) : grant.expiresAt ≤ clock grantId := by
  by_contra hlive
  have hkept : (registry.retain clock).grants grantId = some grant :=
    retain_eq_some.mpr ⟨hgrant, not_le.mp hlive⟩
  rw [h] at hkept
  cases hkept

@[simp] lemma insert_self : (registry.insert grantId grant).grants grantId = some grant :=
  Function.update_self ..

variable {other : String}

@[simp] lemma insert_ne (h : other ≠ grantId) :
    (registry.insert grantId grant).grants other = registry.grants other :=
  Function.update_of_ne h ..

@[simp] lemma remove_self : (registry.remove grantId).grants grantId = none :=
  Function.update_self ..

@[simp] lemma remove_ne (h : other ≠ grantId) :
    (registry.remove grantId).grants other = registry.grants other :=
  Function.update_of_ne h ..

/-- A grant that `reserve` can take. -/
structure Available (registry : BootstrapRegistry) (clock : String → Instant) (grantId : String)
    (endpointId : EndpointId) (grant : BootstrapGrant) : Prop where
  grants : registry.grants grantId = some grant
  live : clock grantId < grant.expiresAt
  endpointId : grant.endpointId = endpointId
  idle : grant.inUse = false

/-- An available grant is reserved and marked. -/
lemma reserve_of_available (h : registry.Available clock grantId endpointId grant) :
    registry.reserve clock grantId endpointId =
      (true, (registry.retain clock).insert grantId { grant with inUse := true }) := by
  have hkept := retain_eq_some.mpr ⟨h.grants, h.live⟩
  simp [reserve, hkept, h.endpointId, h.idle]

/-- A reservation takes an available grant, or only drops what has expired. -/
lemma reserve_cases (registry : BootstrapRegistry) (clock : String → Instant) (grantId : String)
    (endpointId : EndpointId) :
    (∃ grant, registry.Available clock grantId endpointId grant) ∨
      registry.reserve clock grantId endpointId = (false, registry.retain clock) := by
  cases hkept : (registry.retain clock).grants grantId with
  | none =>
    right
    simp [reserve, hkept]
  | some grant =>
    obtain ⟨hgrant, hlive⟩ := retain_eq_some.mp hkept
    by_cases hfit : grant.endpointId = endpointId ∧ grant.inUse = false
    · exact .inl ⟨grant, hgrant, hlive, hfit.1, hfit.2⟩
    · right
      have hunfit : grant.endpointId ≠ endpointId ∨ grant.inUse = true := by
        rw [not_and_or, Bool.not_eq_false] at hfit
        exact hfit
      simp [reserve, hkept, hunfit]

/-- A reservation succeeds exactly on an available grant. -/
lemma reserve_iff :
    (registry.reserve clock grantId endpointId).1 = true ↔
      ∃ grant, registry.Available clock grantId endpointId grant := by
  constructor
  · intro h
    rcases registry.reserve_cases clock grantId endpointId with hav | hdenied
    · exact hav
    · rw [hdenied] at h
      cases h
  · rintro ⟨_, h⟩
    rw [reserve_of_available h]

/-- A session ends its own grant only. -/
lemma finish_ne (h : other ≠ grantId) (success : Bool) :
    (registry.finish grantId endpointId success).grants other = registry.grants other := by
  unfold finish
  split
  · rfl
  · split
    · rfl
    · split
      · exact remove_ne h
      · exact insert_ne h

/-- The endpoint that reserved the grant gives it back or uses it up. -/
lemma finish_self (h : ∀ grant, registry.grants grantId = some grant →
    grant.endpointId = endpointId) (success : Bool) :
    (registry.finish grantId endpointId success).grants grantId =
      if success then none
      else (registry.grants grantId).map fun grant => { grant with inUse := false } := by
  cases hgrant : registry.grants grantId with
  | none => simp [finish, hgrant]
  | some grant => cases success <;> simp [finish, hgrant, h grant hgrant]

end BootstrapRegistry

/-! ## Sessions -/

/-- A registry, the time, and the grants that sessions hold with the endpoint they reserved them
for. The last two fields record what has happened; no call reads them. -/
structure GrantRun (ι : Type) where
  registry : BootstrapRegistry
  now : Instant
  holding : ι → Option (String × EndpointId)
  registered : String → Option (EndpointId × Instant)
  succeeded : String → Bool

namespace GrantRun

open BootstrapRegistry (expired_of_retain finish_ne finish_self insert_ne insert_self reserve_iff reserve_of_available retain_eq_some)
open Function (update update_self update_of_ne)

variable {ι : Type}

/-- Nothing has been registered yet. -/
def start (ι : Type) (now : Instant) : GrantRun ι where
  registry := .empty
  now := now
  holding _ := none
  registered _ := none
  succeeded _ := false

/-- The session holds a reservation of the grant. -/
def Holds (w : GrantRun ι) (session : ι) (grantId : String) : Prop :=
  ∃ endpointId, w.holding session = some (grantId, endpointId)

/-- The readings that a call takes between now and its end. -/
def During (w : GrantRun ι) (clock : String → Instant) (later : Instant) : Prop :=
  ∀ grantId, w.now ≤ clock grantId ∧ clock grantId ≤ later

/-- The effect of a registration. -/
def register (w : GrantRun ι) (clock : String → Instant) (later : Instant) (grantId : String)
    (grant : BootstrapGrant) : GrantRun ι :=
  { w with
    registry := w.registry.register clock grantId grant
    now := later
    registered := update w.registered grantId (some (grant.endpointId, grant.expiresAt)) }

section
variable [DecidableEq ι]

/-- A session reserves, and holds the grant if the registry agrees. -/
def reserve (w : GrantRun ι) (clock : String → Instant) (later : Instant) (session : ι)
    (grantId : String) (endpointId : EndpointId) : GrantRun ι :=
  let result := w.registry.reserve clock grantId endpointId
  { w with
    registry := result.2
    now := later
    holding :=
      if result.1 then update w.holding session (some (grantId, endpointId))
      else w.holding }

/-- A session ends and lets go of what it holds. -/
def finish (w : GrantRun ι) (later : Instant) (session : ι) (grantId : String)
    (endpointId : EndpointId) (success : Bool) : GrantRun ι :=
  { w with
    registry := w.registry.finish grantId endpointId success
    now := later
    holding := update w.holding session none
    succeeded := if success then update w.succeeded grantId true else w.succeeded }

/-- One call, or time that passes. A session that holds a grant is the one to finish it, and
`admits` says which grant ids may be registered. -/
inductive Step (admits : GrantRun ι → String → Prop) (w : GrantRun ι) : GrantRun ι → Prop where
  | register (clock : String → Instant) (later created : Instant) (grantId : String)
      (endpointId : EndpointId) (deviceId : Id) (enrollmentCodeHash : Bytes)
      (hclock : w.During clock later) (hcreated : created ≤ later) (hadmits : admits w grantId) :
      Step admits w (w.register clock later grantId
        (BootstrapRegistry.newGrant created endpointId deviceId enrollmentCodeHash))
  | reserve (clock : String → Instant) (later : Instant) (session : ι) (grantId : String)
      (endpointId : EndpointId) (hclock : w.During clock later)
      (hidle : w.holding session = none) :
      Step admits w (w.reserve clock later session grantId endpointId)
  | finish (later : Instant) (session : ι) (grantId : String) (endpointId : EndpointId)
      (success : Bool) (hlater : w.now ≤ later)
      (hholds : w.holding session = some (grantId, endpointId)) :
      Step admits w (w.finish later session grantId endpointId success)
  | pass (later : Instant) (hlater : w.now ≤ later) : Step admits w { w with now := later }

end

/-- The grant id was not registered before. -/
def NewId (w : GrantRun ι) (grantId : String) : Prop := w.registered grantId = none

/-! ## The invariant -/

/-- What the map, the sessions and the records have to do with each other. -/
structure Sound (w : GrantRun ι) : Prop where
  /-- A grant in the map is as it was registered, not used up, and marked exactly when held. -/
  present : ∀ grantId grant, w.registry.grants grantId = some grant →
    w.registered grantId = some (grant.endpointId, grant.expiresAt) ∧
      w.succeeded grantId = false ∧
      (grant.inUse = true ↔ ∃ session, w.Holds session grantId)
  /-- A registered grant has left the map because it was used up or has expired. -/
  absent : ∀ grantId endpointId expiresAt, w.registered grantId = some (endpointId, expiresAt) →
    w.registry.grants grantId = none → w.succeeded grantId = true ∨ expiresAt ≤ w.now
  held : ∀ session grantId endpointId, w.holding session = some (grantId, endpointId) →
    w.succeeded grantId = false ∧ ∃ expiresAt, w.registered grantId = some (endpointId, expiresAt)
  used : ∀ grantId, w.NewId grantId → w.succeeded grantId = false
  unique : ∀ session session' grantId, w.Holds session grantId → w.Holds session' grantId →
    session = session'

section
variable {w w' w'' : GrantRun ι} {clock : String → Instant} {later : Instant} {session : ι}
  {grantId : String} {endpointId : EndpointId} {grant : BootstrapGrant}

/-- An empty registry is sound. -/
lemma Sound.start (now : Instant) : (start ι now).Sound where
  present _ _ h := nomatch h
  absent _ _ _ h := nomatch h
  held _ _ _ h := nomatch h
  used _ _ := rfl
  unique _ _ _ h := nomatch h

/-- Time may pass. -/
lemma Sound.pass (h : w.Sound) (hlater : w.now ≤ later) : { w with now := later }.Sound where
  present := h.present
  absent grantId endpointId expiresAt hreg hnone :=
    (h.absent grantId endpointId expiresAt hreg hnone).imp_right fun hexp =>
      hexp.trans hlater
  held := h.held
  used := h.used
  unique := h.unique

/-- Expired grants are dropped at the start of a call. -/
lemma Sound.retain (h : w.Sound) (hclock : w.During clock later) :
    { w with registry := w.registry.retain clock, now := later }.Sound where
  present grantId grant hkept := by
    have hgrant := (retain_eq_some.mp hkept).1
    exact h.present grantId grant hgrant
  absent grantId endpointId expiresAt hreg hnone := by
    have hpassed : w.now ≤ later := (hclock grantId).1.trans (hclock grantId).2
    cases hgrant : w.registry.grants grantId with
    | none => exact (h.pass hpassed).absent grantId endpointId expiresAt hreg hgrant
    | some grant =>
      right
      have hsame := (h.present grantId grant hgrant).1
      have hexp : grant.expiresAt = expiresAt := by
        rw [hreg] at hsame
        exact (Prod.ext_iff.mp (Option.some.inj hsame)).2.symm
      have hdropped := expired_of_retain hnone hgrant
      rw [hexp] at hdropped
      exact hdropped.trans (hclock grantId).2
  held := h.held
  used := h.used
  unique := h.unique

lemma NewId.ne (hnew : w.NewId grantId) {other : String} {entry : EndpointId × Instant}
    (h : w.registered other = some entry) : other ≠ grantId := by
  rintro rfl
  rw [hnew] at h
  cases h

/-- A held grant was registered. -/
lemma Sound.not_holds (h : w.Sound) (hnew : w.NewId grantId) (session : ι) :
    ¬w.Holds session grantId := by
  rintro ⟨endpointId, hholds⟩
  obtain ⟨-, _, hreg⟩ := h.held session grantId endpointId hholds
  exact hnew.ne hreg rfl

/-- A grant under a new text keeps the registry sound. -/
lemma Sound.register (h : w.Sound) (hclock : w.During clock later) (hnew : w.NewId grantId)
    (hidle : grant.inUse = false) : (w.register clock later grantId grant).Sound := by
  -- registering drops what has expired and inserts the new grant
  have hretained := h.retain hclock
  have hself : (w.register clock later grantId grant).registry.grants grantId = some grant :=
    insert_self
  have hother : ∀ other, other ≠ grantId →
      (w.register clock later grantId grant).registry.grants other =
          (w.registry.retain clock).grants other ∧
        (w.register clock later grantId grant).registered other = w.registered other :=
    fun other hne => ⟨insert_ne hne, update_of_ne hne ..⟩
  constructor
  case present =>
    intro other found hfound
    by_cases hne : other = grantId
    · subst hne
      obtain rfl := Option.some.inj (hself.symm.trans hfound)
      have hunheld : ¬∃ session, w.Holds session other :=
        fun ⟨session, hholds⟩ => h.not_holds hnew session hholds
      refine ⟨update_self .., h.used other hnew, ?_⟩
      rw [hidle]
      exact ⟨(nomatch ·), fun hheld => absurd hheld hunheld⟩
    · obtain ⟨hgrs, hreg⟩ := hother other hne
      rw [hreg]
      exact hretained.present other found (hgrs.symm.trans hfound)
  case absent =>
    intro other endpointId expiresAt hreg hnone
    have hne : other ≠ grantId := by
      rintro rfl
      rw [hself] at hnone
      cases hnone
    obtain ⟨hgrs, hsame⟩ := hother other hne
    exact hretained.absent other endpointId expiresAt (hsame.symm.trans hreg)
      (hgrs.symm.trans hnone)
  case held =>
    intro session other endpointId hholds
    have hne : other ≠ grantId := by
      rintro rfl
      exact h.not_holds hnew session ⟨endpointId, hholds⟩
    rw [(hother other hne).2]
    exact h.held session other endpointId hholds
  case used =>
    intro other hunreg
    have hne : other ≠ grantId := (hunreg.ne (update_self ..)).symm
    exact h.used other ((hother other hne).2.symm.trans hunreg)
  case unique => exact h.unique

section
variable [DecidableEq ι]

section
variable (h : w.Sound)
include h

/-- The session takes an available grant, which nobody holds. -/
lemma Sound.hold (hidle : w.holding session = none)
    (hgrant : w.registry.grants grantId = some grant) (hend : grant.endpointId = endpointId)
    (hfree : grant.inUse = false) :
    { w with
      registry := w.registry.insert grantId { grant with inUse := true }
      holding := update w.holding session (some (grantId, endpointId)) }.Sound := by
  obtain ⟨hreg, hfresh, hmark⟩ := h.present grantId grant hgrant
  have hunheld : ∀ session', ¬w.Holds session' grantId := by
    intro session' hholds
    have hmarked := hmark.mpr ⟨session', hholds⟩
    rw [hfree] at hmarked
    cases hmarked
  -- other grants have the holders they had
  have hholds_iff : ∀ session' other, other ≠ grantId →
      ((∃ e, update w.holding session (some (grantId, endpointId)) session' =
        some (other, e)) ↔ w.Holds session' other) := by
    intro session' other hne
    by_cases hsess : session' = session
    · subst hsess
      simp [Holds, hidle, Ne.symm hne]
    · simp [Holds, update_of_ne hsess]
  constructor
  case present =>
    intro other found hfound
    by_cases hne : other = grantId
    · subst hne
      obtain rfl := Option.some.inj (insert_self.symm.trans hfound)
      exact ⟨hreg, hfresh, ⟨fun _ => ⟨session, endpointId, update_self ..⟩,
        fun _ => rfl⟩⟩
    · have hfound' := (insert_ne hne).symm.trans hfound
      obtain ⟨hreg', hfresh', hmark'⟩ := h.present other found hfound'
      exact ⟨hreg', hfresh', hmark'.trans
        (exists_congr fun session' => (hholds_iff session' other hne).symm)⟩
  case absent =>
    intro other endpointId' expiresAt hreg' hnone
    have hne : other ≠ grantId := by
      rintro rfl
      rw [insert_self] at hnone
      cases hnone
    exact h.absent other endpointId' expiresAt hreg'
      ((insert_ne hne).symm.trans hnone)
  case held =>
    intro session' other endpointId' hholds
    by_cases hsess : session' = session
    · subst hsess
      obtain ⟨rfl, rfl⟩ : grantId = other ∧ endpointId = endpointId' := by
        simpa using hholds
      exact ⟨hfresh, grant.expiresAt, by rw [← hend]; exact hreg⟩
    · exact h.held session' other endpointId'
        ((update_of_ne hsess ..).symm.trans hholds)
  case used => exact h.used
  case unique =>
    intro a b other ha hb
    by_cases hne : other = grantId
    · subst hne
      have honly : ∀ c, (∃ e, update w.holding session (some (other, endpointId)) c =
          some (other, e)) → c = session := by
        rintro c ⟨e, hc⟩
        by_contra hsess
        rw [update_of_ne hsess] at hc
        exact hunheld c ⟨e, hc⟩
      exact (honly a ha).trans (honly b hb).symm
    · exact h.unique a b other ((hholds_iff a other hne).mp ha) ((hholds_iff b other hne).mp hb)

/-- So does a reservation by a session that holds nothing. -/
lemma Sound.reserve (hclock : w.During clock later) (hidle : w.holding session = none) :
    (w.reserve clock later session grantId endpointId).Sound := by
  have hretained := h.retain hclock
  unfold GrantRun.reserve
  rcases w.registry.reserve_cases clock grantId endpointId with ⟨_, hav⟩ | hdenied
  · rw [reserve_of_available hav]
    have hkept := retain_eq_some.mpr ⟨hav.grants, hav.live⟩
    exact hretained.hold hidle hkept hav.endpointId hav.idle
  · rw [hdenied]
    exact hretained

/-- So does the end of a session. -/
lemma Sound.finish (hlater : w.now ≤ later)
    (hholds : w.holding session = some (grantId, endpointId)) (success : Bool) :
    (w.finish later session grantId endpointId success).Sound := by
  obtain ⟨hfree, _, hreg⟩ := h.held session grantId endpointId hholds
  have hself : (w.finish later session grantId endpointId success).registry.grants grantId =
      if success then none
      else (w.registry.grants grantId).map fun grant => { grant with inUse := false } := by
    refine finish_self (fun grant hgrant => ?_) success
    have hsame := (h.present grantId grant hgrant).1
    rw [hreg] at hsame
    exact (Prod.ext_iff.mp (Option.some.inj hsame)).1.symm
  have hgrs : ∀ other, other ≠ grantId →
      (w.finish later session grantId endpointId success).registry.grants other =
        w.registry.grants other := fun other hne => finish_ne hne success
  have hsucc : ∀ other, other ≠ grantId →
      (w.finish later session grantId endpointId success).succeeded other = w.succeeded other := by
    intro other hne
    cases success with
    | false => rfl
    | true => exact update_of_ne hne ..
  -- the session was the only holder of its grant, and held no other
  have hholders : ∀ session' other e,
      (w.finish later session grantId endpointId success).holding session' = some (other, e) ↔
        other ≠ grantId ∧ w.holding session' = some (other, e) := by
    intro session' other e
    by_cases hsess : session' = session
    · subst hsess
      have hnone : (w.finish later session' grantId endpointId success).holding session' = none :=
        update_self ..
      rw [hnone, hholds]
      simp only [reduceCtorEq, Option.some.injEq, Prod.mk.injEq, false_iff, not_and]
      exact fun hne heq => absurd heq.symm hne
    · have hsame : (w.finish later session grantId endpointId success).holding session' =
          w.holding session' := update_of_ne hsess ..
      rw [hsame]
      refine ⟨fun hother => ⟨?_, hother⟩, fun hother => hother.2⟩
      rintro rfl
      exact hsess (h.unique session' session other ⟨e, hother⟩ ⟨endpointId, hholds⟩)
  have hholds_iff : ∀ session' other,
      (w.finish later session grantId endpointId success).Holds session' other ↔
        other ≠ grantId ∧ w.Holds session' other := by
    intro session' other
    simp only [Holds, hholders, exists_and_left]
  constructor
  case present =>
    intro other found hfound
    by_cases hne : other = grantId
    · subst hne
      rw [hself] at hfound
      cases success with
      | true => cases hfound
      | false =>
        obtain ⟨grant, hgrant, rfl⟩ := Option.map_eq_some_iff.mp hfound
        refine ⟨(h.present other grant hgrant).1, hfree, (nomatch ·), ?_⟩
        rintro ⟨session', hholds'⟩
        exact absurd rfl ((hholds_iff session' other).mp hholds').1
    · rw [hgrs other hne] at hfound
      obtain ⟨hreg', hfree', hmark⟩ := h.present other found hfound
      refine ⟨hreg', (hsucc other hne).trans hfree', hmark.trans ?_⟩
      exact exists_congr fun session' => by rw [hholds_iff, and_iff_right hne]
  case absent =>
    intro other endpointId' expiresAt' hreg' hnone
    by_cases hne : other = grantId
    · subst hne
      cases success with
      | true => exact .inl (update_self ..)
      | false =>
        rw [hself] at hnone
        have hgone : w.registry.grants other = none := Option.map_eq_none_iff.mp hnone
        exact (h.pass hlater).absent other endpointId' expiresAt' hreg' hgone
    · rw [hsucc other hne]
      rw [hgrs other hne] at hnone
      exact (h.pass hlater).absent other endpointId' expiresAt' hreg' hnone
  case held =>
    intro session' other endpointId' hother
    obtain ⟨hne, hother⟩ := (hholders session' other endpointId').mp hother
    rw [hsucc other hne]
    exact h.held session' other endpointId' hother
  case used =>
    intro other hnew
    have hnew' : w.NewId other := hnew
    rw [hsucc other (hnew'.ne hreg).symm]
    exact h.used other hnew
  case unique =>
    intro a b other ha hb
    exact h.unique a b other ((hholds_iff a other).mp ha).2 ((hholds_iff b other).mp hb).2

/-- Every step keeps the registry sound. -/
lemma Sound.step (hstep : Step NewId w w') : w'.Sound := by
  cases hstep with
  | register clock later created grantId endpointId deviceId hash hclock hcre hnew =>
    exact h.register hclock hnew rfl
  | reserve clock later session grantId endpointId hclock hidle => exact h.reserve hclock hidle
  | finish later session grantId endpointId success hlater hholds =>
    exact h.finish hlater hholds success
  | pass later hlater => exact h.pass hlater

/-- Hence every run does. -/
lemma Sound.run (hrun : Relation.ReflTransGen (Step NewId) w w') : w'.Sound := by
  induction hrun with
  | refl => exact h
  | tail _ hstep ih => exact ih.step hstep

end

/-! ## What stays -/

/-- What was registered and what was used up stays so, and time does not run back. -/
structure Extends (w w' : GrantRun ι) : Prop where
  now : w.now ≤ w'.now
  registered : ∀ grantId entry, w.registered grantId = some entry →
    w'.registered grantId = some entry
  succeeded : ∀ grantId, w.succeeded grantId = true → w'.succeeded grantId = true

omit [DecidableEq ι] in
lemma Extends.refl (w : GrantRun ι) : w.Extends w := ⟨le_rfl, fun _ _ h => h, fun _ h => h⟩

omit [DecidableEq ι] in
lemma Extends.trans (h : w.Extends w') (h' : w'.Extends w'') : w.Extends w'' where
  now := h.now.trans h'.now
  registered grantId entry hentry := h'.registered grantId entry (h.registered grantId entry hentry)
  succeeded grantId hsucc := h'.succeeded grantId (h.succeeded grantId hsucc)

/-- A step forgets neither a registration nor a success. -/
lemma Step.extends (hstep : Step NewId w w') : w.Extends w' := by
  cases hstep with
  | register clock later created grantId endpointId deviceId hash hclock hcre hnew =>
    refine ⟨(hclock "").1.trans (hclock "").2, fun other entry hentry => ?_, fun _ h => h⟩
    exact (update_of_ne (hnew.ne hentry) ..).trans hentry
  | reserve clock later session grantId endpointId hclock hidle =>
    exact ⟨(hclock "").1.trans (hclock "").2, fun _ _ h => h, fun _ h => h⟩
  | finish later session grantId endpointId success hlater hholds =>
    refine ⟨hlater, fun _ _ h => h, fun other hother => ?_⟩
    cases success with
    | false => exact hother
    | true =>
      by_cases hne : other = grantId
      · subst hne
        exact update_self ..
      · exact (update_of_ne hne ..).trans hother
  | pass later hlater => exact ⟨hlater, fun _ _ h => h, fun _ h => h⟩

/-- Hence no run does. -/
lemma extends_of_run (hrun : Relation.ReflTransGen (Step NewId) w w') : w.Extends w' := by
  induction hrun with
  | refl => exact .refl w
  | tail _ hstep ih => exact ih.trans hstep.extends

/-! ## Reservations -/

/-- A reservation with these readings would succeed. -/
def Reserves (w : GrantRun ι) (clock : String → Instant) (grantId : String)
    (endpointId : EndpointId) : Prop :=
  (w.registry.reserve clock grantId endpointId).1 = true

omit [DecidableEq ι] in
/-- Exactly a registered grant that is live, not used up and not held can be reserved, by its
endpoint. -/
lemma Sound.reserves_iff (h : w.Sound) (hclock : ∀ grantId, w.now ≤ clock grantId) :
    w.Reserves clock grantId endpointId ↔
      (∃ expiresAt, w.registered grantId = some (endpointId, expiresAt) ∧
        clock grantId < expiresAt) ∧
      w.succeeded grantId = false ∧ ∀ session, ¬w.Holds session grantId := by
  rw [Reserves, reserve_iff]
  constructor
  · rintro ⟨grant, hav⟩
    obtain ⟨hreg, hfree, hmark⟩ := h.present grantId grant hav.grants
    rw [hav.endpointId] at hreg
    refine ⟨⟨grant.expiresAt, hreg, hav.live⟩, hfree, fun session hholds => ?_⟩
    have hmarked := hmark.mpr ⟨session, hholds⟩
    rw [hav.idle] at hmarked
    cases hmarked
  · rintro ⟨⟨expiresAt, hreg, hlive⟩, hfree, hunheld⟩
    cases hgrant : w.registry.grants grantId with
    | none =>
      rcases h.absent grantId endpointId expiresAt hreg hgrant with hused | hexp
      · rw [hfree] at hused
        cases hused
      · exact absurd hexp (not_le.mpr ((hclock grantId).trans_lt hlive))
    | some grant =>
      obtain ⟨hsame, -, hmark⟩ := h.present grantId grant hgrant
      rw [hreg] at hsame
      obtain ⟨hend, hexpires⟩ : endpointId = grant.endpointId ∧ expiresAt = grant.expiresAt :=
        Prod.ext_iff.mp (Option.some.inj hsame)
      have hidle : grant.inUse = false := by
        rw [← Bool.not_eq_true, hmark]
        exact fun ⟨session, hholds⟩ => hunheld session hholds
      rw [hexpires] at hlive
      exact ⟨grant, hgrant, hlive, hend.symm, hidle⟩

/-- In every run that never registers a grant id twice, at every point `w` and every later point
`w'`: a grant has at most one holder; only its endpoint can reserve it; a grant that was used up
or has expired cannot be reserved; and one that its holder gives back can, until it expires. -/
theorem grants_held_once {now : Instant}
    (hrun : Relation.ReflTransGen (Step NewId) (GrantRun.start ι now) w)
    (hlater : Relation.ReflTransGen (Step NewId) w w') :
    (∀ session session' grantId, w.Holds session grantId → w.Holds session' grantId →
      session = session') ∧
    (∀ grantId endpointId expiresAt, w.registered grantId = some (endpointId, expiresAt) →
      ∀ clock, (∀ id, w'.now ≤ clock id) → ∀ endpointId',
        w'.Reserves clock grantId endpointId' → endpointId' = endpointId) ∧
    (∀ grantId endpointId expiresAt, w.registered grantId = some (endpointId, expiresAt) →
      w.succeeded grantId = true ∨ expiresAt ≤ w.now →
      ∀ clock, (∀ id, w'.now ≤ clock id) → ∀ endpointId',
        ¬w'.Reserves clock grantId endpointId') ∧
    ∀ session grantId endpointId, w.holding session = some (grantId, endpointId) →
      ∃ expiresAt, w.registered grantId = some (endpointId, expiresAt) ∧
        ∀ later, w.now ≤ later → ∀ clock, (∀ id, later ≤ clock id) → clock grantId < expiresAt →
          (w.finish later session grantId endpointId false).Reserves clock grantId endpointId := by
  have hsound := (Sound.start now).run hrun
  have hsound' := hsound.run hlater
  have hextends := extends_of_run hlater
  refine ⟨hsound.unique, ?_, ?_, ?_⟩
  · intro grantId endpointId expiresAt hreg clock hclock endpointId' hreserves
    obtain ⟨⟨expiresAt', hreg', -⟩, -⟩ := (hsound'.reserves_iff hclock).mp hreserves
    rw [hextends.registered grantId _ hreg] at hreg'
    exact (Prod.ext_iff.mp (Option.some.inj hreg')).1.symm
  · intro grantId endpointId expiresAt hreg hover clock hclock endpointId' hreserves
    obtain ⟨⟨expiresAt', hreg', hlive⟩, hfree, -⟩ :=
      (hsound'.reserves_iff hclock).mp hreserves
    rcases hover with hused | hexp
    · rw [hextends.succeeded grantId hused] at hfree
      cases hfree
    · rw [hextends.registered grantId _ hreg] at hreg'
      have hsame : expiresAt = expiresAt' := (Prod.ext_iff.mp (Option.some.inj hreg')).2
      have hpassed : expiresAt ≤ clock grantId :=
        hexp.trans (hextends.now.trans (hclock grantId))
      rw [← hsame] at hlive
      exact absurd hpassed (not_le.mpr hlive)
  · intro session grantId endpointId hholds
    obtain ⟨hfree, expiresAt, hreg⟩ := hsound.held session grantId endpointId hholds
    refine ⟨expiresAt, hreg, fun later hpassed clock hclock hlive => ?_⟩
    refine ((hsound.finish hpassed hholds false).reserves_iff hclock).mpr
      ⟨⟨expiresAt, hreg, hlive⟩, hfree, fun session' hholds' => ?_⟩
    -- nobody else held it, and the session has given it back
    obtain ⟨endpointId', hstill⟩ := hholds'
    by_cases hsess : session' = session
    · subst hsess
      exact absurd ((update_self ..).symm.trans hstill) (by simp)
    · have hother : w.holding session' = some (grantId, endpointId') :=
        (update_of_ne hsess ..).symm.trans hstill
      exact hsess (hsound.unique session' session grantId ⟨endpointId', hother⟩
        ⟨endpointId, hholds⟩)

end

end

end GrantRun

/-! ## Runs of concrete sessions -/

namespace Reference

/-- A fresh grant for `peer`. -/
def joinGrant : BootstrapGrant := BootstrapRegistry.newGrant 0 peer 1 []

/-- A grant is registered and reserved by session `0`. -/
def heldGrant : GrantRun ℕ :=
  ((GrantRun.start ℕ 0).register stopped 0 "grant" joinGrant).reserve stopped 0 0 "grant" peer

/-- The fixture is reached by a registration and a reservation. -/
lemma heldGrant_reached (admits : GrantRun ℕ → String → Prop)
    (h : admits (GrantRun.start ℕ 0) "grant") :
    Relation.ReflTransGen (GrantRun.Step admits) (GrantRun.start ℕ 0) heldGrant := by
  have hclock : ∀ grantId, (0 : Instant) ≤ stopped grantId ∧ stopped grantId ≤ 0 :=
    fun _ => ⟨le_rfl, le_rfl⟩
  refine .tail (.single (.register stopped 0 0 "grant" peer 1 [] hclock le_rfl h)) ?_
  exact .reserve stopped 0 0 "grant" peer hclock rfl

/-- The id is registered again while it is held. -/
def reregistered : GrantRun ℕ := heldGrant.register stopped 0 "grant" joinGrant

/-- Session `1` reserves the new grant, and session `0` gives up. -/
def released : GrantRun ℕ :=
  (reregistered.reserve stopped 0 1 "grant" peer).finish 0 0 "grant" peer false

/-- And by the end of that session. -/
lemma released_reached :
    Relation.ReflTransGen (GrantRun.Step fun _ _ => True) (GrantRun.start ℕ 0) released := by
  have hclock : ∀ grantId, (0 : Instant) ≤ stopped grantId ∧ stopped grantId ≤ 0 :=
    fun _ => ⟨le_rfl, le_rfl⟩
  have hregister : GrantRun.Step (fun _ _ => True) heldGrant reregistered :=
    .register stopped 0 0 "grant" peer 1 [] hclock le_rfl trivial
  have hreserve : GrantRun.Step (fun _ _ => True) reregistered
      (reregistered.reserve stopped 0 1 "grant" peer) :=
    .reserve stopped 0 1 "grant" peer hclock rfl
  have hfinish : GrantRun.Step (fun _ _ => True) (reregistered.reserve stopped 0 1 "grant" peer)
      released :=
    .finish 0 0 "grant" peer false le_rfl rfl
  exact (((heldGrant_reached _ trivial).tail hregister).tail hreserve).tail hfinish

end Reference

open Reference

/-- The holder gives the grant back, and its endpoint can reserve it again. -/
theorem grants_held_once_reference :
    (heldGrant.finish 0 0 "grant" peer false).Reserves stopped
      "grant" peer := by
  have hreached := heldGrant_reached GrantRun.NewId rfl
  obtain ⟨-, -, -, hretry⟩ := GrantRun.grants_held_once hreached .refl
  obtain ⟨expiresAt, hreg, hreserves⟩ := hretry 0 "grant" peer rfl
  have hexp : expiresAt = grantTtl := by
    have hsame : some (peer, 0 + grantTtl) = some (peer, expiresAt) := hreg
    simpa using hsame.symm
  exact hreserves 0 le_rfl stopped (fun _ => le_rfl) (by rw [hexp]; decide)

/-- When an id is registered twice, session `2` reserves a grant that session `1` holds. -/
theorem reregistered_grant_shared :
    ∃ w, Relation.ReflTransGen (GrantRun.Step fun _ _ => True) (GrantRun.start ℕ 0) w ∧
      w.Holds 1 "grant" ∧ w.Holds 2 "grant" := by
  have hreserve : GrantRun.Step (fun _ _ => True) released
      (released.reserve stopped 0 2 "grant" peer) :=
    .reserve stopped 0 2 "grant" peer (fun _ => ⟨le_rfl, le_rfl⟩) rfl
  exact ⟨_, released_reached.tail hreserve, ⟨peer, rfl⟩, ⟨peer, rfl⟩⟩

end LocalPlatform.Bootstrap
