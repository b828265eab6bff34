import Mathlib.Data.List.Basic
import Mathlib.Tactic.Common

/-!
# Discovery by the browser client

`getOidcConfiguration` and `fetchOidcConfiguration` of `packages/oidc-client/src/OidcClient.ts`. All
operations of a client wait for one promise, which the first of them creates and which stays for
the lifetime of the client. A request that fails therefore fails every operation after it, and
nothing else does.
-/

namespace LocalPlatform.Oidc

open List

/-! ## The client -/

section Client
variable {Configuration : Type}

/-- What comes of one request for the configuration: it throws, or there is a response, with what
reading its body as JSON gives. -/
inductive DiscoveryAnswer (Configuration : Type) where
  | thrown (message : String)
  | response (status : ℕ) (statusText : String) (json : Except String Configuration)

/-- `Response.ok` -/
def isOk (status : ℕ) : Bool := decide (200 ≤ status ∧ status ≤ 299)

/-- `fetchOidcConfiguration`, once the request has come to its end. -/
def fetchOidcConfiguration : DiscoveryAnswer Configuration → Except String Configuration
  | .thrown message => .error message
  | .response status statusText json =>
    if !isOk status then
      .error ("Failed to fetch OIDC configuration: " ++ toString status ++ " " ++ statusText)
    else json

/-- A JavaScript promise, as far as it is awaited. -/
inductive Promise (α : Type) where
  | pending
  | settled (outcome : Except String α)

/-- The promise of a client, how many operations have asked for the configuration, which of them
wait for it, and what the others have got. -/
structure DiscoveryClient (Configuration : Type) where
  oidcConfigPromise : Option (Promise Configuration)
  asked : ℕ
  waiting : List ℕ
  results : List (ℕ × Except String Configuration)

/-- A client that has just been made. -/
def DiscoveryClient.new : DiscoveryClient Configuration where
  oidcConfigPromise := none
  asked := 0
  waiting := []
  results := []

/-- What happens to the client. -/
inductive DiscoveryEvent (Configuration : Type) where
  /-- an operation asks for the configuration, be it `getUserInfo`, `handleSigninCallback`,
  `refreshToken`, `signout`, `getRegistrationUrl` or `getAuthorizationUrl` -/
  | ask
  /-- the request that is under way comes to its end -/
  | answer (answer : DiscoveryAnswer Configuration)

namespace DiscoveryClient

/-- `getOidcConfiguration` up to the point where it waits: a request starts if there is no promise
yet. -/
def getOidcConfiguration (c : DiscoveryClient Configuration) : Promise Configuration :=
  c.oidcConfigPromise.getD .pending

/-- The client after one event; an answer settles every operation that waits. -/
def step (c : DiscoveryClient Configuration) :
    DiscoveryEvent Configuration → DiscoveryClient Configuration
  | .ask =>
    let promise := c.getOidcConfiguration
    match promise with
    | .pending =>
      { c with
        oidcConfigPromise := some promise
        asked := c.asked + 1
        waiting := c.waiting ++ [c.asked] }
    | .settled outcome =>
      { c with
        oidcConfigPromise := some promise
        asked := c.asked + 1
        results := c.results ++ [(c.asked, outcome)] }
  | .answer answer =>
    match c.oidcConfigPromise with
    | some .pending =>
      let outcome := fetchOidcConfiguration answer
      { c with
        oidcConfigPromise := some (.settled outcome)
        waiting := []
        results := c.results ++ c.waiting.map fun operation => (operation, outcome) }
    -- without a request under way there is nothing to answer
    | none | some (.settled _) => c

/-- The client after a list of events. -/
def run (c : DiscoveryClient Configuration) (events : List (DiscoveryEvent Configuration)) :
    DiscoveryClient Configuration :=
  events.foldl step c

end DiscoveryClient

end Client

/-! ## Recovery -/

section Recovery
variable {Configuration : Type}

/-- Discovery answers correctly. -/
def DiscoveryAnswer.Correct (answer : DiscoveryAnswer Configuration) : Prop :=
  ∃ configuration, fetchOidcConfiguration answer = .ok configuration

/-- From now on, as long as discovery answers correctly and every request is answered, every
operation that asks for the configuration gets it. -/
def DiscoveryClient.Recovers (c : DiscoveryClient Configuration) : Prop :=
  ∀ events : List (DiscoveryEvent Configuration),
    (∀ answer, .answer answer ∈ events → answer.Correct) →
    (c.run events).oidcConfigPromise ≠ some .pending →
    ∀ operation, c.asked ≤ operation → operation < (c.run events).asked →
      ∃ configuration, (operation, .ok configuration) ∈ (c.run events).results

/-- The answer an event carries. -/
def DiscoveryEvent.answer? : DiscoveryEvent Configuration → Option (DiscoveryAnswer Configuration)
  | .ask => none
  | .answer given => some given

/-- The answer to the first request of a client: the first one after an operation has asked. -/
def firstAnswer :
    List (DiscoveryEvent Configuration) → Option (DiscoveryAnswer Configuration)
  | [] => none
  | .ask :: events => events.findSome? DiscoveryEvent.answer?
  | .answer _ :: events => firstAnswer events

namespace DiscoveryClient
variable {c : DiscoveryClient Configuration} {events : List (DiscoveryEvent Configuration)}

/-! ### One step -/

/-- While the request is under way an operation waits for it. -/
lemma step_ask_pending (hpend : c.getOidcConfiguration = .pending) :
    c.step .ask = { c with
      oidcConfigPromise := some .pending
      asked := c.asked + 1
      waiting := c.waiting ++ [c.asked] } := by
  simp [step, hpend]

variable {outcome : Except String Configuration} {first : ℕ}

/-- Afterwards it has the outcome at once, failures included. -/
lemma step_ask_settled (hsett : c.oidcConfigPromise = some (.settled outcome)) :
    c.step .ask = { c with
      asked := c.asked + 1
      results := c.results ++ [(c.asked, outcome)] } := by
  have hpromise : c.getOidcConfiguration = .settled outcome := by
    simp [getOidcConfiguration, hsett]
  simp [step, hpromise, hsett]

/-- The answer settles all that wait. -/
lemma step_answer_pending (hpend : c.oidcConfigPromise = some .pending)
    (answer : DiscoveryAnswer Configuration) :
    c.step (.answer answer) = { c with
      oidcConfigPromise := some (.settled (fetchOidcConfiguration answer))
      waiting := []
      results := c.results ++ c.waiting.map fun operation =>
        (operation, fetchOidcConfiguration answer) } := by
  simp [step, hpend]

lemma step_answer_of_ne (hpend : c.oidcConfigPromise ≠ some .pending)
    (answer : DiscoveryAnswer Configuration) : c.step (.answer answer) = c := by
  rcases hpromise : c.oidcConfigPromise with _ | _ | _
  · simp [step, hpromise]
  · exact absurd hpromise hpend
  · simp [step, hpromise]

/-- An operation starts a request, joins the one that is under way, or finds the promise
settled. -/
lemma pending_or_settled (c : DiscoveryClient Configuration) :
    c.getOidcConfiguration = .pending ∨
      ∃ outcome, c.oidcConfigPromise = some (.settled outcome) := by
  rcases hpromise : c.oidcConfigPromise with _ | _ | outcome
  · exact .inl (by simp [getOidcConfiguration, hpromise])
  · exact .inl (by simp [getOidcConfiguration, hpromise])
  · exact .inr ⟨outcome, rfl⟩

/-! ### The promise -/

/-- A promise that is settled stays as it is. -/
lemma run_settled (hsett : c.oidcConfigPromise = some (.settled outcome)) :
    (c.run events).oidcConfigPromise = some (.settled outcome) := by
  induction events generalizing c with
  | nil => exact hsett
  | cons event events ih =>
    have hstep : (c.step event).oidcConfigPromise = some (.settled outcome) := by
      cases event with
      | ask => rw [step_ask_settled hsett, hsett]
      | answer answer => rw [step_answer_of_ne (by simp [hsett]), hsett]
    exact ih hstep

/-- The first answer settles a promise that is pending. -/
lemma run_pending (hpend : c.oidcConfigPromise = some .pending) :
    (c.run events).oidcConfigPromise =
      some ((events.findSome? DiscoveryEvent.answer?).elim .pending fun answer =>
        .settled (fetchOidcConfiguration answer)) := by
  induction events generalizing c with
  | nil => exact hpend
  | cons event events ih =>
    cases event with
    | ask =>
      have hstep : (c.step .ask).oidcConfigPromise = some .pending := by
        rw [step_ask_pending (by simp [getOidcConfiguration, hpend])]
      exact ih hstep
    | answer answer =>
      have hstep : (c.step (.answer answer)).oidcConfigPromise =
          some (.settled (fetchOidcConfiguration answer)) := by
        rw [step_answer_pending hpend]
      exact run_settled (c := c.step (.answer answer)) hstep

/-- The promise of a client is settled by the answer to its first request, and by nothing else. -/
lemma run_settled_iff (hnone : c.oidcConfigPromise = none) :
    (c.run events).oidcConfigPromise = some (.settled outcome) ↔
      ∃ answer, firstAnswer events = some answer ∧ fetchOidcConfiguration answer = outcome := by
  induction events generalizing c with
  | nil => simp [run, hnone, firstAnswer]
  | cons event events ih =>
    cases event with
    | ask =>
      have hstep : (c.step .ask).oidcConfigPromise = some .pending := by
        rw [step_ask_pending (by simp [getOidcConfiguration, hnone])]
      change ((c.step .ask).run events).oidcConfigPromise = _ ↔ _
      rw [run_pending hstep, firstAnswer]
      cases events.findSome? DiscoveryEvent.answer? with
      | none => simp
      | some answer => simp
    | answer answer =>
      have hstep : (c.step (.answer answer)).oidcConfigPromise = none := by
        rw [step_answer_of_ne (by simp [hnone]), hnone]
      exact ih hstep

/-! ### The operations -/

/-- The operations that wait or have got something are among those that have asked. -/
structure Counted (c : DiscoveryClient Configuration) : Prop where
  waiting : ∀ operation ∈ c.waiting, operation < c.asked
  results : ∀ entry ∈ c.results, entry.1 < c.asked

lemma Counted.step (h : c.Counted) (event : DiscoveryEvent Configuration) :
    (c.step event).Counted := by
  have hwait : ∀ operation ∈ c.waiting, operation < c.asked + 1 := fun operation hmem =>
    Nat.lt_succ_of_lt (h.waiting operation hmem)
  have hresults : ∀ entry ∈ c.results, entry.1 < c.asked + 1 := fun entry hmem =>
    Nat.lt_succ_of_lt (h.results entry hmem)
  cases event with
  | ask =>
    rcases c.pending_or_settled with hpend | ⟨_, hsett⟩
    · rw [step_ask_pending hpend]
      refine ⟨?_, hresults⟩
      intro operation hmem
      rcases mem_append.mp hmem with hold | hnew
      · exact hwait operation hold
      · rw [mem_singleton.mp hnew]
        exact Nat.lt_succ_self _
    · rw [step_ask_settled hsett]
      refine ⟨hwait, ?_⟩
      intro entry hmem
      rcases mem_append.mp hmem with hold | hnew
      · exact hresults entry hold
      · rw [mem_singleton.mp hnew]
        exact Nat.lt_succ_self _
  | answer answer =>
    by_cases hpend : c.oidcConfigPromise = some .pending
    · rw [step_answer_pending hpend]
      refine ⟨by simp, ?_⟩
      intro entry hmem
      rcases mem_append.mp hmem with hold | hnew
      · exact h.results entry hold
      · obtain ⟨operation, hold, rfl⟩ := mem_map.mp hnew
        exact h.waiting operation hold
    · rw [step_answer_of_ne hpend]
      exact h

/-- Every operation waits or has its outcome. -/
lemma Counted.run (h : c.Counted) : (c.run events).Counted := by
  induction events generalizing c with
  | nil => exact h
  | cons event events ih => exact ih (h.step event)

lemma new_counted : (new : DiscoveryClient Configuration).Counted where
  waiting := by simp [new]
  results := by simp [new]

/-- No request of the client has failed. -/
def Sound (c : DiscoveryClient Configuration) : Prop :=
  ∀ outcome, c.oidcConfigPromise = some (.settled outcome) → ∃ configuration,
    outcome = .ok configuration

/-- Every operation from the `first` one on waits for a request that is under way, or has got the
configuration. -/
structure Serves (first : ℕ) (c : DiscoveryClient Configuration) : Prop where
  sound : c.Sound
  served : ∀ operation, first ≤ operation → operation < c.asked →
    c.oidcConfigPromise = some .pending ∧ operation ∈ c.waiting ∨
      ∃ configuration, (operation, .ok configuration) ∈ c.results

lemma Serves.start (h : c.Sound) : Serves c.asked c where
  sound := h
  served := by
    intro operation hfirst hlt
    exact absurd hlt (Nat.not_lt.mpr hfirst)

lemma Serves.ask (h : Serves first c) : Serves first (c.step .ask) := by
  rcases c.pending_or_settled with hpend | ⟨outcome, hsett⟩
  · rw [step_ask_pending hpend]
    refine ⟨by simp [Sound], ?_⟩
    intro operation hfirst hlt
    rcases Nat.lt_succ_iff_lt_or_eq.mp hlt with hold | rfl
    · rcases h.served operation hfirst hold with ⟨-, hwait⟩ | hout
      · exact .inl ⟨rfl, mem_append_left _ hwait⟩
      · exact .inr hout
    · exact .inl ⟨rfl, by simp⟩
  · obtain ⟨configuration, rfl⟩ := h.sound outcome hsett
    rw [step_ask_settled hsett]
    refine ⟨h.sound, ?_⟩
    intro operation hfirst hlt
    right
    rcases Nat.lt_succ_iff_lt_or_eq.mp hlt with hold | rfl
    · rcases h.served operation hfirst hold with ⟨hpend, -⟩ | ⟨found, hout⟩
      · simp [hsett] at hpend
      · exact ⟨found, mem_append_left _ hout⟩
    · exact ⟨configuration, by simp⟩

/-- A correct answer serves all that wait. -/
lemma Serves.answer (h : Serves first c) {answer : DiscoveryAnswer Configuration}
    (hcorrect : answer.Correct) : Serves first (c.step (.answer answer)) := by
  obtain ⟨configuration, hconfig⟩ := hcorrect
  by_cases hpend : c.oidcConfigPromise = some .pending
  · rw [step_answer_pending hpend, hconfig]
    refine ⟨by simp [Sound], ?_⟩
    intro operation hfirst hlt
    right
    rcases h.served operation hfirst hlt with ⟨-, hwait⟩ | ⟨found, hout⟩
    · refine ⟨configuration, mem_append_right _ ?_⟩
      exact mem_map.mpr ⟨operation, hwait, rfl⟩
    · exact ⟨found, mem_append_left _ hout⟩
  · rw [step_answer_of_ne hpend]
    exact h

/-- Hence with correct answers every operation is served. -/
lemma Serves.run (h : Serves first c)
    (hcorrect : ∀ answer, .answer answer ∈ events → answer.Correct) :
    Serves first (c.run events) := by
  induction events generalizing c with
  | nil => exact h
  | cons event events ih =>
    have hrest : ∀ answer, .answer answer ∈ events → answer.Correct := fun answer hmem =>
      hcorrect answer (mem_cons_of_mem event hmem)
    have hstep : Serves first (c.step event) := by
      cases event with
      | ask => exact h.ask
      | answer answer => exact h.answer (hcorrect answer mem_cons_self)
    exact ih hstep hrest

/-- A client recovers as long as its promise has not been rejected. -/
lemma Sound.recovers (h : c.Sound) : c.Recovers := by
  intro events hcorrect hanswered operation hfirst hlt
  have hserves := (Serves.start h).run hcorrect
  rcases hserves.served operation hfirst hlt with ⟨hpend, -⟩ | hout
  · exact absurd hpend hanswered
  · exact hout

/-- Once its promise is rejected, the next operation of a client gets the old error. -/
lemma Recovers.sound (h : c.Recovers) (hcounted : c.Counted) : c.Sound := by
  intro outcome hsett
  have hnext : c.run [.ask] = { c with
      asked := c.asked + 1
      results := c.results ++ [(c.asked, outcome)] } :=
    step_ask_settled hsett
  have hout := h [.ask] (by simp) (by simp [hnext, hsett]) c.asked
    (Nat.le_refl _) (by simp [hnext])
  rw [hnext] at hout
  obtain ⟨configuration, hmem⟩ := hout
  rcases mem_append.mp hmem with hold | hnew
  · exact absurd (hcounted.results _ hold) (Nat.lt_irrefl _)
  · have heq : .ok configuration = outcome := by simpa using hnew
    exact ⟨configuration, heq.symm⟩

end DiscoveryClient

/-- After any history a client recovers exactly if its first request has not failed. -/
theorem discovery_recovers_iff (history : List (DiscoveryEvent Configuration)) :
    (DiscoveryClient.new.run history).Recovers ↔
      ∀ answer ∈ firstAnswer history, answer.Correct := by
  have hnone : (.new : DiscoveryClient Configuration).oidcConfigPromise = none := rfl
  have hcounted : (DiscoveryClient.new.run history).Counted := DiscoveryClient.new_counted.run
  constructor
  · intro hrecovers answer hfirst
    have hsett := (DiscoveryClient.run_settled_iff hnone).mpr ⟨answer, hfirst, rfl⟩
    exact hrecovers.sound hcounted _ hsett
  · intro hcorrect
    apply DiscoveryClient.Sound.recovers
    intro outcome hsett
    obtain ⟨answer, hfirst, rfl⟩ := (DiscoveryClient.run_settled_iff hnone).mp hsett
    exact hcorrect answer hfirst

/-- One request that is turned away with status 503, then discovery that works: the next operation
gets the error of the first request, and no second request is made. -/
theorem failed_discovery_stays : let history : List (DiscoveryEvent String) :=
      [.ask, .answer (.response 503 "Service Unavailable" (.error ""))]
    let later : List (DiscoveryEvent String) :=
      [.ask, .answer (.response 200 "OK" (.ok "configuration"))]
    ((DiscoveryClient.new.run history).run later).results =
        [(0, .error "Failed to fetch OIDC configuration: 503 Service Unavailable"),
          (1, .error "Failed to fetch OIDC configuration: 503 Service Unavailable")] ∧
      ¬(DiscoveryClient.new.run history).Recovers := by
  intro history later
  have hresults : ((DiscoveryClient.new.run history).run later).results =
      [(0, .error "Failed to fetch OIDC configuration: 503 Service Unavailable"),
        (1, .error "Failed to fetch OIDC configuration: 503 Service Unavailable")] := by
    rfl
  refine ⟨hresults, ?_⟩
  intro hrecovers
  have hcorrect : ∀ answer, .answer answer ∈ later → answer.Correct := by
    intro answer hmem
    have hans : answer = .response 200 "OK" (.ok "configuration") := by
      simpa [later] using hmem
    rw [hans]
    exact ⟨"configuration", rfl⟩
  have hgot := hrecovers later hcorrect (by simp [history, later, DiscoveryClient.run,
    DiscoveryClient.step, DiscoveryClient.getOidcConfiguration, DiscoveryClient.new]) 1
    (Nat.le_refl _) (Nat.lt_succ_self _)
  rw [hresults] at hgot
  simp at hgot

end Recovery

end LocalPlatform.Oidc
