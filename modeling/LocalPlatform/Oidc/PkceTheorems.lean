import LocalPlatform.Lib.OneTime
import LocalPlatform.Oidc.SigninTheorems

/-!
# Verifiers of sign-ins

The browser client keeps the verifier of a sign-in in memory and in the storage of the browser. Seen
from outside it is a table of values that are used once: a sign-in issues its verifier under its
state, and the first callback with a code that presents the state takes it out, from both places. A
reload forgets the one place and not the other. As long as no state is issued twice, a token request
carries the verifier of its own state, and every state leads to at most one.
-/

namespace LocalPlatform.Oidc

open Idp OneTime Option

/-! ## Token requests -/

section Requests
variable (config : SigninConfig) (P : Platform)

/-- The state that a callback with a code presents; a callback with an error or with tokens of its
own does not get to it. -/
def CallbackUrl.presentedState (url : CallbackUrl) : Option String :=
  if (url.truthy "error").isSome || url.carriesTokens || (url.truthy "code").isNone then none
  else url.truthy "state"

/-- The token request that an event leads to. -/
def tokenRequest (b : Browser) : SigninEvent → Option Exchange
  | .callback now url =>
    match (handleSigninCallback config P now url b).1 with
    | .waiting exchange => some exchange
    | _ => none
  | .start _ _ _ | .reload | .answer _ _ _ => none

/-- The token requests of a run. -/
def tokenRequests (w : World) : List SigninEvent → List Exchange
  | [] => []
  | event :: events =>
    (tokenRequest config P w.browser event).toList ++ tokenRequests (step config P w event) events

/-- The state and the verifier that an event issues. -/
def SigninEvent.issuedVerifier : SigninEvent → Option (String × String)
  | .start requested generated codeVerifier =>
    if config.includesCode then some (authorizationState requested generated, codeVerifier)
    else none
  | .reload | .callback _ _ | .answer _ _ _ => none

/-- The verifiers that a run issues, with their states. -/
def issuedVerifiers (events : List SigninEvent) : List (String × String) :=
  events.filterMap (SigninEvent.issuedVerifier config)

/-- What an event does to the verifiers. -/
def verifierActs (b : Browser) : SigninEvent → List (Act String String)
  | .start requested generated codeVerifier =>
    if config.includesCode then [.issue (authorizationState requested generated) codeVerifier]
    else []
  | .callback now url =>
    url.presentedState.toList.map fun state =>
      .use state ((tokenRequest config P b (.callback now url)).map Exchange.codeVerifier)
  | .reload | .answer _ _ _ => []

/-- What a run does to the verifiers. -/
def verifierLog (w : World) : List SigninEvent → List (Act String String)
  | [] => []
  | event :: events =>
    verifierActs config P w.browser event ++ verifierLog (step config P w event) events

end Requests

/-! ## One callback -/

section Callbacks
variable (config : SigninConfig) (P : Platform) (b : Browser) (now : ℤ) {url : CallbackUrl}

/-- A callback that presents a state takes its verifier out, and sends what it has found. -/
lemma handleSigninCallback_presents {state : String} (hstate : url.presentedState = some state) :
    ∃ authorizationCode, handleSigninCallback config P now url b =
      (match (consumePkceVerifier config state b).1.filter (· != "") with
        | none => .invalidState
        | some codeVerifier => .waiting { authorizationCode, codeVerifier, state },
        (consumePkceVerifier config state b).2) := by
  rw [CallbackUrl.presentedState] at hstate
  by_cases hcode : ((url.truthy "error").isSome || url.carriesTokens ||
      (url.truthy "code").isNone) = true
  · simp [hcode] at hstate
  · rw [if_neg hcode] at hstate
    have hcases : ((url.truthy "error").isSome = false ∧ url.carriesTokens = false) ∧
        (url.truthy "code").isNone = false := by
      simpa only [Bool.or_eq_true, not_or, Bool.not_eq_true] using hcode
    obtain ⟨⟨herror, htoks⟩, hsome⟩ := hcases
    have hnone : url.truthy "error" = none := by simpa using herror
    obtain ⟨authorizationCode, hauthz⟩ : ∃ authorizationCode,
        url.truthy "code" = some authorizationCode :=
      isSome_iff_exists.mp (by simpa using hsome)
    refine ⟨authorizationCode, ?_⟩
    simp only [handleSigninCallback, hnone, htoks, hauthz, hstate]
    cases (consumePkceVerifier config state b).1.filter (· != "") <;> rfl

/-- Any other callback leaves the verifiers alone and sends no token request. -/
lemma handleSigninCallback_presents_none (hstate : url.presentedState = none) :
    (∀ exchange, (handleSigninCallback config P now url b).1 ≠ .waiting exchange) ∧
      ((handleSigninCallback config P now url b).2 = b ∨
        ∃ tokenResponse, (handleSigninCallback config P now url b).2 =
          rememberTokenResponse config P tokenResponse b) := by
  cases hurl : url.storesTokens with
  | true =>
    rw [handleSigninCallback_stores config P now hurl]
    exact ⟨by simp, .inr ⟨_, rfl⟩⟩
  | false =>
    rw [handleSigninCallback]
    cases herror : url.truthy "error" with
    | some message => exact ⟨by simp, .inl rfl⟩
    | none =>
      have htoks : url.carriesTokens = false := by
        simpa [CallbackUrl.storesTokens, herror] using hurl
      cases hcode : url.truthy "code" with
      | none => simp [htoks]
      | some authorizationCode =>
        have hmiss : url.truthy "state" = none := by
          simpa [CallbackUrl.presentedState, herror, htoks, hcode] using hstate
        simp [htoks, hmiss]

end Callbacks

/-! ## The table of verifiers -/

section Table
variable {config : SigninConfig} {P : Platform} {b : Browser} {table : String → Option String}

/-- Both places where the client keeps verifiers have only what the table has. -/
structure Browser.Within (config : SigninConfig) (b : Browser) (table : String → Option String) :
    Prop where
  memory : ∀ state, ∀ codeVerifier ∈ b.pkceVerifiersByState state, table state = some codeVerifier
  storage : ∀ storage ∈ b.storage, ∀ state, ∀ codeVerifier ∈ storage (config.getPkceStorageKey state),
    table state = some codeVerifier

namespace Browser.Within

lemma of_has (h : ∀ state verifier, b.Has config state verifier → table state = some verifier) :
    b.Within config table where
  memory state codeVerifier hmemory := h state codeVerifier (.inl hmemory)
  storage storage hstor state codeVerifier hver :=
    h state codeVerifier (.inr ⟨storage, hstor, hver⟩)

variable (hb : b.Within config table)
include hb

lemma has {state verifier : String}
    (h : b.Has config state verifier) : table state = some verifier := by
  rcases h with hmemory | ⟨storage, hstor, hver⟩
  · exact hb.memory state verifier hmemory
  · exact hb.storage storage hstor state verifier hver

lemma reload : b.reload.Within config table :=
  .of_has fun _ _ h => hb.has h.of_reload

lemma rememberTokenResponse (tokenResponse : OidcTokenResponse) :
    (rememberTokenResponse config P tokenResponse b).Within config table :=
  .of_has fun _ _ h => hb.has h.of_rememberTokenResponse

/-- A new verifier is added under its state. -/
lemma rememberPkceVerifier (state codeVerifier : String) :
    (rememberPkceVerifier config state codeVerifier b).Within config
      (next table (.issue state codeVerifier)) := by
  refine .of_has fun s verifier h => ?_
  rcases h.of_rememberPkceVerifier with ⟨hs, hver⟩ | ⟨hs, hold⟩
  · simp [next, hs, hver]
  · simpa [next, hs] using hb.has hold

/-- A consumed verifier is gone. -/
lemma consumePkceVerifier (state : String) (found : Option String) :
    (consumePkceVerifier config state b).2.Within config (next table (.use state found)) := by
  refine .of_has fun s verifier h => ?_
  obtain ⟨hs, hold⟩ := h.of_consumePkceVerifier
  simpa [next, hs] using hb.has hold

end Browser.Within

lemma Fresh.within {w : World} (hfresh : Fresh config w) : w.browser.Within config fun _ => none :=
  .of_has fun _ _ h => absurd h hfresh.not_has

end Table

/-! ## Runs -/

section Runs
variable {config : SigninConfig} {P : Platform} {w : World} {table : String → Option String}
  {events : List SigninEvent}

lemma step_callback_browser (now : ℤ) (url : CallbackUrl) :
    (step config P w (.callback now url)).browser =
      (handleSigninCallback config P now url w.browser).2 := by
  cases hout : handleSigninCallback config P now url w.browser with
  | mk result browser => cases result <;> simp [step, hout]

section
variable (hw : w.browser.Within config table)
include hw

/-- A callback finds only the verifier that the table has for its state. -/
lemma verifierActs_callback (now : ℤ) (url : CallbackUrl) :
    Honest table (verifierActs config P w.browser (.callback now url)) ∧
      (step config P w (.callback now url)).browser.Within config
        (tableAfter table (verifierActs config P w.browser (.callback now url))) := by
  rw [step_callback_browser]
  cases hstate : url.presentedState with
  | none =>
    have hacts : verifierActs config P w.browser (.callback now url) = [] := by
      simp [verifierActs, hstate]
    rw [hacts]
    refine ⟨trivial, ?_⟩
    rcases (handleSigninCallback_presents_none config P w.browser now hstate).2 with
      hsame | ⟨tokenResponse, hsto⟩
    · rw [hsame]
      exact hw
    · rw [hsto]
      exact hw.rememberTokenResponse tokenResponse
  | some state =>
    obtain ⟨_, hout⟩ := handleSigninCallback_presents config P w.browser now hstate
    have hacts : verifierActs config P w.browser (.callback now url) =
        [.use state ((consumePkceVerifier config state w.browser).1.filter (· != ""))] := by
      simp only [verifierActs, hstate, tokenRequest, hout]
      cases (consumePkceVerifier config state w.browser).1.filter (· != "") <;> rfl
    rw [hacts, hout]
    refine ⟨⟨?_, trivial⟩, hw.consumePkceVerifier state
      ((consumePkceVerifier config state w.browser).1.filter (· != ""))⟩
    intro codeVerifier hfound
    exact hw.has (Browser.has_of_consume (filter_eq_some_iff.mp hfound).1)

/-- Each event keeps the verifiers within the table, and is honest about it. -/
lemma verifierActs_honest (event : SigninEvent) :
    Honest table (verifierActs config P w.browser event) ∧
      (step config P w event).browser.Within config
        (tableAfter table (verifierActs config P w.browser event)) := by
  cases event with
  | start requested generated codeVerifier =>
    by_cases hcode : config.includesCode = true
    · simp only [verifierActs, hcode, if_true, step, getAuthorizationUrl]
      exact ⟨⟨trivial, trivial⟩, hw.rememberPkceVerifier _ _⟩
    · simp only [verifierActs, hcode, step, getAuthorizationUrl]
      exact ⟨trivial, hw⟩
  | reload => exact ⟨trivial, hw.reload⟩
  | callback now url => exact verifierActs_callback hw now url
  | answer now index json =>
    refine ⟨trivial, ?_⟩
    show (step config P w (.answer now index json)).browser.Within config table
    cases hentry : w.waiting[index]? with
    | none => simpa only [step, hentry] using hw
    | some entry =>
      cases json with
      | none => simpa only [step, hentry] using hw
      | some json =>
        simp only [step, hentry, finishExchange]
        exact hw.rememberTokenResponse _

/-- The client is a table of values that are used once. -/
lemma verifierLog_honest :
    Honest table (verifierLog config P w events) ∧ (run config P w events).browser.Within config
        (tableAfter table (verifierLog config P w events)) := by
  induction events generalizing w table with
  | nil => exact ⟨trivial, hw⟩
  | cons event events ih =>
    obtain ⟨hacts, hnext⟩ := verifierActs_honest hw event
    obtain ⟨hlog, hlast⟩ := ih hnext
    refine ⟨honest_append.mpr ⟨hacts, hlog⟩, ?_⟩
    rw [verifierLog, tableAfter, List.foldl_append]
    exact hlast

end

/-! ### The log and the run -/

variable (config P w events) (event : SigninEvent)

lemma issued_verifierActs :
    issued (verifierActs config P w.browser event) = (event.issuedVerifier config).toList := by
  cases event with
  | start requested generated codeVerifier =>
    by_cases hcode : config.includesCode = true
    · simp [verifierActs, SigninEvent.issuedVerifier, hcode, issued, Act.issued]
    · simp [verifierActs, SigninEvent.issuedVerifier, hcode, issued]
  | reload => rfl
  | callback now url =>
    rw [verifierActs]
    cases url.presentedState <;> rfl
  | answer now index json => rfl

/-- The log issues what the sign-ins generate. -/
lemma issued_verifierLog :
    issued (verifierLog config P w events) = issuedVerifiers config events := by
  induction events generalizing w with
  | nil => rfl
  | cons event events ih =>
    rw [verifierLog, issued_append, ih, issued_verifierActs, issuedVerifiers, issuedVerifiers]
    cases hiss : event.issuedVerifier config with
    | none => rw [List.filterMap_cons_none hiss, toList_none, List.nil_append]
    | some entry => rw [List.filterMap_cons_some hiss, toList_some, List.singleton_append]

lemma found_verifierActs : found (verifierActs config P w.browser event) =
      (tokenRequest config P w.browser event).toList.map fun exchange =>
        (exchange.state, exchange.codeVerifier) := by
  cases event with
  | start requested generated codeVerifier =>
    by_cases hcode : config.includesCode = true
    · simp [verifierActs, hcode, found, Act.found, tokenRequest]
    · simp [verifierActs, hcode, found, tokenRequest]
  | reload => rfl
  | callback now url =>
    cases hstate : url.presentedState with
    | none =>
      have hno := (handleSigninCallback_presents_none config P w.browser now hstate).1
      have hreq : tokenRequest config P w.browser (.callback now url) = none := by
        rw [tokenRequest]
        cases hout : (handleSigninCallback config P now url w.browser).1 with
        | waiting exchange => exact absurd hout (hno exchange)
        | stored _ | nothing | callbackError _ | missingState | invalidState => rfl
      simp [verifierActs, hstate, hreq, found]
    | some state =>
      obtain ⟨_, hout⟩ := handleSigninCallback_presents config P w.browser now hstate
      simp only [verifierActs, hstate, tokenRequest, hout]
      cases (consumePkceVerifier config state w.browser).1.filter (· != "") <;> rfl
  | answer now index json => rfl

/-- The log finds what the token requests send. -/
lemma found_verifierLog :
    found (verifierLog config P w events) = (tokenRequests config P w events).map fun exchange =>
        (exchange.state, exchange.codeVerifier) := by
  induction events generalizing w with
  | nil => rfl
  | cons event events ih =>
    rw [verifierLog, found_append, ih, found_verifierActs, tokenRequests, List.map_append]

lemma verifierActs_eq_nil_or : verifierActs config P w.browser event = [] ∨
      ∃ act, verifierActs config P w.browser event = [act] := by
  cases event with
  | start requested generated codeVerifier =>
    rw [verifierActs]
    split
    · exact .inr ⟨_, rfl⟩
    · exact .inl rfl
  | reload => exact .inl rfl
  | callback now url =>
    rw [verifierActs]
    cases url.presentedState with
    | none => exact .inl rfl
    | some state => exact .inr ⟨_, rfl⟩
  | answer now index json => exact .inl rfl

variable {config P w events}

/-- The log of two stretches. -/
lemma verifierLog_append (events' : List SigninEvent) :
    verifierLog config P w (events ++ events') =
      verifierLog config P w events ++ verifierLog config P (run config P w events) events' := by
  induction events generalizing w with
  | nil => rfl
  | cons event events ih =>
    rw [List.cons_append, verifierLog, verifierLog, ih, List.append_assoc]
    rfl

/-- An act of the log is the act of an event of the run. -/
lemma exists_event_of_verifierLog {before after : List (Act String String)}
    {act : Act String String} (hlog : verifierLog config P w events = before ++ act :: after) :
    ∃ earlier event later, events = earlier ++ event :: later ∧
      verifierActs config P (run config P w earlier).browser event = [act] ∧
      verifierLog config P (run config P w (earlier ++ [event])) later = after := by
  induction events generalizing w before with
  | nil => simp [verifierLog] at hlog
  | cons event events ih =>
    -- the act is in the rest of the run unless it is that of the first event
    have hrest {before' : List (Act String String)}
        (hlater : verifierLog config P (step config P w event) events = before' ++ act :: after) :
        ∃ earlier event' later, event :: events = earlier ++ event' :: later ∧
          verifierActs config P (run config P w earlier).browser event' = [act] ∧
          verifierLog config P (run config P w (earlier ++ [event'])) later = after := by
      obtain ⟨earlier, event', later, hevents, hacts, hafter⟩ := ih hlater
      exact ⟨event :: earlier, event', later, by rw [hevents, List.cons_append], hacts, hafter⟩
    rw [verifierLog] at hlog
    rcases verifierActs_eq_nil_or config P w event with hnil | ⟨first, hone⟩
    · rw [hnil, List.nil_append] at hlog
      exact hrest hlog
    · rw [hone, List.singleton_append] at hlog
      cases before with
      | nil =>
        obtain ⟨rfl, hafter⟩ := List.cons_eq_cons.mp hlog
        exact ⟨[], event, events, rfl, hone, hafter⟩
      | cons act' before =>
        obtain ⟨-, hlater⟩ := List.cons_eq_cons.mp hlog
        exact hrest hlater

/-- A callback that presents a state is in the log. -/
lemma use_mem_verifierLog {now : ℤ} {url : CallbackUrl} {state : String}
    (hmem : .callback now url ∈ events) (hstate : url.presentedState = some state) :
    ∃ found, .use state found ∈ verifierLog config P w events := by
  obtain ⟨earlier, -, rfl⟩ := List.append_of_mem hmem
  refine ⟨(tokenRequest config P (run config P w earlier).browser (.callback now url)).map
    Exchange.codeVerifier, ?_⟩
  rw [verifierLog_append, verifierLog]
  simp [verifierActs, hstate]

/-! ### The law -/

/-- A token request carries the verifier of its state, no state has two token requests, and a
callback leads to a token request only if its state was issued before and no callback has presented
it since. -/
structure PkceLaw (config : SigninConfig) (P : Platform) (w : World)
    (events : List SigninEvent) : Prop where
  bound : ∀ exchange ∈ tokenRequests config P w events, ∀ codeVerifier,
    (exchange.state, codeVerifier) ∈ issuedVerifiers config events →
      exchange.codeVerifier = codeVerifier
  once : ((tokenRequests config P w events).map Exchange.state).Nodup
  outstanding : ∀ before event after, events = before ++ event :: after →
    ∀ exchange, tokenRequest config P (run config P w before).browser event = some exchange →
      ∃ earlier start later, before = earlier ++ start :: later ∧
        start.issuedVerifier config = some (exchange.state, exchange.codeVerifier) ∧
        ∀ now url, .callback now url ∈ later → url.presentedState ≠ some exchange.state

/-- The verifier that a callback finds was issued before and not presented since. -/
lemma exists_start (hw : w.browser.Within config fun _ => none) {event : SigninEvent}
    {exchange : Exchange}
    (hreq : tokenRequest config P (run config P w events).browser event = some exchange) :
    ∃ earlier start later, events = earlier ++ start :: later ∧
      start.issuedVerifier config = some (exchange.state, exchange.codeVerifier) ∧
      ∀ now url, .callback now url ∈ later → url.presentedState ≠ some exchange.state := by
  have hwithin : (run config P w events).browser.Within config _ := (verifierLog_honest hw).2
  have hacts := (verifierActs_honest (P := P) hwithin event).1
  have hfound := found_verifierActs config P (run config P w events) event
  rw [hreq] at hfound
  have htable : tableAfter (fun _ => none) (verifierLog config P w events) exchange.state =
      some exchange.codeVerifier := by
    have hmem : (exchange.state, exchange.codeVerifier) ∈
        found (verifierActs config P (run config P w events).browser event) := by
      rw [hfound]
      simp
    rcases mem_found hacts hmem with htable | hiss
    · exact htable
    · -- an event with a token request issues nothing
      rw [issued_verifierActs] at hiss
      cases event with
      | callback now url => simp [SigninEvent.issuedVerifier] at hiss
      | start _ _ _ | reload | answer _ _ _ => simp [tokenRequest] at hreq
  obtain ⟨_, _, hlog, hfree⟩ := exists_issue htable rfl
  obtain ⟨earlier, start, later, hevents, hact, hafter⟩ := exists_event_of_verifierLog hlog
  have hiss := issued_verifierActs config P (run config P w earlier) start
  rw [hact] at hiss
  refine ⟨earlier, start, later, hevents, ?_, ?_⟩
  · cases hstart : start.issuedVerifier config with
    | none => simp [hstart, issued, Act.issued] at hiss
    | some entry => simpa [hstart, issued, Act.issued, eq_comm] using hiss
  · intro now url hmem hpres
    rw [← hafter] at hfree
    exact (use_mem_verifierLog hmem hpres).elim hfree

/-- Verifiers are bound to their states along every run in which no state is issued twice. -/
theorem verifiers_bound_to_states (config : SigninConfig) (P : Platform) (w : World)
    (hfresh : Fresh config w) (events : List SigninEvent)
    (hstates : ((issuedVerifiers config events).map Prod.fst).Nodup) :
    PkceLaw config P w events := by
  have hlog : Honest _ (verifierLog config P w events) := (verifierLog_honest hfresh.within).1
  have hiss := issued_verifierLog config P w events
  have hfound := found_verifierLog config P w events
  have hkeys : ((issued (verifierLog config P w events)).map Prod.fst).Nodup := by
    rw [hiss]
    exact hstates
  constructor
  · intro exchange hexc codeVerifier hver
    have hmem : (exchange.state, exchange.codeVerifier) ∈ found (verifierLog config P w events) := by
      rw [hfound]
      exact List.mem_map.mpr ⟨exchange, hexc, rfl⟩
    rcases mem_found hlog hmem with hnone | hown
    · simp at hnone
    · rw [hiss] at hown
      have hsame := List.inj_on_of_nodup_map hstates hown hver rfl
      exact (Prod.mk.inj hsame).2
  · have hnodup := found_nodup hlog hkeys (by simp)
    rw [hfound, List.map_map] at hnodup
    exact hnodup
  · intro before event after hevents exchange hreq
    exact exists_start hfresh.within hreq

end Runs

/-- Two sign-ins, a reload, their callbacks in the other order, and two more callbacks: one with a
state that was used, one with a state that nobody issued. -/
def twoSignins : List SigninEvent :=
  let callbackFor (state : String) : CallbackUrl :=
    { query := [("code", "c"), ("state", state)], fragment := [] }
  [.start none "s" "v", .start none "t" "u", .reload, .callback 0 (callbackFor "t"),
    .callback 1 (callbackFor "s"), .callback 2 (callbackFor "s"), .callback 3 (callbackFor "x")]

/-- Two sign-ins that return in the other order. -/
theorem verifiers_bound_to_states_two_signins :
    tokenRequests referenceConfig referencePlatform emptyWorld twoSignins =
        [{ authorizationCode := "c", codeVerifier := "u", state := "t" },
          { authorizationCode := "c", codeVerifier := "v", state := "s" }] ∧
      PkceLaw referenceConfig referencePlatform emptyWorld twoSignins :=
  ⟨by decide, verifiers_bound_to_states referenceConfig referencePlatform emptyWorld
    emptyWorld_fresh twoSignins (by decide)⟩

end LocalPlatform.Oidc
