import LocalPlatform.Storage.Socket

/-!
# Nothing is executed without a fresh authorization

The loop of the storage socket, with all its calls in their order. Whatever the client sends,
whatever the authorizer answers and whatever the clock shows: an execution directly follows the
arrival of its frame, an authorization that grants it, and a look at the clock before the expiry of
that authorization. A refusal or an expiry is the last thing that happens.
-/

namespace LocalPlatform.Storage

open List

/-- The requests that change what is stored. -/
def StorageRequest.mutates : StorageRequest → Bool
  | .read _ | .entry _ | .list _ => false
  | .write _ _ | .append _ _ | .delete _ | .createDir _ | .rename _ _ => true

section
variable {σ ω : Type}

/-- The answer of the authorizer grants the request. -/
def Grants (access : StorageSocketAccess σ) (request : StorageRequest) : Prop :=
  if request.mutates then access.write = true else access.read = true

/-- Every execution directly follows the arrival of its frame, an authorization that grants it and
returns its session, and a look at the clock before the expiry of that authorization. -/
def ExecutesAuthorized (trace : List (SocketEvent σ)) : Prop :=
  ∀ before session request response after,
    trace = before ++ .executed session request response :: after →
      ∃ earlier message access now,
        before = earlier ++ [.received (some (.text message)), .authorized (.ok access),
          .clock now] ∧
        decodeRequest message = some request ∧ session = access.session ∧
        Grants access request ∧ now < access.expiresAt

/-- The access that holds after some events: the last one that was granted. -/
def currentAccess (access : StorageSocketAccess σ) (events : List (SocketEvent σ)) :
    StorageSocketAccess σ :=
  events.foldl (fun current event => match event with
    | .authorized (.ok granted) => granted
    | _ => current) access

/-- The authorizer refuses, or the current access is seen to have expired. -/
def Closes (access : StorageSocketAccess σ) : SocketEvent σ → Prop
  | .authorized (.error _) => True
  | .clock now => access.expiresAt ≤ now
  | _ => False

/-- After a refusal or an expiry nothing happens any more. -/
def StopsWhenClosed (access : StorageSocketAccess σ) (trace : List (SocketEvent σ)) : Prop :=
  ∀ before event after, trace = before ++ event :: after →
    Closes (currentAccess access before) event → after = []

lemma grants_of_allows {access : StorageSocketAccess σ} {request : StorageRequest}
    (h : allows access request = true) : Grants access request := by
  cases request <;> exact h

/-! ## One round -/

variable (executeSession : σ → StorageRequest → StateM ω StorageResponse)

/-- The answer comes with no execution, or with one that the access grants. -/
lemma traceAnswer_cases (access : StorageSocketAccess σ) (message : String) (world : ω) :
    (((traceAnswer executeSession access message).run world).1.1 = [] ∨
      ∃ request, decodeRequest message = some request ∧ Grants access request ∧
        ((traceAnswer executeSession access message).run world).1.1 =
          [.executed access.session request
            ((traceAnswer executeSession access message).run world).1.2]) := by
  unfold traceAnswer
  split
  · rename_i request hreq
    split_ifs with hallows
    · exact .inr ⟨request, hreq, grants_of_allows hallows, rfl⟩
    · exact .inl rfl
  · exact .inl rfl

/-- What a round can do. -/
inductive RoundEvents (access : StorageSocketAccess σ) :
    List (SocketEvent σ) → Option (StorageSocketAccess σ) → Prop
  | expired {start : ℤ} (h : access.expiresAt ≤ start) : RoundEvents access [.clock start] none
  | closed {start : ℤ} {received : Option Message} (hstart : start < access.expiresAt) :
      RoundEvents access [.clock start, .received received] none
  | refused {start : ℤ} {received : Option Message} {e : StorageSocketAuthorizationError}
      (hstart : start < access.expiresAt) :
      RoundEvents access [.clock start, .received received, .authorized (.error e)] none
  | late {start now : ℤ} {received : Option Message} {granted : StorageSocketAccess σ}
      (hstart : start < access.expiresAt) (h : granted.expiresAt ≤ now) :
      RoundEvents access
        [.clock start, .received received, .authorized (.ok granted), .clock now] none
  | declined {start now : ℤ} {received : Option Message} {granted : StorageSocketAccess σ}
      {response : StorageResponse} {next : Option (StorageSocketAccess σ)}
      (hstart : start < access.expiresAt) (h : now < granted.expiresAt)
      (hnext : next = some granted ∨ next = none) :
      RoundEvents access [.clock start, .received received, .authorized (.ok granted), .clock now,
        .answered response] next
  | executed {start now : ℤ} {message : String} {granted : StorageSocketAccess σ}
      {request : StorageRequest} {response : StorageResponse}
      {next : Option (StorageSocketAccess σ)} (hstart : start < access.expiresAt)
      (h : now < granted.expiresAt) (hrequest : decodeRequest message = some request)
      (hgrants : Grants granted request) (hnext : next = some granted ∨ next = none) :
      RoundEvents access [.clock start, .received (some (.text message)),
        .authorized (.ok granted), .clock now, .executed granted.session request response,
        .answered response] next

/-- The events of one round, case by case. -/
lemma traceRound_events (access : StorageSocketAccess σ) (round : Round σ) (world : ω) :
    RoundEvents access ((traceRound executeSession access round).run world).1.1
      ((traceRound executeSession access round).run world).1.2 := by
  unfold traceRound
  by_cases hexp : access.expiresAt ≤ round.startedAt
  · rw [if_pos hexp]
    exact .expired hexp
  have hstart : round.startedAt < access.expiresAt := not_le.mp hexp
  rw [if_neg hexp]
  split
  · rename_i message hrecv
    split
    · rename_i granted hgranted
      by_cases hnow : round.authorizedAt < granted.expiresAt
      · rw [if_pos hnow, StateT.run_bind]
        have hans := traceAnswer_cases executeSession granted message world
        have hnext : (if round.sent = true then some granted else none) = some granted ∨
            (if round.sent = true then some granted else none) = none := by
          split
          · exact .inl rfl
          · exact .inr rfl
        rcases hans with hnone | ⟨_, hreq, hgrs, hone⟩
        · show RoundEvents access (_ ++ ((traceAnswer executeSession granted message).run
            world).1.1 ++ _) _
          rw [hnone]
          exact .declined hstart hnow hnext
        · show RoundEvents access (_ ++ ((traceAnswer executeSession granted message).run
            world).1.1 ++ _) _
          rw [hone]
          exact .executed hstart hnow hreq hgrs hnext
      · rw [if_neg hnow]
        exact .late hstart (not_lt.mp hnow)
    · exact .refused hstart
  · exact .closed hstart

end

/-! ## Executions -/

section
variable {σ ω : Type}

lemma ExecutesAuthorized.append {a b : List (SocketEvent σ)} (ha : ExecutesAuthorized a)
    (hb : ExecutesAuthorized b) : ExecutesAuthorized (a ++ b) := by
  intro before session request response after h
  rcases append_eq_append_iff.mp h with ⟨middle, rfl, hb'⟩ | ⟨middle, ha', hafter⟩
  · obtain ⟨earlier, message, access, now, rfl, hrest⟩ :=
      hb middle session request response after hb'
    exact ⟨a ++ earlier, message, access, now, (append_assoc ..).symm, hrest⟩
  · cases middle with
    | nil =>
      -- an execution is not the first event of the second part
      obtain ⟨earlier, message, access, now, hearlier, -⟩ :=
        hb [] session request response after hafter.symm
      simp at hearlier
    | cons event middle =>
      obtain ⟨rfl, rfl⟩ := cons.inj hafter
      exact ha before session request response middle ha'

/-- Events among which there is no execution. -/
lemma ExecutesAuthorized.of_none {trace : List (SocketEvent σ)}
    (h : ∀ session request response, .executed session request response ∉ trace) :
    ExecutesAuthorized trace := by
  rintro before session request response _ rfl
  exact absurd (mem_append_right before mem_cons_self) (h session request response)

variable {access : StorageSocketAccess σ} {events : List (SocketEvent σ)}
  {next : Option (StorageSocketAccess σ)} {rest : List (SocketEvent σ)}

/-- A round executes only under its own authorization. -/
lemma RoundEvents.executesAuthorized
    (h : RoundEvents access events next) : ExecutesAuthorized events := by
  cases h with
  | expired | closed | refused | late | declined => exact .of_none (by simp)
  | @executed start now message granted request response next hstart hnow hreq hgrs hnext =>
    have hcore : ExecutesAuthorized [.received (some (.text message)), .authorized (.ok granted),
        .clock now, .executed granted.session request response] := by
      intro before session' request' response' after h
      have hlast : before = [.received (some (.text message)), .authorized (.ok granted),
          .clock now] ∧ session' = granted.session ∧ request' = request := by
        rcases before with _ | ⟨_, _ | ⟨_, _ | ⟨_, _ | ⟨_, _⟩⟩⟩⟩ <;> simp at h
        obtain ⟨rfl, rfl, rfl, ⟨rfl, rfl, rfl⟩, -⟩ := h
        exact ⟨rfl, rfl, rfl⟩
      obtain ⟨rfl, rfl, rfl⟩ := hlast
      exact ⟨[], message, granted, now, rfl, hreq, rfl, hgrs, hnow⟩
    have hstarts : ExecutesAuthorized [(.clock start : SocketEvent σ)] := .of_none (by simp)
    have hanswers : ExecutesAuthorized [(.answered response : SocketEvent σ)] := .of_none (by simp)
    exact hstarts.append (hcore.append hanswers)

/-! ## The end of the loop -/

lemma stopsWhenClosed_nil (access : StorageSocketAccess σ) : StopsWhenClosed access [] := by
  intro before event after h
  simp at h

/-- The first event closes the loop and is the last one, or the rest goes on with the access that
holds after it. -/
lemma stopsWhenClosed_cons {event : SocketEvent σ} : StopsWhenClosed access (event :: rest) ↔
      (Closes access event → rest = []) ∧ StopsWhenClosed (currentAccess access [event]) rest := by
  constructor
  · intro h
    refine ⟨h [] event rest rfl, fun before event' after hrest => ?_⟩
    exact h (event :: before) event' after (congrArg (event :: ·) hrest)
  · rintro ⟨hfirst, hrest⟩ before event' after h
    cases before with
    | nil =>
      obtain ⟨rfl, rfl⟩ := cons.inj h
      exact hfirst
    | cons first before =>
      obtain ⟨rfl, hafter⟩ := cons.inj h
      exact hrest before event' after hafter

/-- A round that ends the loop does nothing after a refusal or an expiry; one that the loop goes on
from meets neither, and leaves the loop with the access that it was granted. -/
lemma RoundEvents.stopsWhenClosed (h : RoundEvents access events next)
    (hnone : next = none → rest = []) (hsome : ∀ granted, next = some granted →
      StopsWhenClosed granted rest) : StopsWhenClosed access (events ++ rest) := by
  -- the rest of the trace in either case
  have hrest : ∀ granted, next = some granted ∨ next = none → StopsWhenClosed granted rest := by
    rintro granted (hnext | hnext)
    · exact hsome granted hnext
    · rw [hnone hnext]
      exact stopsWhenClosed_nil granted
  cases h with
  | expired h =>
    rw [hnone rfl]
    simp [stopsWhenClosed_cons, stopsWhenClosed_nil]
  | closed hstart =>
    rw [hnone rfl]
    simp [stopsWhenClosed_cons, stopsWhenClosed_nil, Closes, hstart]
  | refused hstart =>
    rw [hnone rfl]
    simp [stopsWhenClosed_cons, stopsWhenClosed_nil, Closes, hstart]
  | late hstart h =>
    rw [hnone rfl]
    simp [stopsWhenClosed_cons, stopsWhenClosed_nil, Closes, hstart]
  | declined hstart hnow hnext =>
    have hlater := hrest _ hnext
    simpa [stopsWhenClosed_cons, Closes, currentAccess, hstart, hnow] using hlater
  | executed hstart hnow hreq hgrs hnext =>
    have hlater := hrest _ hnext
    simpa [stopsWhenClosed_cons, Closes, currentAccess, hstart, hnow] using hlater

/-! ## The whole loop -/

variable (executeSession : σ → StorageRequest → StateM ω StorageResponse)

/-- The trace records the answer and changes nothing. -/
lemma answer_eq_traceAnswer (access : StorageSocketAccess σ) (message : String) (world : ω) :
    (answer executeSession access message).run world =
      (((traceAnswer executeSession access message).run world).1.2,
        ((traceAnswer executeSession access message).run world).2) := by
  unfold answer traceAnswer
  split
  · split_ifs
    · rfl
    · rfl
  · rfl

/-- An execution is not an answer yet. -/
lemma filterMap_traceAnswer (access : StorageSocketAccess σ) (message : String) (world : ω) :
    ((traceAnswer executeSession access message).run world).1.1.filterMap
      SocketEvent.response? = [] := by
  rcases traceAnswer_cases executeSession access message world with h | ⟨_, -, -, h⟩
  · rw [h]
    rfl
  · rw [h]
    rfl

/-- The trace of a session, round by round. -/
lemma traceSocket_cons (access : StorageSocketAccess σ) (round : Round σ)
    (rounds : List (Round σ)) (world : ω) :
    (traceSocket executeSession access (round :: rounds)).run world =
      match (traceRound executeSession access round).run world with
      | ((events, some granted), world1) =>
        (events ++ ((traceSocket executeSession granted rounds).run world1).1,
          ((traceSocket executeSession granted rounds).run world1).2)
      | ((events, none), world1) => (events, world1) := by
  rw [traceSocket, StateT.run_bind]
  rcases (traceRound executeSession access round).run world with ⟨⟨-, _ | -⟩, -⟩
  · rfl
  · rfl

/-- The answers of the loop are those among its events, and it leaves the same world behind. -/
lemma serveSocket_eq_trace (access : StorageSocketAccess σ) (rounds : List (Round σ)) (world : ω) :
    (serveSocket executeSession access rounds).run world =
      (((traceSocket executeSession access rounds).run world).1.filterMap SocketEvent.response?,
        ((traceSocket executeSession access rounds).run world).2) := by
  induction rounds generalizing access world with
  | nil => rfl
  | cons round rounds ih =>
    rw [traceSocket_cons]
    unfold serveSocket traceRound
    by_cases hexp : access.expiresAt ≤ round.startedAt
    · rw [if_pos hexp, if_pos hexp]
      rfl
    rw [if_neg hexp, if_neg hexp]
    rcases round.received with _ | ⟨message⟩ | _
    · rfl
    · rcases round.authorization with e | granted
      · rfl
      · dsimp only
        by_cases hnow : round.authorizedAt < granted.expiresAt
        · rw [if_pos hnow, if_pos hnow, StateT.run_bind, StateT.run_bind,
            answer_eq_traceAnswer executeSession granted message world]
          have hnone := filterMap_traceAnswer executeSession granted message world
          rcases hans : (traceAnswer executeSession granted message).run world with
            ⟨⟨executions, response⟩, world1⟩
          rw [hans] at hnone
          -- the only answer of the round
          have hevents : filterMap SocketEvent.response? ([.clock round.startedAt,
              .received (some (.text message)), .authorized (.ok granted),
              .clock round.authorizedAt] ++ executions ++ [.answered response]) = [response] := by
            rw [filterMap_append, filterMap_append, hnone]
            rfl
          cases round.sent with
          | true =>
            show (response :: ((serveSocket executeSession granted rounds).run world1).1,
              ((serveSocket executeSession granted rounds).run world1).2) =
                ((_ ++ ((traceSocket executeSession granted rounds).run world1).1).filterMap _,
                  ((traceSocket executeSession granted rounds).run world1).2)
            rw [ih granted world1, filterMap_append, hevents]
            rfl
          | false => exact Prod.ext hevents.symm rfl
        · rw [if_neg hnow, if_neg hnow]
          rfl
    · rfl

/-- What holds of every round holds of the loop. -/
lemma traceSocket_safe (access : StorageSocketAccess σ) (rounds : List (Round σ)) (world : ω) :
    ExecutesAuthorized ((traceSocket executeSession access rounds).run world).1 ∧
      StopsWhenClosed access ((traceSocket executeSession access rounds).run world).1 := by
  induction rounds generalizing access world with
  | nil =>
    have hnil : ((traceSocket executeSession access []).run world).1 = [] := rfl
    rw [hnil]
    exact ⟨.of_none (by simp), stopsWhenClosed_nil access⟩
  | cons round rounds ih =>
    have hround := traceRound_events executeSession access round world
    rw [traceSocket_cons]
    rcases hrun : (traceRound executeSession access round).run world with
      ⟨⟨events, _ | granted⟩, world1⟩ <;> rw [hrun] at hround
    · have hstops := hround.stopsWhenClosed (fun _ => rfl) (fun _ h => by cases h)
      rw [append_nil] at hstops
      exact ⟨hround.executesAuthorized, hstops⟩
    · obtain ⟨hexecutes, hstops⟩ := ih granted world1
      refine ⟨hround.executesAuthorized.append hexecutes,
        hround.stopsWhenClosed (fun h => by cases h) fun _ h => ?_⟩
      obtain rfl := Option.some.inj h
      exact hstops

/-- For all frames, answers of the authorizer and clock readings: every execution directly follows
the arrival of its frame, an authorization that grants it and returns its session, and a look at
the clock before the expiry; after a refusal or an expiry nothing is executed or answered. The
answers are those of `serve_socket`. -/
theorem serveSocket_executes_authorized (access : StorageSocketAccess σ)
    (rounds : List (Round σ)) (world : ω) :
    ∃ trace world', (traceSocket executeSession access rounds).run world = (trace, world') ∧
      (serveSocket executeSession access rounds).run world =
        (trace.filterMap SocketEvent.response?, world') ∧
      ExecutesAuthorized trace ∧ StopsWhenClosed access trace :=
  ⟨((traceSocket executeSession access rounds).run world).1,
    ((traceSocket executeSession access rounds).run world).2, rfl,
    serveSocket_eq_trace executeSession access rounds world,
    traceSocket_safe executeSession access rounds world⟩

end

/-! ## Keep-alive frames -/

/-- The frames of an open connection that axum hands to `recv`. -/
inductive Frame where
  | text (message : String)
  | ping
  | pong
deriving DecidableEq, Repr

/-- The loop tells only texts apart. -/
def Frame.message : Frame → Message
  | .text message => .text message
  | .ping | .pong => .other

/-- The message an event receives. -/
def SocketEvent.received? {σ : Type} : SocketEvent σ → Option (Option Message)
  | .received message => some message
  | .clock _ | .authorized _ | .executed _ _ _ | .answered _ => none

section
variable {σ ω : Type}

/-- Every authorization is granted and outlives the session, and every answer can be sent. -/
structure GrantedThroughout (access : StorageSocketAccess σ) (rounds : List (Round σ)) : Prop where
  fresh : ∀ round ∈ rounds, round.startedAt < access.expiresAt
  granted : ∀ round ∈ rounds, ∃ granted, round.authorization = .ok granted ∧
    round.authorizedAt < granted.expiresAt ∧ ∀ later ∈ rounds, later.startedAt < granted.expiresAt
  sent : ∀ round ∈ rounds, round.sent = true

/-- The texts that arrive, each with the access that is granted for it. -/
def texts (rounds : List (Round σ)) : List (StorageSocketAccess σ × String) :=
  rounds.filterMap fun round => match round.received, round.authorization with
    | some (.text message), .ok access => some (access, message)
    | _, _ => none

variable (executeSession : σ → StorageRequest → StateM ω StorageResponse)

/-- Every text is answered once, in order, and everything that arrives is received. -/
structure AnswersTexts (access : StorageSocketAccess σ) (rounds : List (Round σ)) (last : Round σ)
    (world : ω) : Prop where
  responses : ((traceSocket executeSession access (rounds ++ [last])).run world).1.filterMap
      SocketEvent.response? =
    (((texts rounds).mapM fun (access, message) => answer executeSession access message).run
      world).1
  received : ((traceSocket executeSession access (rounds ++ [last])).run world).1.filterMap
      SocketEvent.received? = (rounds ++ [last]).map Round.received

variable {access granted : StorageSocketAccess σ} {round last : Round σ} {rounds : List (Round σ)}
  {message : String}

/-- A text is answered, and the loop goes on. -/
lemma traceSocket_text (hgranted : GrantedThroughout access (round :: rounds))
    (hrecv : round.received = some (.text message)) (world : ω) :
    ∃ granted executions response world', round.authorization = .ok granted ∧
      GrantedThroughout granted rounds ∧ executions.filterMap SocketEvent.response? = [] ∧
      executions.filterMap SocketEvent.received? = [] ∧
      (answer executeSession granted message).run world = (response, world') ∧
      ((traceSocket executeSession access (round :: rounds)).run world).1 =
        [.clock round.startedAt, .received (some (.text message)), .authorized (.ok granted),
          .clock round.authorizedAt] ++ executions ++ [.answered response] ++
          ((traceSocket executeSession granted rounds).run world').1 := by
  obtain ⟨hfresh, hauthorized, hsent⟩ := hgranted
  simp only [forall_mem_cons] at hfresh hauthorized hsent
  obtain ⟨⟨granted, hok, hnow, -, hlater⟩, hrest⟩ := hauthorized
  have hexecutions : ((traceAnswer executeSession granted message).run world).1.1.filterMap
      SocketEvent.received? = [] := by
    rcases traceAnswer_cases executeSession granted message world with h | ⟨_, -, -, h⟩ <;>
      rw [h] <;> rfl
  refine ⟨granted, _, _, _, hok, ⟨hlater, fun other hother => ?_, hsent.2⟩,
    filterMap_traceAnswer executeSession granted message world, hexecutions,
    answer_eq_traceAnswer executeSession granted message world, ?_⟩
  · obtain ⟨granted', hok', hnow', -, hlater'⟩ := hrest other hother
    exact ⟨granted', hok', hnow', hlater'⟩
  · rw [traceSocket_cons, traceRound, if_neg (not_le.mpr hfresh.1), hrecv, hok]
    dsimp only
    rw [if_pos hnow, hsent.1]
    rfl

/-- Any other frame is the last that is received. -/
lemma traceSocket_other (hfresh : round.startedAt < access.expiresAt)
    (hrecv : ∀ message, round.received ≠ some (.text message)) (world : ω) :
    ((traceSocket executeSession access (round :: rounds)).run world).1 =
      [.clock round.startedAt, .received round.received] := by
  rw [traceSocket_cons, traceRound, if_neg (not_le.mpr hfresh)]
  rcases h : round.received with _ | ⟨message⟩ | _
  · rfl
  · exact absurd h (hrecv message)
  · rfl

section
variable (hgranted : GrantedThroughout access (rounds ++ [last]))
include hgranted

variable (hlast : ∀ message, last.received ≠ some (.text message))
include hlast

/-- Everything arrives if all frames but the last are texts, and only then. -/
lemma received_iff (world : ω) :
    ((traceSocket executeSession access (rounds ++ [last])).run world).1.filterMap
        SocketEvent.received? = (rounds ++ [last]).map Round.received ↔
      ∀ round ∈ rounds, ∃ message, round.received = some (.text message) := by
  induction rounds generalizing access world with
  | nil =>
    rw [nil_append, traceSocket_other executeSession (hgranted.fresh last (by simp)) hlast]
    simp [filterMap_cons, SocketEvent.received?]
  | cons round rounds ih =>
    rw [cons_append] at hgranted
    rw [forall_mem_cons, cons_append]
    by_cases htext : ∃ message, round.received = some (.text message)
    · obtain ⟨message, hrecv⟩ := htext
      obtain ⟨_, _, _, world', -, hrest, -, hnone, -, htrace⟩ :=
        traceSocket_text executeSession hgranted hrecv world
      rw [htrace, ← ih hrest world']
      simp [filterMap_cons, hnone, hrecv, SocketEvent.received?]
    · rw [traceSocket_other executeSession (hgranted.fresh round (by simp)) (not_exists.mp htext)]
      simp [filterMap_cons, htext, SocketEvent.received?]

/-- Texts alone are all answered. -/
lemma responses_of_texts
    (htexts : ∀ round ∈ rounds, ∃ message, round.received = some (.text message)) (world : ω) :
    ((traceSocket executeSession access (rounds ++ [last])).run world).1.filterMap
        SocketEvent.response? =
      (((texts rounds).mapM fun (access, message) => answer executeSession access message).run
        world).1 := by
  induction rounds generalizing access world with
  | nil =>
    rw [nil_append, traceSocket_other executeSession (hgranted.fresh last (by simp)) hlast]
    rfl
  | cons round rounds ih =>
    rw [cons_append] at hgranted
    obtain ⟨⟨message, hrecv⟩, htexts⟩ := forall_mem_cons.mp htexts
    obtain ⟨granted, _, _, world', hok, hrest, hnone, -, hans, htrace⟩ :=
      traceSocket_text executeSession hgranted hrecv world
    have htail := ih hrest htexts world'
    have hcons : texts (round :: rounds) = (granted, message) :: texts rounds := by
      simp [texts, hrecv, hok]
    rw [cons_append, htrace, hcons, mapM_cons, StateT.run_bind, hans]
    simp [filterMap_cons, hnone, SocketEvent.response?, htail]
    rfl

end

/-- With authorization granted throughout: the server answers every text once and in order and
stays until the connection is closed or lost, exactly when no ping or pong arrives. -/
theorem answersTexts_iff_no_keepAlive {frames : List Frame} (world : ω)
    (hgranted : GrantedThroughout access (rounds ++ [last]))
    (hframes : rounds.map Round.received = frames.map fun frame => some frame.message)
    (hlast : last.received = none ∨ last.received = some .other) :
    AnswersTexts executeSession access rounds last world ↔
      ∀ frame ∈ frames, frame ≠ .ping ∧ frame ≠ .pong := by
  have hend : ∀ message, last.received ≠ some (.text message) := by
    intro message hmessage
    rcases hlast with h | h <;> rw [h] at hmessage <;> cases hmessage
  -- the rounds are those of the frames
  have htexts : (∀ round ∈ rounds, ∃ message, round.received = some (.text message)) ↔
      ∀ frame ∈ frames, frame ≠ .ping ∧ frame ≠ .pong := by
    have hall : (∀ received ∈ rounds.map Round.received, ∃ message,
        received = some (.text message)) ↔ ∀ frame ∈ frames, frame ≠ .ping ∧ frame ≠ .pong := by
      rw [hframes, forall_mem_map]
      refine forall₂_congr fun frame _ => ?_
      cases frame <;> simp [Frame.message]
    rwa [forall_mem_map] at hall
  rw [← htexts]
  refine ⟨fun h => (received_iff executeSession hgranted hend world).mp h.received, fun h => ?_⟩
  exact ⟨responses_of_texts executeSession hgranted hend h world,
    (received_iff executeSession hgranted hend world).mpr h⟩

end

/-- A round of a session that is granted until time 9. -/
def openRound (received : Option Message) : Round Unit :=
  ⟨0, received, .ok ⟨true, true, 9, ()⟩, 0, true⟩

lemma grantedThroughout_openRound (received : List (Option Message)) :
    GrantedThroughout ⟨true, true, 9, ()⟩ (received.map openRound) := by
  constructor <;> simp [openRound]

/-- The text of a deletion. -/
def deletion : String := "\x7b\"type\":\"delete\",\"path\":\"a\"\x7d"

/-- An executor that counts what it executes. -/
def counting (_ : Unit) (_ : StorageRequest) : StateM ℕ StorageResponse :=
  modifyGet fun count => (.deleted, count + 1)

/-- A text that is no request, and the deletion twice. -/
def openTexts : List (Round Unit) :=
  [some (.text "x"), some (.text deletion), some (.text deletion)].map openRound

/-- The second and the third text are executed; all are answered in order, until the connection is
lost. -/
theorem answersTexts_iff_no_keepAlive_text :
    AnswersTexts counting ⟨true, true, 9, ()⟩ openTexts (openRound none) 0 ∧
      ((traceSocket counting ⟨true, true, 9, ()⟩ (openTexts ++ [openRound none])).run 0).1.filterMap
          SocketEvent.response? = [.error .invalidRequest, .deleted, .deleted] := by
  have hanswers : AnswersTexts counting ⟨true, true, 9, ()⟩ openTexts (openRound none) 0 :=
    (answersTexts_iff_no_keepAlive counting 0 (grantedThroughout_openRound
        [some (.text "x"), some (.text deletion), some (.text deletion), none])
      (show openTexts.map Round.received = [Frame.text "x", .text deletion, .text deletion].map
        fun frame => some frame.message from rfl) (.inl rfl)).mpr (by simp)
  exact ⟨hanswers, by decide +kernel⟩

/-- A ping ends the session, and the text after it is not answered. -/
theorem ping_ends_session :
    GrantedThroughout ⟨true, true, 9, ()⟩
        ([some Frame.ping.message, some (.text "x"), none].map openRound) ∧
      ((traceSocket (ω := Unit) (fun _ _ => pure .deleted) ⟨true, true, 9, ()⟩
        ([some Frame.ping.message, some (.text "x"), none].map openRound)).run ()).1.filterMap
          SocketEvent.response? = [] := by
  exact ⟨grantedThroughout_openRound _, rfl⟩

end LocalPlatform.Storage
