import LocalPlatform.Storage.Socket

/-!
# The frames of the storage client

The client wraps every request into an object of type `request`. The server decodes the object
itself, for which it knows no such type, so it executes nothing that the client asks for.
-/

namespace LocalPlatform.Storage

/-- The request of the server that a request of the client stands for. -/
def ClientRequest.request : ClientRequest → StorageRequest
  | .read path => .read path
  | .write path content => .write path content
  | .append path content => .append path content
  | .delete path => .delete path
  | .entry path => .entry path
  | .list path => .list path

/-! ## Decoding -/

lemma bytesField_content (type path : String) (content : List UInt8) :
    bytesField [("type", .string type), ("path", .string path),
      ("content", .array (content.map Json.ofByte))] "content" = some content := by
  show Json.asList Json.asByte (.array (content.map Json.ofByte)) = some content
  exact Json.asList_map Json.asByte_ofByte content

/-- A request by itself is what the server decodes. -/
lemma fromJson_toJson (r : ClientRequest) : StorageRequest.fromJson r.toJson = some r.request := by
  cases r with
  | read path => rfl
  | write path content =>
    have hcontent := bytesField_content "write" path content
    show (bytesField _ _).bind (fun content => some (StorageRequest.write path content)) = _
    rw [hcontent]
    rfl
  | append path content =>
    have hcontent := bytesField_content "append" path content
    show (bytesField _ _).bind (fun content => some (StorageRequest.append path content)) = _
    rw [hcontent]
    rfl
  | delete path => rfl
  | entry path => rfl
  | list path => rfl

/-- A text within the limits of the parser is decoded as its value. -/
lemma decodeRequest_stringify {j : Json} (h : j.withinLimits 127 = true) :
    decodeRequest (Json.stringify j) = StorageRequest.fromJson j := by
  rw [decodeRequest, Json.parse_stringify]
  exact if_pos h

/-- Requests are nested twice at most, and bytes are small. -/
lemma withinLimits_toJson (r : ClientRequest) (depth : ℕ) :
    r.toJson.withinLimits (depth + 2) = true := by
  cases r <;> simp [ClientRequest.toJson, Json.withinLimits]

/-- No variant of the server has the type `request`. -/
lemma decodeRequest_socketFrame (r : ClientRequest) : decodeRequest (socketFrame r) = none := by
  have hlimits : (Json.object [("type", .string "request"),
      ("request", r.toJson)]).withinLimits 127 = true := by
    simp [Json.withinLimits, withinLimits_toJson r 124]
  rw [socketFrame, decodeRequest_stringify hlimits]
  rfl

/-! ## Answers -/

section
variable {σ ω : Type} (executeSession : σ → StorageRequest → StateM ω StorageResponse)

/-- Every frame of the client is refused. -/
lemma answer_socketFrame (access : StorageSocketAccess σ) (r : ClientRequest) :
    answer executeSession access (socketFrame r) = pure (.error .invalidRequest) := by
  rw [answer, decodeRequest_socketFrame]

/-- The message of the round, if it is a text, is a request of the client. -/
def Round.FromClient (round : Round σ) : Prop :=
  ∀ message, round.received = some (.text message) → ∃ r, message = socketFrame r

/-- The access with which a round begins: that of the connection, or what the round before was
granted. -/
def accessBefore (access : StorageSocketAccess σ) (rounds : List (Round σ)) :
    ℕ → Option (StorageSocketAccess σ)
  | 0 => some access
  | i + 1 => rounds[i]?.bind fun round => round.authorization.toOption

/-- A text comes in before the access of the round has expired, and an authorization is granted for
it that has not expired either. -/
def Handled (access : StorageSocketAccess σ) (rounds : List (Round σ)) (i : ℕ) : Prop :=
  ∃ round message current granted, rounds[i]? = some round ∧
    accessBefore access rounds i = some current ∧ round.startedAt < current.expiresAt ∧
    round.received = some (.text message) ∧ round.authorization = .ok granted ∧
    round.authorizedAt < granted.expiresAt

/-- The session has `n` messages: all of its rounds are handled, and it ends with a round that is
not, or with an answer that cannot be sent. -/
structure SessionLength (access : StorageSocketAccess σ) (rounds : List (Round σ)) (n : ℕ) :
    Prop where
  handled : ∀ i < n, Handled access rounds i
  sent : ∀ i, i + 1 < n → ∃ round, rounds[i]? = some round ∧ round.sent = true
  ended : Handled access rounds n →
    ∃ i round, n = i + 1 ∧ rounds[i]? = some round ∧ round.sent = false

section
variable {access granted : StorageSocketAccess σ} {round : Round σ} {rounds : List (Round σ)}

lemma handled_zero_iff : Handled access (round :: rounds) 0 ↔ ∃ message granted,
    round.startedAt < access.expiresAt ∧ round.received = some (.text message) ∧
      round.authorization = .ok granted ∧ round.authorizedAt < granted.expiresAt := by
  simp [Handled, accessBefore]

/-- After the first round the session goes on with what that round was granted. -/
lemma handled_succ_iff (hgranted : round.authorization = .ok granted) (i : ℕ) :
    Handled access (round :: rounds) (i + 1) ↔ Handled granted rounds i := by
  have hbefore : accessBefore access (round :: rounds) (i + 1) = accessBefore granted rounds i := by
    cases i with
    | zero => simp [accessBefore, hgranted, Except.toOption]
    | succ i => rfl
  simp [Handled, hbefore]

/-- A round that is not handled ends the session. -/
lemma serveSocket_of_not_handled (h : ¬Handled access (round :: rounds) 0) :
    serveSocket executeSession access (round :: rounds) = pure [] := by
  rw [handled_zero_iff] at h
  unfold serveSocket
  split
  · rfl
  · rename_i hstart
    split
    · rename_i message granted hrecv hok
      split
      · rename_i hnow
        exact absurd ⟨message, granted, not_le.mp hstart, hrecv, hok, hnow⟩ h
      · rfl
    · rfl

/-- A request of the client that is handled is answered with an error. -/
lemma run_serveSocket_of_handled (hround : round.FromClient)
    (h : Handled access (round :: rounds) 0) (world : ω) :
    ∃ granted, round.authorization = .ok granted ∧
      (serveSocket executeSession access (round :: rounds)).run world =
        if round.sent then (.error .invalidRequest ::
          ((serveSocket executeSession granted rounds).run world).1,
            ((serveSocket executeSession granted rounds).run world).2)
        else ([.error .invalidRequest], world) := by
  obtain ⟨message, granted, hstart, hrecv, hok, hnow⟩ := handled_zero_iff.mp h
  obtain ⟨r, rfl⟩ := hround message hrecv
  refine ⟨granted, hok, ?_⟩
  rw [serveSocket, if_neg (not_le.mpr hstart), hrecv, hok]
  dsimp only
  rw [if_pos hnow, answer_socketFrame, pure_bind]
  cases round.sent <;> rfl

end

/-- On a connection of the client, the server answers every message of the session with the same
error and changes nothing. -/
theorem serveSocket_fromClient (access : StorageSocketAccess σ) (rounds : List (Round σ))
    (hrounds : ∀ round ∈ rounds, round.FromClient) (world : ω) :
    ∃ n, SessionLength access rounds n ∧ (serveSocket executeSession access rounds).run world =
      (List.replicate n (.error .invalidRequest), world) := by
  induction rounds generalizing access with
  | nil => exact ⟨0, ⟨by simp, by simp, by simp [Handled]⟩, rfl⟩
  | cons round rounds ih =>
    rw [List.forall_mem_cons] at hrounds
    by_cases hhandled : Handled access (round :: rounds) 0
    swap
    · refine ⟨0, ⟨by simp, by simp, fun h => absurd h hhandled⟩, ?_⟩
      rw [serveSocket_of_not_handled executeSession hhandled]
      rfl
    obtain ⟨granted, hok, hrun⟩ :=
      run_serveSocket_of_handled executeSession hrounds.1 hhandled world
    rw [hrun]
    cases hsent : round.sent with
    | false =>
      refine ⟨1, ⟨?_, by simp, fun _ => ⟨0, round, rfl, rfl, hsent⟩⟩, rfl⟩
      simpa using hhandled
    | true =>
      obtain ⟨n, hlength, hn⟩ := ih granted hrounds.2
      refine ⟨n + 1, ⟨fun i hi => ?_, fun i hi => ?_, fun hend => ?_⟩, by rw [hn]; rfl⟩
      · cases i with
        | zero => exact hhandled
        | succ i => exact (handled_succ_iff hok i).mpr (hlength.handled i (by omega))
      · cases i with
        | zero => exact ⟨round, rfl, hsent⟩
        | succ i => exact hlength.sent i (by omega)
      · obtain ⟨i, last, rfl, hlast⟩ := hlength.ended ((handled_succ_iff hok n).mp hend)
        exact ⟨i + 1, last, rfl, hlast⟩

end

/-- A round at some time, with an authorization until time 9. -/
def clientRound (now : ℤ) (request : ClientRequest) : Round Unit :=
  ⟨now, some (.text (socketFrame request)), .ok ⟨true, true, 9, ()⟩, now, true⟩

/-- Two requests before the token runs out, and one after it. -/
def clientRounds : List (Round Unit) :=
  [clientRound 0 (.read "a"), clientRound 1 (.write "a" [1, 2]), clientRound 9 (.read "a")]

/-- A read and a write are answered with errors; then the authorization has expired. The executor
would count the requests. -/
theorem serveSocket_fromClient_read :
    SessionLength ⟨true, true, 9, ()⟩ clientRounds 2 ∧
      (serveSocket (fun _ _ => modifyGet fun count => (.deleted, count + 1)) ⟨true, true, 9, ()⟩
        clientRounds).run 0 = (.replicate 2 (.error .invalidRequest), 0) := by
  obtain ⟨n, hlength, hrun⟩ := serveSocket_fromClient
    (fun _ _ => modifyGet fun count => (.deleted, count + 1)) ⟨true, true, 9, ()⟩ clientRounds
    (by simp [Round.FromClient, clientRounds, clientRound]) 0
  have hfirst : Handled ⟨true, true, 9, ()⟩ clientRounds 0 :=
    ⟨_, _, _, _, rfl, rfl, by decide, rfl, rfl, by decide⟩
  have hsecond : Handled ⟨true, true, 9, ()⟩ clientRounds 1 :=
    ⟨_, _, _, _, rfl, rfl, by decide, rfl, rfl, by decide⟩
  have hthird : ¬Handled ⟨true, true, 9, ()⟩ clientRounds 2 := by
    rintro ⟨_, _, _, _, hround, hcurrent, hstart, -⟩
    cases hround
    cases hcurrent
    exact absurd hstart (by decide)
  obtain rfl : n = 2 := by
    match n, hlength with
    | 0, hlength =>
      obtain ⟨_, _, hlast, -⟩ := hlength.ended hfirst
      cases hlast
    | 1, hlength =>
      obtain ⟨_, _, hlast, hround, hsent⟩ := hlength.ended hsecond
      cases hlast
      cases hround
      cases hsent
    | 2, _ => rfl
    | n + 3, hlength => exact absurd (hlength.handled 2 (by omega)) hthird
  exact ⟨hlength, hrun⟩

/-- For every request of the client: the frame that `StorageSocket.request` sends is decoded to
nothing and answered with `invalidRequest` without any effect, in whatever session and with
whatever access, whereas the request without its wrapper would be decoded to the request meant. -/
theorem socketFrame_refused {σ ω : Type}
    (executeSession : σ → StorageRequest → StateM ω StorageResponse) (r : ClientRequest) :
    decodeRequest (socketFrame r) = none ∧
      (∀ access world, (answer executeSession access (socketFrame r)).run world =
        (.error .invalidRequest, world)) ∧
      decodeRequest (Json.stringify r.toJson) = some r.request := by
  refine ⟨decodeRequest_socketFrame r, fun access world => ?_, ?_⟩
  · rw [answer_socketFrame]
    rfl
  · rw [decodeRequest_stringify (withinLimits_toJson r 125), fromJson_toJson]

/-- A read of `notes.txt` with full access is refused. -/
theorem read_frame_refused :
    socketFrame (.read "notes.txt") =
        "\x7b\"type\":\"request\",\"request\":\x7b\"type\":\"read\",\"path\":\"notes.txt\"\x7d\x7d" ∧
      decodeRequest (socketFrame (.read "notes.txt")) = none ∧
      (answer (fun _ _ => pure (.read [])) ⟨true, true, 3600, ()⟩
        (socketFrame (.read "notes.txt"))).run () = (.error .invalidRequest, ()) := by
  refine ⟨by decide +kernel, by decide +kernel, ?_⟩
  rw [answer_socketFrame]
  rfl

end LocalPlatform.Storage
