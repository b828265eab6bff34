import LocalPlatform.Lib.Json

/-!
# The storage socket

The requests that the client sends over a web socket, and the loop with which the storage server
answers them. Before every answer the server authorizes the token of the connection anew.
-/

namespace LocalPlatform.Storage

open Json (field)

/-! ## The client -/

/-- `StorageRequest` of the client. -/
inductive ClientRequest where
  | read (path : String)
  | write (path : String) (content : List UInt8)
  | append (path : String) (content : List UInt8)
  | delete (path : String)
  | entry (path : String)
  | list (path : String)
deriving DecidableEq, Repr

/-- The request as the object it is. -/
def ClientRequest.toJson : ClientRequest → Json
  | .read path => .object [("type", .string "read"), ("path", .string path)]
  | .write path content =>
    .object [("type", .string "write"), ("path", .string path),
      ("content", .array (content.map Json.ofByte))]
  | .append path content =>
    .object [("type", .string "append"), ("path", .string path),
      ("content", .array (content.map Json.ofByte))]
  | .delete path => .object [("type", .string "delete"), ("path", .string path)]
  | .entry path => .object [("type", .string "entry"), ("path", .string path)]
  | .list path => .object [("type", .string "list"), ("path", .string path)]

/-- The text that `StorageSocket.request` sends. -/
def socketFrame (request : ClientRequest) : String :=
  Json.stringify (.object [("type", .string "request"), ("request", request.toJson)])

/-! ## The requests of the server -/

/-- The operations a client may send. -/
inductive StorageRequest where
  | read (path : String)
  | write (path : String) (content : List UInt8)
  | append (path : String) (content : List UInt8)
  | delete (path : String)
  | createDir (path : String)
  | rename («from» «to» : String)
  | entry (path : String)
  | list (path : String)
deriving DecidableEq, Repr

/-- A member that has to be a text. -/
def textField (members : List (String × Json)) (name : String) : Option String := do
  (← field members name).asString

/-- A member that has to be a list of bytes. -/
def bytesField (members : List (String × Json)) (name : String) : Option (List UInt8) := do
  Json.asList Json.asByte (← field members name)

/-- The fields of a variant, by their names. -/
def StorageRequest.fromMembers (type : String) (members : List (String × Json)) :
    Option StorageRequest := do
  if type = "read" then pure (.read (← textField members "path"))
  else if type = "write" then
    pure (.write (← textField members "path") (← bytesField members "content"))
  else if type = "append" then
    pure (.append (← textField members "path") (← bytesField members "content"))
  else if type = "delete" then pure (.delete (← textField members "path"))
  else if type = "createDir" then pure (.createDir (← textField members "path"))
  else if type = "rename" then
    pure (.rename (← textField members "from") (← textField members "to"))
  else if type = "entry" then pure (.entry (← textField members "path"))
  else if type = "list" then pure (.list (← textField members "path"))
  else none

/-- The names of the fields of a variant in their order. -/
def StorageRequest.fieldNames (type : String) : List String :=
  if type = "write" ∨ type = "append" then ["path", "content"]
  else if type = "rename" then ["from", "to"]
  else ["path"]

/-- The member `type` tells the variant, the others are its fields. A derived decoder also takes a
sequence, with the variant first and then its fields in their order. -/
def StorageRequest.fromJson : Json → Option StorageRequest
  | .object members => do
    let type ← textField members "type"
    fromMembers type members
  | .array (.string type :: items) =>
    if items.length = (fieldNames type).length then fromMembers type ((fieldNames type).zip items)
    else none
  | _ => none

/-- `serde_json::from_str::<StorageRequest>`, which refuses 128 nested values. -/
def decodeRequest (message : String) : Option StorageRequest := do
  let json ← Json.parse message
  if json.withinLimits 127 then StorageRequest.fromJson json else none

/-- A file or directory. -/
structure StorageEntry where
  name : String
  hash : String
  size : UInt64
  «local» : Bool
deriving DecidableEq, Repr

/-- The error codes a client sees. -/
inductive StorageErrorCode where
  | invalidRequest
  | operationFailed
deriving DecidableEq, Repr

/-- The answers to the operations. -/
inductive StorageResponse where
  | authenticated
  | read (content : List UInt8)
  | written (entry : StorageEntry)
  | appended (entry : StorageEntry)
  | deleted
  | directoryCreated (entry : StorageEntry)
  | renamed
  | entry (entry : StorageEntry)
  | listed (entries : List StorageEntry)
  | error (code : StorageErrorCode)
deriving DecidableEq, Repr

/-! ## The loop -/

/-- Why a socket is not authorized. -/
inductive StorageSocketAuthorizationError where
  | invalidToken
  | serviceUnavailable
deriving DecidableEq, Repr

/-- What a token allows on a socket, until when, and the session it opens. -/
structure StorageSocketAccess (σ : Type) where
  read : Bool
  write : Bool
  expiresAt : ℤ
  session : σ

/-- A message of the socket; only texts are read. -/
inductive Message where
  | text (message : String)
  | other
deriving DecidableEq, Repr

/-- What the loop meets in one round: the time at its start, the next message unless the connection
is lost, the outcome of the authorization and the time after it, and whether the answer can be
sent. -/
structure Round (σ : Type) where
  startedAt : ℤ
  received : Option Message
  authorization : Except StorageSocketAuthorizationError (StorageSocketAccess σ)
  authorizedAt : ℤ
  sent : Bool

section
variable {σ ω : Type}

/-- Reading operations need read access, every other one write access. -/
def allows (access : StorageSocketAccess σ) : StorageRequest → Bool
  | .read _ | .entry _ | .list _ => access.read
  | .write _ _ | .append _ _ | .delete _ | .createDir _ | .rename _ _ => access.write

-- `execute_session` acts on what is stored
variable (executeSession : σ → StorageRequest → StateM ω StorageResponse)

/-- The answer to one message. -/
def answer (access : StorageSocketAccess σ) (message : String) : StateM ω StorageResponse :=
  match decodeRequest message with
  | some request =>
    if allows access request then executeSession access.session request
    else pure (.error .operationFailed)
  | none => pure (.error .invalidRequest)

/-- The answers of `serve_socket` until it returns, for the rounds that it goes through. -/
def serveSocket (access : StorageSocketAccess σ) :
    List (Round σ) → StateM ω (List StorageResponse)
  | [] => pure []
  | round :: rounds =>
    if access.expiresAt ≤ round.startedAt then pure []
    else
      match round.received, round.authorization with
      | some (.text message), .ok access =>
        if round.authorizedAt < access.expiresAt then do
          let response ← answer executeSession access message
          let responses ← if round.sent then serveSocket access rounds else pure []
          pure (response :: responses)
        else pure []
      | _, _ => pure []

end

/-! ## The loop with everything it does -/

/-- The calls of the loop in their order, with what they return. -/
inductive SocketEvent (σ : Type) where
  | clock (now : ℤ)
  | received (message : Option Message)
  | authorized (outcome : Except StorageSocketAuthorizationError (StorageSocketAccess σ))
  | executed (session : σ) (request : StorageRequest) (response : StorageResponse)
  | answered (response : StorageResponse)

section
variable {σ ω : Type} (executeSession : σ → StorageRequest → StateM ω StorageResponse)

/-- The answer to one message, with the execution if there is one. -/
def traceAnswer (access : StorageSocketAccess σ) (message : String) :
    StateM ω (List (SocketEvent σ) × StorageResponse) :=
  match decodeRequest message with
  | some request =>
    if allows access request then do
      let response ← executeSession access.session request
      pure ([.executed access.session request response], response)
    else pure ([], .error .operationFailed)
  | none => pure ([], .error .invalidRequest)

/-- One round of `serve_socket`: what it does, and the access with which the loop goes on, unless
it returns. -/
def traceRound (access : StorageSocketAccess σ) (round : Round σ) :
    StateM ω (List (SocketEvent σ) × Option (StorageSocketAccess σ)) :=
  if access.expiresAt ≤ round.startedAt then pure ([.clock round.startedAt], none)
  else
    match round.received with
    | some (.text message) =>
      match round.authorization with
      | .ok access =>
        if round.authorizedAt < access.expiresAt then do
          let (executions, response) ← traceAnswer executeSession access message
          pure ([.clock round.startedAt, .received (some (.text message)), .authorized (.ok access),
              .clock round.authorizedAt] ++ executions ++ [.answered response],
            if round.sent then some access else none)
        else pure ([.clock round.startedAt, .received (some (.text message)),
          .authorized (.ok access), .clock round.authorizedAt], none)
      | .error e => pure ([.clock round.startedAt, .received (some (.text message)),
          .authorized (.error e)], none)
    | received => pure ([.clock round.startedAt, .received received], none)

/-- Everything that `serve_socket` does until it returns. -/
def traceSocket (access : StorageSocketAccess σ) :
    List (Round σ) → StateM ω (List (SocketEvent σ))
  | [] => pure []
  | round :: rounds => do
    let (events, next) ← traceRound executeSession access round
    match next with
    | some access => do
      let rest ← traceSocket access rounds
      pure (events ++ rest)
    | none => pure events

end

/-- The answers among the events. -/
def SocketEvent.response? {σ : Type} : SocketEvent σ → Option StorageResponse
  | .answered response => some response
  | .clock _ | .received _ | .authorized _ | .executed _ _ _ => none

end LocalPlatform.Storage
