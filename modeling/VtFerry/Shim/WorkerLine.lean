import VtFerry.Shim.RequestSizes
import VtFerry.Shim.Transport

/-!
# Requests over a connection of the worker

A caller of `send_request_bytes` that is alone on its connection, seen a whole
message at a time: the request's header and payload are read by the connection
thread, dispatched, and the reply's header and payload are written and read
back.  Between two requests the thread waits for the next one, unless a
request was too large and it hung up.
-/

namespace VtFerry

open FramedStream

namespace Server

variable {State Choice : Type} {worker : Backend State Choice}

/-- One request and its reply, with every header and payload moved at once. -/
def roundTrip (choice : Choice) (requestId : UInt64) (request : Request)
    (server : Server worker) : Server worker × Transport.Outcome :=
  let headed := server.reads MessageHeader.size
    ((request.header requestId).bytes ++ request.payload)
  let complete := headed.1.reads transportStorageCapacity headed.2
  let dispatched := complete.1.dispatches choice
  let replying := dispatched.writes MessageHeader.size []
  let replied := replying.1.writes transportStorageCapacity replying.2
  let header := Transport.replyFraming.receive MessageHeader.size replied.2 .start
  let reply := Transport.replyFraming.receive transportStorageCapacity header.2 header.1
  match reply.1 with
  | .complete header payload =>
    (replied.1, .ofReply ⟨header.status, payload⟩)
  | _ => (replied.1, .ioError)

def Idle (server : Server worker) : Prop :=
  server.phase = .reading .start

/-- The thread after it has served a request. -/
def afterRequest (choice : Choice) (header : MessageHeader)
    (payload : List UInt8) (server : Server worker) : Server worker where
  phase := .reading .start
  state := (worker.dispatch choice header payload server.state).1
  served := server.served ++ [⟨choice, server.state, header, payload⟩]

theorem afterRead_accepted {header : MessageHeader}
    (accepted : requestFraming.accepts header = true) :
    afterRead (requestFraming.afterHeader header) =
      .reading (requestFraming.afterHeader header) := by
  unfold Framing.afterHeader
  rw [if_pos accepted]
  split
  · rfl
  · rfl

variable {request : Request}

theorem reads_request (requestId : UInt64) {server : Server worker} (idle : server.Idle)
    (small : request.payload.length ≤ transportStorageCapacity) :
    let headed := server.reads MessageHeader.size
      ((request.header requestId).bytes ++ request.payload)
    headed.1.reads transportStorageCapacity headed.2 =
      ({ server with
          phase := .reading (.complete (request.header requestId) request.payload) }, []) := by
  have announced : (request.header requestId).payloadLen.toNat =
      request.payload.length :=
    Request.header_payloadLen requestId (Nat.lt_of_le_of_lt small (by decide))
  have accepted : requestFraming.accepts (request.header requestId) = true :=
    decide_eq_true (announced.le.trans small)
  have length : (request.header requestId).bytes.length =
      requestFraming.headerSize := (request.header requestId).length_bytes
  have header : requestFraming.receive MessageHeader.size
      ((request.header requestId).bytes ++ request.payload) .start =
        (requestFraming.afterHeader (MessageHeader.read
          (request.header requestId).bytes), request.payload) :=
    receive_header length
  rw [MessageHeader.read_bytes] at header
  have first : server.reads MessageHeader.size
      ((request.header requestId).bytes ++ request.payload) =
        ({ server with
            phase := .reading (requestFraming.afterHeader
              (request.header requestId)) }, request.payload) := by
    unfold reads
    rw [idle]
    dsimp only
    rw [header, afterRead_accepted accepted]
  have payload : requestFraming.receive transportStorageCapacity
      request.payload (requestFraming.afterHeader (request.header requestId)) =
        (.complete (request.header requestId) request.payload, []) :=
    receive_payload announced accepted small
  intro headed
  change (server.reads MessageHeader.size _).1.reads _ (server.reads MessageHeader.size _).2 = _
  rw [first]
  unfold reads
  dsimp only
  rw [payload]
  rfl

theorem writes_reply {header payload : List UInt8} {server : Server worker}
    (replying : server.phase = .replying (.inHeader header payload))
    (length : header.length = MessageHeader.size)
    (small : payload.length ≤ transportStorageCapacity) :
    let headed := server.writes MessageHeader.size []
    headed.1.writes transportStorageCapacity headed.2 =
      ({ server with phase := .reading .start }, header ++ payload) := by
  have first : server.writes MessageHeader.size [] =
      ({ server with phase := afterWrite (Writer.afterHeader payload) }, header) := by
    unfold writes
    rw [replying]
    dsimp only
    rw [Writer.send_header (Nat.le_of_eq length), List.nil_append]
  intro headed
  change (server.writes MessageHeader.size []).1.writes _
    (server.writes MessageHeader.size []).2 = _
  rw [first]
  have last : (Writer.afterHeader payload).send transportStorageCapacity
      header = (.done, header ++ payload) :=
    Writer.send_payload small header
  cases payload with
  | nil => rw [List.append_nil]; rfl
  | cons byte payload =>
    have busy : Writer.afterHeader (byte :: payload) = .inPayload (byte :: payload) := rfl
    rw [busy] at last ⊢
    unfold writes
    dsimp only [afterWrite]
    rw [last]

theorem receive_reply (request : MessageHeader) {reply : Reply}
    (small : reply.payload.length ≤ transportStorageCapacity) :
    let headed := Transport.replyFraming.receive MessageHeader.size
      ((replyHeader request reply).bytes ++ reply.payload) .start
    (Transport.replyFraming.receive transportStorageCapacity headed.2
      headed.1).1 = .complete (replyHeader request reply) reply.payload := by
  have length : (replyHeader request reply).bytes.length =
      Transport.replyFraming.headerSize :=
    (replyHeader request reply).length_bytes
  have header : Transport.replyFraming.receive MessageHeader.size
      ((replyHeader request reply).bytes ++ reply.payload) .start =
        (Transport.replyFraming.afterHeader (MessageHeader.read
          (replyHeader request reply).bytes), reply.payload) :=
    receive_header length
  rw [MessageHeader.read_bytes] at header
  have announced : Transport.replyFraming.payloadLength
      (replyHeader request reply) = reply.payload.length := by
    change (UInt32.ofNat reply.payload.length).toNat = _
    rw [UInt32.toNat_ofNat']
    exact Nat.mod_eq_of_lt (Nat.lt_of_le_of_lt small (by decide))
  intro headed
  change (Transport.replyFraming.receive _ (Transport.replyFraming.receive MessageHeader.size _ _).2
    (Transport.replyFraming.receive MessageHeader.size _ _).1).1 = _
  rw [header]
  exact congrArg Prod.fst (receive_payload announced rfl small)

/-- A request that is not too large is dispatched, and the caller gets the
reply. -/
theorem roundTrip_eq {server : Server worker} (idle : server.Idle) (choice : Choice)
    (requestId : UInt64) (small : request.payload.length ≤ transportStorageCapacity) :
    server.roundTrip choice requestId request =
      (server.afterRequest choice (request.header requestId) request.payload,
        .ofReply (worker.dispatch choice (request.header requestId)
          request.payload server.state).2.reply) := by
  have asked := reads_request requestId idle small
  have small_reply := (worker.dispatch choice (request.header requestId)
    request.payload server.state).2.length_reply_le
  have phase : (dispatches choice { server with
      phase := .reading (.complete (request.header requestId)
        request.payload) }).phase = .replying (.inHeader
          (replyHeader (request.header requestId) (worker.dispatch choice
            (request.header requestId) request.payload
            server.state).2.reply).bytes
          (worker.dispatch choice (request.header requestId) request.payload
            server.state).2.reply.payload) := rfl
  have replied := writes_reply phase (MessageHeader.length_bytes _) small_reply
  have read := receive_reply (request.header requestId) small_reply
  unfold roundTrip
  dsimp only at asked replied read ⊢
  rw [asked]
  dsimp only
  rw [replied]
  dsimp only
  rw [read]
  rfl

end Server

namespace Shim

variable {State Choice : Type} {worker : Backend State Choice}

/-- A connection and the client's end of it: the id of the next request and
how many there were. -/
structure Line (worker : Backend State Choice) where
  server : Server worker
  requestId : UInt64
  turn : Nat

namespace Line

/-- `send_request_bytes`, where the worker's surroundings make the given
choices. -/
def send (choices : Nat → Choice) : Send (Line worker) := fun line request =>
  let result := line.server.roundTrip (choices line.turn) line.requestId request
  ({ server := result.1
     requestId := line.requestId + 1
     turn := line.turn + 1 },
    result.2.result)

def dispatched (choices : Nat → Choice) (line : Line worker)
    (request : Request) : State × Dispatched :=
  worker.dispatch (choices line.turn) (request.header line.requestId)
    request.payload line.server.state

def answered (choices : Nat → Choice) (line : Line worker) (request : Request) : Line worker where
  server := line.server.afterRequest (choices line.turn)
    (request.header line.requestId) request.payload
  requestId := line.requestId + 1
  turn := line.turn + 1

theorem send_eq (choices : Nat → Choice) {line : Line worker} (idle : line.server.Idle)
    (small : request.payload.length ≤ transportStorageCapacity) :
    send choices line request = (line.answered choices request, (Transport.Outcome.ofReply
          (line.dispatched choices request).2.reply).result) := by
  unfold send
  rw [Server.roundTrip_eq idle _ _ small]
  rfl

theorem send_of_output (choices : Nat → Choice) {line : Line worker} (idle : line.server.Idle)
    (small : request.payload.length ≤ transportStorageCapacity)
    (accepted : (line.dispatched choices request).2.status = Status.ok) {bytes : List UInt8}
    (output : (line.dispatched choices request).2.output = some bytes) :
    send choices line request = (line.answered choices request, .ok bytes) := by
  have reply : (line.dispatched choices request).2.reply = ⟨Status.ok, bytes⟩ := by
    unfold Dispatched.reply
    rw [output, accepted]
  rw [send_eq choices idle small, reply]
  rfl

/-- What the line served since an earlier state: each request and its reply
fit the worker's storage, and the worker waits for the next request. -/
structure Serves (earlier line : Line worker) : Prop where
  idle : line.server.Idle
  fitting : ∃ more, line.server.served = earlier.server.served ++ more ∧
    ∀ request ∈ more, request.payload.length ≤ transportStorageCapacity ∧
      ∃ bytes, request.dispatched.output = some bytes ∧ bytes.length ≤ transportStorageCapacity

theorem Serves.refl {line : Line worker} (idle : line.server.Idle) :
    Serves line line :=
  ⟨idle, [], (List.append_nil _).symm, fun _ member => nomatch member⟩

theorem Serves.answered {earlier line : Line worker} (serves : Serves earlier line)
    (choices : Nat → Choice) (small : request.payload.length ≤ transportStorageCapacity)
    {bytes : List UInt8} (output : (line.dispatched choices request).2.output = some bytes) :
    Serves earlier (line.answered choices request) := by
  obtain ⟨-, more, served, fitting⟩ := serves
  refine ⟨rfl, more ++ [⟨choices line.turn, line.server.state,
    request.header line.requestId, request.payload⟩], ?_, ?_⟩
  · rw [← List.append_assoc, ← served]
    rfl
  · intro other member
    rcases List.mem_append.mp member with before | now
    · exact fitting other before
    · obtain rfl := List.mem_singleton.mp now
      exact ⟨small, bytes, output, (line.dispatched choices request).2.fits bytes output⟩

end Line

end Shim

end VtFerry
