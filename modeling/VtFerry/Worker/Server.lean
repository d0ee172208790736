import VtFerry.Foundation.FramedStream
import VtFerry.Protocol.Message

/-!
# The worker's connection loop

`handle_connection` owns one backend and serves one stream: it reads a request
header, hangs up if the announced payload is larger than its storage, reads
the payload, dispatches the request and writes the reply header and the reply
payload.  Each read and write is a step of its own, so that a stream may split
a message anywhere and fail at any point.  The backend is a parameter, as it
is in the source.
-/

namespace VtFerry

open FramedStream

def transportStorageCapacity : Nat :=
  2 * 1024 * 1024

/-- What `dispatch` leaves: the status in the reply header, and `Ok` with the
bytes it wrote into the response buffer or `Err`. -/
structure Dispatched where
  status : UInt32
  output : Option (List UInt8)
  fits : ∀ bytes, output = some bytes → bytes.length ≤ transportStorageCapacity

/-- The trait `Backend`.  A choice stands for everything outside the backend
that a dispatch depends on: the host's frameworks, encoder callbacks that ran
before it, and state shared with other connections. -/
structure Backend (State Choice : Type) where
  dispatch : Choice → MessageHeader → List UInt8 → State → State × Dispatched

structure Reply where
  status : UInt32
  payload : List UInt8
  deriving DecidableEq, Repr

namespace Dispatched

/-- An error reply has no payload and never carries the status `STATUS_OK`. -/
def reply (dispatched : Dispatched) : Reply :=
  match dispatched.output with
  | some bytes => ⟨dispatched.status, bytes⟩
  | none =>
    ⟨if dispatched.status = 0 then Status.unsupportedOpcode
      else dispatched.status, []⟩

theorem length_reply_le (dispatched : Dispatched) :
    dispatched.reply.payload.length ≤ transportStorageCapacity := by
  unfold reply
  split
  next bytes output => exact dispatched.fits bytes output
  · exact Nat.zero_le _

end Dispatched

namespace Server

/-- `handle_connection` closes the stream on an oversized request. -/
def requestFraming : Framing UInt8 MessageHeader where
  headerSize := MessageHeader.size
  decode := MessageHeader.read
  payloadLength header := header.payloadLen.toNat
  accepts header := header.payloadLen.toNat ≤ transportStorageCapacity

def replyHeader (request : MessageHeader) (reply : Reply) : MessageHeader where
  version := 1
  opcode := request.opcode
  flags := 0
  requestId := request.requestId
  payloadLen := UInt32.ofNat reply.payload.length
  status := reply.status

/-- One request the backend has dispatched, and the state it was in. -/
structure ServedRequest {State Choice : Type} (backend : Backend State Choice)
    where
  choice : Choice
  before : State
  header : MessageHeader
  payload : List UInt8

def ServedRequest.dispatched {State Choice : Type}
    {backend : Backend State Choice} (request : ServedRequest backend) :
    Dispatched :=
  (backend.dispatch request.choice request.header request.payload request.before).2

inductive Phase where
  | reading (reader : Reader UInt8 MessageHeader)
  | replying (writer : Writer UInt8)
  | closed

end Server

/-- The thread of one accepted connection and the requests it has served. -/
structure Server {State Choice : Type} (backend : Backend State Choice) where
  phase : Server.Phase
  state : State
  served : List (Server.ServedRequest backend)

namespace Server

variable {State Choice : Type} {backend : Backend State Choice}

/-- `handle_connection` with the backend the factory created. -/
def accepted (state : State) : Server backend where
  phase := .reading .start
  state := state
  served := []

/-- The phase after a read; a refused request closes the stream. -/
def afterRead : Reader UInt8 MessageHeader → Phase
  | .refused => .closed
  | reader => .reading reader

/-- The phase after a write; after the last one the loop starts again. -/
def afterWrite : Writer UInt8 → Phase
  | .done => .reading .start
  | writer => .replying writer

/-- One `read` of the request header or of the request payload. -/
def reads (count : Nat) (channel : List UInt8) (server : Server backend) :
    Server backend × List UInt8 :=
  match server.phase with
  | .reading reader =>
    let received := requestFraming.receive count channel reader
    ({ server with phase := afterRead received.1 }, received.2)
  | _ => (server, channel)

def dispatches (choice : Choice) (server : Server backend) : Server backend :=
  match server.phase with
  | .reading (.complete header payload) =>
    let result := backend.dispatch choice header payload server.state
    let reply := result.2.reply
    { phase := .replying
        (.inHeader (replyHeader header reply).bytes reply.payload)
      state := result.1
      served := server.served ++ [⟨choice, server.state, header, payload⟩] }
  | _ => server

/-- One `write` of the reply header or of the reply payload. -/
def writes (count : Nat) (channel : List UInt8) (server : Server backend) :
    Server backend × List UInt8 :=
  match server.phase with
  | .replying writer =>
    let sent := writer.send count channel
    ({ server with phase := afterWrite sent.1 }, sent.2)
  | _ => (server, channel)

/-- A failed read or write ends the loop. -/
def fails (server : Server backend) : Server backend :=
  { server with phase := .closed }

end Server

end VtFerry
