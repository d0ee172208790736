import VtFerry.Worker.Server

/-!
# The guest's transport

Every call of the shim goes through `send_request_bytes`, which holds the
global lock from opening the connection to dropping a poisoned one.  The
heartbeat thread takes the same lock for a probe.  The steps of a call that
can block or fail (each `write` and `read` of `send_request_dynamic`) are
events of their own, interleaved with the steps of the worker's connection
thread; the two streams between them keep bytes in order.
-/

namespace VtFerry

open FramedStream

namespace Transport

/-- A request a caller passes to `send_request_bytes`, with a payload the
worker accepts. -/
structure Call where
  opcode : UInt16
  payload : List UInt8
  accepted : payload.length ≤ transportStorageCapacity

def Call.ping : Call :=
  ⟨Opcode.ping.code, [], Nat.zero_le _⟩

inductive Party where
  | caller (thread : Nat)
  | heartbeat
  deriving DecidableEq, Repr

/-- How a call ends.  `ioError` and `noBackend` are errors of the transport
itself. -/
inductive Outcome where
  | payload (bytes : List UInt8)
  | status (code : UInt32)
  | ioError
  | noBackend
  deriving DecidableEq, Repr

/-- The `Result` a caller sees. -/
def Outcome.result : Outcome → Except Int32 (List UInt8)
  | .payload bytes => .ok bytes
  | .status code => .error code.toInt32
  | .ioError => .error Status.internalFailure.toInt32
  | .noBackend => .error (-12902)

def Outcome.ofReply (reply : Reply) : Outcome :=
  if reply.status = Status.ok then .payload reply.payload
  else .status reply.status

/-- `StreamBackend` without its stream, which is the system's link. -/
structure StreamBackend where
  requestId : UInt64
  poisoned : Bool
  deriving DecidableEq, Repr

def StreamBackend.wrap : StreamBackend :=
  ⟨1, false⟩

/-- `send_request_dynamic` reads any reply. -/
def replyFraming : Framing UInt8 MessageHeader where
  headerSize := MessageHeader.size
  decode := MessageHeader.read
  payloadLength header := header.payloadLen.toNat
  accepts _ := true

def Call.header (call : Call) (requestId : UInt64) : MessageHeader where
  version := transportVersion
  opcode := call.opcode
  flags := 0
  requestId := requestId
  payloadLen := UInt32.ofNat call.payload.length
  status := 0

inductive Phase where
  | writing (writer : Writer UInt8)
  | reading (reader : Reader UInt8 MessageHeader)
  | returning (outcome : Outcome)

/-- The call that holds the lock. -/
structure Exchange where
  party : Party
  call : Call
  requestId : UInt64
  phase : Phase

/-- A call that has returned; a call that found no backend was given no
request id, and 0 stands for it. -/
structure Answer where
  party : Party
  call : Call
  requestId : UInt64
  outcome : Outcome

/-- What the client does to connections. -/
inductive Action where
  | opens
  | writes (bytes : List UInt8)
  | reads (bytes : List UInt8)
  | fails
  deriving DecidableEq, Repr

/-- A connection: the bytes in transit and the worker's end. -/
structure Link {State Choice : Type} (worker : Backend State Choice) where
  toServer : List UInt8
  toClient : List UInt8
  server : Server worker

namespace Link

variable {State Choice : Type} {worker : Backend State Choice}

def opened (state : State) : Link worker where
  toServer := []
  toClient := []
  server := .accepted state

def serverReads (count : Nat) (link : Link worker) : Link worker :=
  let result := link.server.reads count link.toServer
  { link with server := result.1, toServer := result.2 }

def serverDispatches (choice : Choice) (link : Link worker) : Link worker :=
  { link with server := link.server.dispatches choice }

def serverWrites (count : Nat) (link : Link worker) : Link worker :=
  let result := link.server.writes count link.toClient
  { link with server := result.1, toClient := result.2 }

def serverFails (link : Link worker) : Link worker :=
  { link with server := link.server.fails }

end Link

end Transport

open Transport

/-- The guest process's transport and the connection it has opened last.
`actions`, `failed` and `answers` record the history. -/
structure TransportSystem {State Choice : Type} (worker : Backend State Choice)
    where
  backend : Option StreamBackend
  killed : Bool
  holder : Option Exchange
  link : Option (Link worker)
  actions : List Action
  failed : Bool
  answers : List Answer

/-- The steps of the system.  A call carries the outcome of the connection
attempt it may make: the state of the accepting worker's backend, or a
failure. -/
inductive TransportEvent (State Choice : Type) where
  | call (thread : Nat) (call : Call) (connects : Option State)
  | heartbeat (stale : Bool)
  | clientWrites (count : Nat)
  | clientReads (count : Nat)
  | clientFails
  | finish
  | serverReads (count : Nat)
  | serverDispatches (choice : Choice)
  | serverWrites (count : Nat)
  | serverFails

namespace TransportSystem

variable {State Choice : Type} {worker : Backend State Choice}

def started : TransportSystem worker where
  backend := none
  killed := false
  holder := none
  link := none
  actions := []
  failed := false
  answers := []

def ensureBackend (connects : Option State)
    (system : TransportSystem worker) : TransportSystem worker :=
  match system.backend, system.killed, connects with
  | none, false, some state =>
    { system with
      backend := some .wrap
      link := some (.opened state)
      actions := system.actions ++ [.opens] }
  | _, _, _ => system

/-- The start of `send_request_dynamic`: the request has its id and its header,
and nothing is written yet. -/
def beginExchange (party : Party) (call : Call) (backend : StreamBackend)
    (system : TransportSystem worker) : TransportSystem worker :=
  { system with
    backend := some { backend with requestId := backend.requestId + 1 }
    holder := some
      { party := party
        call := call
        requestId := backend.requestId
        phase := .writing (.inHeader (call.header backend.requestId).bytes call.payload) } }

/-- `send_request_bytes` once it has the lock. -/
def sendRequestBytes (thread : Nat) (call : Call) (connects : Option State)
    (system : TransportSystem worker) : TransportSystem worker :=
  let ensured := system.ensureBackend connects
  match ensured.backend with
  | some backend => ensured.beginExchange (.caller thread) call backend
  | none =>
    { ensured with
      answers := ensured.answers ++ [⟨.caller thread, call, 0, .noBackend⟩] }

/-- One round of `heartbeat_loop`: it probes a backend that is not poisoned
and has been quiet for too long. -/
def heartbeatRound (stale : Bool) (system : TransportSystem worker) :
    TransportSystem worker :=
  match system.backend with
  | some backend =>
    if !backend.poisoned && stale then
      system.beginExchange .heartbeat .ping backend
    else system
  | none => system

def afterWrite : Writer UInt8 → Phase
  | .done => .reading .start
  | writer => .writing writer

def afterRead : Reader UInt8 MessageHeader → Phase
  | .complete header payload =>
    .returning (.ofReply ⟨header.status, payload⟩)
  | reader => .reading reader

def clientWrites (count : Nat) (system : TransportSystem worker) :
    TransportSystem worker :=
  match system.holder, system.link with
  | some exchange, some link =>
    match exchange.phase with
    | .writing writer =>
      let sent := writer.send count link.toServer
      { system with
        holder := some { exchange with phase := afterWrite sent.1 }
        link := some { link with toServer := sent.2 }
        actions := system.actions ++ [.writes (sent.2.drop link.toServer.length)] }
    | _ => system
  | _, _ => system

def clientReads (count : Nat) (system : TransportSystem worker) :
    TransportSystem worker :=
  match system.holder, system.link with
  | some exchange, some link =>
    match exchange.phase with
    | .reading reader =>
      let received := replyFraming.receive count link.toClient reader
      { system with
        holder := some { exchange with phase := afterRead received.1 }
        link := some { link with toClient := received.2 }
        actions := system.actions ++ [.reads (link.toClient.take
            (link.toClient.length - received.2.length))] }
    | _ => system
  | _, _ => system

/-- A write or read of the call fails: the backend is poisoned and the call
goes on to return the error. -/
def failExchange (exchange : Exchange) (system : TransportSystem worker) :
    TransportSystem worker :=
  { system with
    backend := system.backend.map fun backend =>
      { backend with poisoned := true }
    holder := some { exchange with phase := .returning .ioError }
    actions := system.actions ++ [.fails]
    failed := true }

def clientFails (system : TransportSystem worker) :
    TransportSystem worker :=
  match system.holder with
  | some exchange =>
    match exchange.phase with
    | .returning _ => system
    | _ => system.failExchange exchange
  | none => system

/-- The end of `send_request_bytes` and of a probe: a poisoned backend is
dropped and the transport marked killed before the lock is released. -/
def finish (system : TransportSystem worker) :
    TransportSystem worker :=
  match system.holder with
  | some exchange =>
    match exchange.phase with
    | .returning outcome =>
      let answered :=
        { system with
          holder := none
          answers := system.answers ++
            [⟨exchange.party, exchange.call, exchange.requestId, outcome⟩] }
      if (system.backend.map (·.poisoned)).getD false then
        { answered with backend := none, killed := true }
      else answered
    | _ => system
  | none => system

/-- A step of the worker's end of the connection. -/
def onLink (serve : Link worker → Link worker)
    (system : TransportSystem worker) : TransportSystem worker :=
  { system with link := system.link.map serve }

/-- A caller waits while another thread holds the lock. -/
def step (system : TransportSystem worker) :
    TransportEvent State Choice → TransportSystem worker
  | .call thread call connects =>
    if system.holder.isNone then system.sendRequestBytes thread call connects
    else system
  | .heartbeat stale =>
    if system.holder.isNone then system.heartbeatRound stale else system
  | .clientWrites count => system.clientWrites count
  | .clientReads count => system.clientReads count
  | .clientFails => system.clientFails
  | .finish => system.finish
  | .serverReads count => system.onLink (Link.serverReads count)
  | .serverDispatches choice =>
    system.onLink (Link.serverDispatches choice)
  | .serverWrites count => system.onLink (Link.serverWrites count)
  | .serverFails => system.onLink Link.serverFails

end TransportSystem

end VtFerry
