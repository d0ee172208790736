import VtFerry.Foundation.Execution
import VtFerry.Shim.Transport

/-!
# Replies belong to their requests

The client never compares request ids; it takes the next reply on the stream
for the reply to the request it has just written.  That this is right rests on
the lock and on poisoning: a request is written only on a connection on which
the previous exchange was completed.  `Stage` is the invariant of the two ends
of one connection: nothing is under way, a request is on its way to the
worker, its reply is on its way back, or the caller is about to return with
it.  After an I/O error the connection is never used again.
-/

namespace VtFerry

open FramedStream

namespace Transport

/-- An answered request: what was asked and how the call ends. -/
structure RoundTrip where
  requestId : UInt64
  opcode : UInt16
  payload : List UInt8
  outcome : Outcome
  deriving DecidableEq, Repr

/-- The call returns a payload or a status that came from the worker. -/
def Outcome.fromWorker : Outcome → Bool
  | .payload _ => true
  | .status _ => true
  | .ioError => false
  | .noBackend => false

theorem Outcome.ofReply_fromWorker (reply : Reply) : (ofReply reply).fromWorker = true := by
  unfold ofReply
  split <;> rfl

theorem Outcome.result_of_error {outcome : Outcome} (error : outcome.fromWorker = false) :
    ∃ code, outcome.result = .error code := by
  cases outcome with
  | payload bytes | status code => exact absurd error (by simp [fromWorker])
  | ioError => exact ⟨_, rfl⟩
  | noBackend => exact ⟨_, rfl⟩

/-- The round trip a returned call claims to have made. -/
def Answer.roundTrip? (answer : Answer) : Option RoundTrip :=
  if answer.outcome.fromWorker then
    some ⟨answer.requestId, answer.call.opcode, answer.call.payload, answer.outcome⟩
  else none

def Exchange.roundTrip (exchange : Exchange) (outcome : Outcome) : RoundTrip :=
  ⟨exchange.requestId, exchange.call.opcode, exchange.call.payload, outcome⟩

end Transport

/-- The request as the worker's dispatch saw it, with the reply it computed. -/
def Server.ServedRequest.roundTrip {State Choice : Type}
    {worker : Backend State Choice} (request : Server.ServedRequest worker) :
    Transport.RoundTrip :=
  ⟨request.header.requestId, request.header.opcode, request.payload,
    .ofReply request.dispatched.reply⟩

namespace Transport

variable {State Choice : Type} {worker : Backend State Choice}

def Link.roundTrips (link : Link worker) : List RoundTrip :=
  link.server.served.map Server.ServedRequest.roundTrip

/-! ## The messages on the stream -/

theorem toNat_payloadLen {length : Nat} (fits : length ≤ transportStorageCapacity) :
    (UInt32.ofNat length).toNat = length := by
  have capacity : transportStorageCapacity < UInt32.size := by decide
  exact UInt32.toNat_ofNat_of_lt' (Nat.lt_of_le_of_lt fits capacity)

def Exchange.request (exchange : Exchange) : Server.requestFraming.Message where
  head := (exchange.call.header exchange.requestId).bytes
  payload := exchange.call.payload
  length_head := MessageHeader.length_bytes _
  length_payload := by
    simp only [Server.requestFraming, MessageHeader.read_bytes]
    exact toNat_payloadLen exchange.call.accepted

theorem Exchange.request_header (exchange : Exchange) :
    exchange.request.header = exchange.call.header exchange.requestId :=
  MessageHeader.read_bytes _

def replyMessage (request : Server.ServedRequest worker) :
    replyFraming.Message where
  head := (Server.replyHeader request.header request.dispatched.reply).bytes
  payload := request.dispatched.reply.payload
  length_head := MessageHeader.length_bytes _
  length_payload := by
    simp only [replyFraming, MessageHeader.read_bytes]
    exact toNat_payloadLen request.dispatched.length_reply_le

theorem replyMessage_header (request : Server.ServedRequest worker) :
    (replyMessage request).header =
      Server.replyHeader request.header request.dispatched.reply :=
  MessageHeader.read_bytes _

/-! ## The stages of an exchange -/

/-- The worker's end is reading `message`, of which `rest` has not arrived, or
it has hung up. -/
inductive Takes (message : Server.requestFraming.Message) (rest : List UInt8) :
    Server.Phase → Prop where
  | reading (reader : Reader UInt8 MessageHeader)
      (awaits : reader.Awaits message rest) : Takes message rest (.reading reader)
  | closed : Takes message rest .closed

/-- The worker's end still has `rest` to write; after it has hung up, any
`rest` may be lost. -/
inductive Sends : Server.Phase → List UInt8 → Prop where
  | replying (writer : Writer UInt8) (busy : writer.Busy) :
      Sends (.replying writer) writer.unsent
  | finished : Sends (.reading .start) []
  | closed (lost : List UInt8) : Sends .closed lost

/-- The client is writing its request, of which `rest` is unsent, or it waits
for the first byte of the reply. -/
inductive Asks : Phase → List UInt8 → Prop where
  | writing (writer : Writer UInt8) (busy : writer.Busy) :
      Asks (.writing writer) writer.unsent
  | waiting : Asks (.reading .start) []

/-- No byte is in transit and the worker waits for a request. -/
structure Link.Quiet (link : Link worker) : Prop where
  toServer : link.toServer = []
  toClient : link.toClient = []
  waiting : Sends link.server.phase []

/-- How far the two ends are, where `answered` are the round trips of the calls
that have returned. -/
inductive Stage (link : Link worker) :
    Option Exchange → List RoundTrip → Prop where
  | idle {answered : List RoundTrip} (quiet : link.Quiet)
      (served : link.roundTrips = answered) : Stage link none answered
  | asking {answered : List RoundTrip} (exchange : Exchange)
      (unsent : List UInt8)
      (asks : Asks exchange.phase unsent)
      (takes : Takes exchange.request (link.toServer ++ unsent) link.server.phase)
      (silent : link.toClient = [])
      (served : link.roundTrips = answered) :
      Stage link (some exchange) answered
  | answering {answered : List RoundTrip} (exchange : Exchange)
      (request : Server.ServedRequest worker)
      (reader : Reader UInt8 MessageHeader) (rest : List UInt8)
      (reading : exchange.phase = .reading reader)
      (awaits : reader.Awaits (replyMessage request) (link.toClient ++ rest))
      (sends : Sends link.server.phase rest)
      (taken : link.toServer = [])
      (served : link.roundTrips = answered ++
        [exchange.roundTrip (.ofReply request.dispatched.reply)]) :
      Stage link (some exchange) answered
  | returning {answered : List RoundTrip} (exchange : Exchange)
      (outcome : Outcome)
      (returns : exchange.phase = .returning outcome)
      (fromWorker : outcome.fromWorker = true)
      (quiet : link.Quiet)
      (served : link.roundTrips = answered ++ [exchange.roundTrip outcome]) :
      Stage link (some exchange) answered

variable {rest : List UInt8}

theorem takes_afterRead {message : Server.requestFraming.Message}
    {reader : Reader UInt8 MessageHeader} (awaits : reader.Awaits message rest) :
    Takes message rest (Server.afterRead reader) := by
  cases reader with
  | inHeader buffer | inPayload header buffer | complete header payload =>
    exact .reading _ awaits
  | refused => exact .closed

variable {writer : Writer UInt8}

theorem sends_afterWrite (settled : writer = .done ∨ writer.Busy) :
    Sends (Server.afterWrite writer) writer.unsent := by
  rcases settled with rfl | busy
  · exact .finished
  · cases writer with
    | inHeader rest payload | inPayload rest => exact .replying _ busy
    | done => exact busy.elim

theorem asks_afterWrite (settled : writer = .done ∨ writer.Busy) :
    Asks (TransportSystem.afterWrite writer) writer.unsent := by
  rcases settled with rfl | busy
  · exact .waiting
  · cases writer with
    | inHeader rest payload | inPayload rest => exact .writing _ busy
    | done => exact busy.elim

theorem Asks.waiting_of_written {phase : Phase} {unsent : List UInt8}
    (asks : Asks phase unsent) (written : unsent = []) :
    phase = .reading .start := by
  cases asks with
  | writing writer busy => exact absurd written busy.unsent_ne_nil
  | waiting => rfl

/-! ## The worker's end moves -/

namespace Stage

variable {holder : Option Exchange} {link : Link worker}
  {answered : List RoundTrip}

theorem serverFails (stage : Stage link holder answered) :
    Stage link.serverFails holder answered := by
  cases stage with
  | idle quiet served => exact .idle ⟨quiet.toServer, quiet.toClient, .closed []⟩ served
  | asking exchange unsent asks takes silent served =>
    exact .asking exchange unsent asks .closed silent served
  | answering exchange request reader rest reading awaits sends taken served =>
    exact .answering exchange request reader rest reading awaits (.closed rest) taken served
  | returning exchange outcome returns fromWorker quiet served =>
    exact .returning exchange outcome returns fromWorker
      ⟨quiet.toServer, quiet.toClient, .closed []⟩ served

theorem serverReads_of_sends (count : Nat) (sends : Sends link.server.phase rest)
    (taken : link.toServer = []) :
    link.serverReads count = link := by
  obtain ⟨toServer, toClient, ⟨phase, state, served⟩⟩ := link
  subst taken
  cases sends with
  | replying writer busy => rfl
  | finished =>
    simp only [Link.serverReads, Server.reads,
      receive_nothing (show 0 < Server.requestFraming.headerSize by decide)]
    rfl
  | closed lost => rfl

theorem serverReads (count : Nat) (stage : Stage link holder answered) :
    Stage (link.serverReads count) holder answered := by
  cases stage with
  | idle quiet served =>
    rw [serverReads_of_sends count quiet.waiting quiet.toServer]
    exact .idle quiet served
  | asking exchange unsent asks takes silent served =>
    obtain ⟨toServer, toClient, ⟨phase, state, requests⟩⟩ := link
    cases takes with
    | reading reader awaits =>
      exact .asking exchange unsent asks
        (takes_afterRead (receive_awaits count awaits)) silent served
    | closed => exact .asking exchange unsent asks .closed silent served
  | answering exchange request reader rest reading awaits sends taken served =>
    rw [serverReads_of_sends count sends taken]
    exact .answering exchange request reader rest reading awaits sends taken served
  | returning exchange outcome returns fromWorker quiet served =>
    rw [serverReads_of_sends count quiet.waiting quiet.toServer]
    exact .returning exchange outcome returns fromWorker quiet served

theorem serverDispatches_of_sends (choice : Choice) (sends : Sends link.server.phase rest) :
    link.serverDispatches choice = link := by
  obtain ⟨toServer, toClient, ⟨phase, state, served⟩⟩ := link
  cases sends with
  | replying writer busy => rfl
  | finished => rfl
  | closed lost => rfl

variable {exchange : Exchange}

/-- The dispatch happens when the request has been written and read to its
end; the reply then is the only thing on the stream. -/
theorem dispatch_of_asking (choice : Choice) {unsent : List UInt8}
    (asks : Asks exchange.phase unsent)
    (takes : Takes exchange.request (link.toServer ++ unsent)
      link.server.phase) (silent : link.toClient = [])
    (served : link.roundTrips = answered) :
    Stage (link.serverDispatches choice) (some exchange)
      answered := by
  obtain ⟨toServer, toClient, ⟨phase, state, requests⟩⟩ := link
  subst silent served
  cases takes with
  | closed => exact .asking exchange unsent asks .closed rfl rfl
  | reading reader awaits =>
    cases reader with
    | inHeader buffer | inPayload header buffer | refused =>
      exact .asking exchange unsent asks (.reading _ awaits) rfl rfl
    | complete header payload =>
      obtain ⟨header_eq, payload_eq, nothing⟩ := awaits
      obtain ⟨taken, written⟩ := List.append_eq_nil_iff.mp nothing
      rw [exchange.request_header] at header_eq
      subst header_eq payload_eq taken
      let request : Server.ServedRequest worker :=
        ⟨choice, state, exchange.call.header exchange.requestId, exchange.request.payload⟩
      refine .answering exchange request .start (replyMessage request).bytes
        (asks.waiting_of_written written) ?_ ?_ rfl ?_
      · exact start_awaits (by decide)
      · exact .replying (.inHeader _ _) (MessageHeader.bytes_ne_nil _)
      · exact List.map_append

theorem serverDispatches (choice : Choice) (stage : Stage link holder answered) :
    Stage (link.serverDispatches choice) holder answered := by
  cases stage with
  | idle quiet served =>
    rw [serverDispatches_of_sends choice quiet.waiting]
    exact .idle quiet served
  | asking exchange unsent asks takes silent served =>
    exact dispatch_of_asking choice asks takes silent served
  | answering exchange request reader rest reading awaits sends taken served =>
    rw [serverDispatches_of_sends choice sends]
    exact .answering exchange request reader rest reading awaits sends taken served
  | returning exchange outcome returns fromWorker quiet served =>
    rw [serverDispatches_of_sends choice quiet.waiting]
    exact .returning exchange outcome returns fromWorker quiet served

theorem serverWrites_of_quiet (count : Nat) (quiet : link.Quiet) :
    link.serverWrites count = link := by
  obtain ⟨toServer, toClient, ⟨phase, state, served⟩⟩ := link
  obtain ⟨-, -, waiting⟩ := quiet
  generalize rest_eq : ([] : List UInt8) = rest at waiting
  cases waiting with
  | replying writer busy => exact absurd rest_eq.symm busy.unsent_ne_nil
  | finished => rfl
  | closed lost => rfl

theorem serverWrites (count : Nat) (stage : Stage link holder answered) :
    Stage (link.serverWrites count) holder answered := by
  cases stage with
  | idle quiet served =>
    rw [serverWrites_of_quiet count quiet]
    exact .idle quiet served
  | asking exchange unsent asks takes silent served =>
    obtain ⟨toServer, toClient, ⟨phase, state, requests⟩⟩ := link
    cases takes with
    | reading reader awaits =>
      exact .asking exchange unsent asks (.reading reader awaits) silent served
    | closed => exact .asking exchange unsent asks .closed silent served
  | answering exchange request reader rest reading awaits sends taken served =>
    obtain ⟨toServer, toClient, ⟨phase, state, requests⟩⟩ := link
    cases sends with
    | replying writer busy =>
      refine .answering exchange request reader (writer.send count toClient).1.unsent reading ?_
        (sends_afterWrite (writer.send_busy count toClient)) taken served
      have kept := writer.send_unsent count toClient
      exact kept ▸ awaits
    | finished =>
      exact .answering exchange request reader [] reading awaits .finished taken served
    | closed lost =>
      exact .answering exchange request reader rest reading awaits (.closed rest) taken served
  | returning exchange outcome returns fromWorker quiet served =>
    rw [serverWrites_of_quiet count quiet]
    exact .returning exchange outcome returns fromWorker quiet served

/-! ## The client's end moves -/

/-- A new request on a quiet connection. -/
theorem begins (exchange : Exchange) (quiet : link.Quiet) (served : link.roundTrips = answered)
    (writing : exchange.phase =
      .writing (.inHeader exchange.request.head exchange.request.payload)) :
    Stage link (some exchange) answered := by
  obtain ⟨toServer, toClient, ⟨phase, state, requests⟩⟩ := link
  obtain ⟨rfl, silent, waiting⟩ := quiet
  refine .asking exchange exchange.request.bytes ?_ ?_ silent served
  · rw [writing]
    exact .writing (.inHeader _ _) (MessageHeader.bytes_ne_nil _)
  · generalize rest_eq : ([] : List UInt8) = rest at waiting
    cases waiting with
    | replying writer busy => exact absurd rest_eq.symm busy.unsent_ne_nil
    | finished => exact .reading _ (start_awaits (by decide))
    | closed lost => exact .closed

theorem clientWrites (count : Nat) (writing : exchange.phase = .writing writer)
    (stage : Stage link (some exchange) answered) :
    Stage { link with toServer := (writer.send count link.toServer).2 }
      (some { exchange with
        phase := TransportSystem.afterWrite (writer.send count link.toServer).1 })
      answered := by
  cases stage with
  | asking _ unsent asks takes silent served =>
    rw [writing] at asks
    cases asks with
    | writing writer busy =>
      refine .asking _ (writer.send count link.toServer).1.unsent
        (asks_afterWrite (writer.send_busy count link.toServer)) ?_ silent
        served
      have kept := writer.send_unsent count link.toServer
      exact kept ▸ takes
  | answering _ request reader rest reading awaits sends taken served =>
    exact absurd (writing.symm.trans reading) (by simp)
  | returning _ outcome returns fromWorker quiet served =>
    exact absurd (writing.symm.trans returns) (by simp)

theorem returns_reply {request : Server.ServedRequest worker} {header : MessageHeader}
    {payload : List UInt8}
    (awaits : (Reader.complete header payload).Awaits (replyMessage request)
      (link.toClient ++ rest)) (sends : Sends link.server.phase rest)
    (taken : link.toServer = [])
    (served : link.roundTrips = answered ++
      [exchange.roundTrip (.ofReply request.dispatched.reply)]) :
    Stage link (some { exchange with
      phase := TransportSystem.afterRead (.complete header payload) })
      answered := by
  obtain ⟨rfl, rfl, nothing⟩ := awaits
  obtain ⟨silent, sent⟩ := List.append_eq_nil_iff.mp nothing
  rw [replyMessage_header]
  exact .returning _ _ rfl (Outcome.ofReply_fromWorker _) ⟨taken, silent, sent ▸ sends⟩ served

theorem clientReads {reader : Reader UInt8 MessageHeader} (count : Nat)
    (reading : exchange.phase = .reading reader)
    (stage : Stage link (some exchange) answered) :
    Stage
      { link with
        toClient := (replyFraming.receive count link.toClient reader).2 }
      (some { exchange with
        phase := TransportSystem.afterRead (replyFraming.receive count link.toClient reader).1 })
      answered := by
  cases stage with
  | asking _ unsent asks takes silent served =>
    rw [reading] at asks
    cases asks with
    | waiting =>
      rw [silent, receive_nothing (by decide)]
      exact .asking _ [] .waiting takes rfl served
  | answering _ request reader' rest reading' awaits sends taken served =>
    have same : reader = reader' := by
      simpa using reading.symm.trans reading'
    subst same
    have further := receive_awaits count awaits
    generalize replyFraming.receive count link.toClient reader = received at further ⊢
    obtain ⟨reader, channel⟩ := received
    cases reader with
    | inHeader buffer | inPayload header buffer | refused =>
      exact .answering _ request _ rest rfl further sends taken served
    | complete header payload => exact returns_reply further sends taken served
  | returning _ outcome returns fromWorker quiet served =>
    exact absurd (reading.symm.trans returns) (by simp)

theorem finishes {outcome : Outcome} (returns : exchange.phase = .returning outcome)
    (stage : Stage link (some exchange) answered) :
    outcome.fromWorker = true ∧ Stage link none (answered ++ [exchange.roundTrip outcome]) := by
  cases stage with
  | asking _ unsent asks takes silent served =>
    rw [returns] at asks
    cases asks
  | answering _ request reader rest reading awaits sends taken served =>
    exact absurd (returns.symm.trans reading) (by simp)
  | returning _ outcome' returns' fromWorker quiet served =>
    have same : outcome = outcome' := by
      simpa using returns.symm.trans returns'
    subst same
    exact ⟨fromWorker, .idle quiet served⟩

/-- At every stage the answered calls are the worker's first round trips. -/
theorem isPrefix (stage : Stage link holder answered) : answered <+: link.roundTrips := by
  cases stage with
  | idle quiet served | asking exchange unsent asks takes silent served =>
    exact served ▸ List.prefix_rfl
  | answering exchange request reader rest reading awaits sends taken served
  | returning exchange outcome returns fromWorker quiet served =>
    exact served ▸ List.prefix_append answered _

end Stage

end Transport

end VtFerry
