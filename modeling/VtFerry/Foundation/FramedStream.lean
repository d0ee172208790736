import Mathlib.Data.List.Basic

/-!
# Framed messages over a byte stream

A message is a header of fixed size followed by a payload whose length the
header gives.  A writer hands the header and then the payload to a channel; a
reader takes the header and then the payload from it.  Either moves an
arbitrary number of bytes at a time, which is how a stream splits a message.
`Reader.Awaits` says how far a reader has come with one message: the bytes it
still has to take are exactly those in the channel and those the writer still
holds.
-/

universe u v

namespace FramedStream

open List

variable {Byte : Type u} {Header : Type v}

/-- How a reader takes a message apart.  It hangs up on a header it does not
accept. -/
structure Framing (Byte : Type u) (Header : Type v) where
  headerSize : Nat
  decode : List Byte → Header
  payloadLength : Header → Nat
  accepts : Header → Bool

/-- A message whose header has the right size and announces its payload. -/
structure Framing.Message (framing : Framing Byte Header) where
  head : List Byte
  payload : List Byte
  length_head : head.length = framing.headerSize
  length_payload : framing.payloadLength (framing.decode head) = payload.length

namespace Framing.Message

variable {framing : Framing Byte Header} (message : framing.Message)

def header : Header :=
  framing.decode message.head

def bytes : List Byte :=
  message.head ++ message.payload

end Framing.Message

/-! ## Reading -/

inductive Reader (Byte : Type u) (Header : Type v) where
  | inHeader (buffer : List Byte)
  | inPayload (header : Header) (buffer : List Byte)
  | complete (header : Header) (payload : List Byte)
  | refused

def Reader.start : Reader Byte Header :=
  .inHeader []

namespace Framing

variable (framing : Framing Byte Header)

/-- A reader that has the whole header. -/
def afterHeader (header : Header) : Reader Byte Header :=
  if framing.accepts header then
    if framing.payloadLength header = 0 then .complete header []
    else .inPayload header []
  else .refused

/-- One read: at most `count` bytes move from the channel into the buffer that
is being filled, and never more than the buffer lacks. -/
def receive (count : Nat) (channel : List Byte) :
    Reader Byte Header → Reader Byte Header × List Byte
  | .inHeader buffer =>
    let taken := min count (framing.headerSize - buffer.length)
    let filled := buffer ++ channel.take taken
    (if filled.length < framing.headerSize then .inHeader filled
      else framing.afterHeader (framing.decode filled),
      channel.drop taken)
  | .inPayload header buffer =>
    let taken := min count (framing.payloadLength header - buffer.length)
    let filled := buffer ++ channel.take taken
    (if filled.length < framing.payloadLength header then
        .inPayload header filled
      else .complete header filled,
      channel.drop taken)
  | .complete header payload => (.complete header payload, channel)
  | .refused => (.refused, channel)

end Framing

/-- The reader is inside `message`, and `rest` is what it has not taken. -/
def Reader.Awaits {framing : Framing Byte Header} (message : framing.Message)
    (rest : List Byte) : Reader Byte Header → Prop
  | .inHeader buffer =>
    buffer.length < framing.headerSize ∧ buffer ++ rest = message.bytes
  | .inPayload header buffer =>
    header = message.header ∧ buffer.length < message.payload.length ∧
      buffer ++ rest = message.payload
  | .complete header payload =>
    header = message.header ∧ payload = message.payload ∧ rest = []
  | .refused => framing.accepts message.header = false

section Receive

variable {framing : Framing Byte Header} {message : framing.Message}
  {buffer channel unsent : List Byte}

theorem start_awaits (positive : 0 < framing.headerSize) :
    (Reader.start : Reader Byte Header).Awaits message message.bytes :=
  ⟨positive, rfl⟩

theorem receive_nothing (positive : 0 < framing.headerSize) (count : Nat) :
    framing.receive count [] .start = (.start, []) := by
  simp [Framing.receive, Reader.start, positive]

theorem afterHeader_awaits {rest : List Byte} (rest_eq : rest = message.payload) :
    (framing.afterHeader message.header).Awaits message rest := by
  subst rest_eq
  have announced : framing.payloadLength message.header =
      message.payload.length := message.length_payload
  unfold Framing.afterHeader
  split
  · split
    next empty =>
      have nil : message.payload = [] := by
        apply eq_nil_of_length_eq_zero
        rw [← announced, empty]
      exact ⟨rfl, nil.symm, nil⟩
    next nonempty =>
      refine ⟨rfl, ?_, rfl⟩
      rw [← announced]
      exact Nat.pos_of_ne_zero nonempty
  next refused => exact Bool.eq_false_iff.mpr refused

/-- The bytes a read moves are still there, in the buffer or the channel. -/
theorem moved (taken : Nat) :
    (buffer ++ channel.take taken) ++ (channel.drop taken ++ unsent) =
      buffer ++ (channel ++ unsent) := by
  rw [append_assoc, ← append_assoc (channel.take taken), take_append_drop]

theorem length_filled_le {size : Nat} (count : Nat) (short : buffer.length < size) :
    (buffer ++ channel.take (min count (size - buffer.length))).length ≤ size := by
  rw [length_append, length_take]
  omega

/-- A read takes the next bytes of the message, wherever the stream splits
it. -/
theorem receive_awaits (count : Nat) {reader : Reader Byte Header}
    (awaits : reader.Awaits message (channel ++ unsent)) :
    (framing.receive count channel reader).1.Awaits message
      ((framing.receive count channel reader).2 ++ unsent) := by
  cases reader with
  | inHeader buffer =>
    obtain ⟨short, bytes⟩ := awaits
    have fits : (buffer ++ channel.take (min count
        (framing.headerSize - buffer.length))).length ≤ framing.headerSize :=
      length_filled_le count short
    rw [← moved (min count (framing.headerSize - buffer.length))] at bytes
    simp only [Framing.receive]
    split
    next partly => exact ⟨partly, bytes⟩
    next full =>
      have same_length : (buffer ++ channel.take
          (min count (framing.headerSize - buffer.length))).length =
            message.head.length := by
        rw [message.length_head]
        omega
      obtain ⟨head, payload⟩ := append_inj bytes same_length
      rw [head]
      exact afterHeader_awaits payload
  | inPayload header buffer =>
    obtain ⟨rfl, short, bytes⟩ := awaits
    have announced : framing.payloadLength message.header =
        message.payload.length := message.length_payload
    simp only [Framing.receive, announced]
    have fits : (buffer ++ channel.take (min count
        (message.payload.length - buffer.length))).length ≤ message.payload.length :=
      length_filled_le count short
    rw [← moved (min count (message.payload.length - buffer.length))] at bytes
    split
    next partly => exact ⟨rfl, partly, bytes⟩
    next full =>
      have all : _ ++ _ = message.payload ++ [] :=
        bytes.trans (append_nil _).symm
      obtain ⟨payload, nothing⟩ := append_inj all (by omega)
      exact ⟨rfl, payload, nothing⟩
  | complete header payload => exact awaits
  | refused => exact awaits

theorem receive_header {head rest : List Byte} (length : head.length = framing.headerSize) :
    framing.receive framing.headerSize (head ++ rest) .start =
      (framing.afterHeader (framing.decode head), rest) := by
  simp only [Framing.receive, Reader.start, length_nil, Nat.sub_zero, Nat.min_self, nil_append]
  rw [← length, take_left, drop_left, if_neg (Nat.lt_irrefl _)]

theorem receive_payload {header : Header} {payload : List Byte} {count : Nat}
    (announced : framing.payloadLength header = payload.length)
    (accepted : framing.accepts header = true)
    (enough : payload.length ≤ count) :
    framing.receive count payload (framing.afterHeader header) =
      (.complete header payload, []) := by
  unfold Framing.afterHeader
  rw [if_pos accepted, announced]
  by_cases empty : payload.length = 0
  · rw [if_pos empty, eq_nil_of_length_eq_zero empty]
    rfl
  · rw [if_neg empty]
    simp only [Framing.receive, announced, length_nil, Nat.sub_zero,
      nil_append, Nat.min_eq_right enough, take_length,
      drop_length, Nat.lt_irrefl, if_false]

end Receive

/-! ## Writing -/

inductive Writer (Byte : Type u) where
  | inHeader (rest payload : List Byte)
  | inPayload (rest : List Byte)
  | done

namespace Writer

def afterHeader (payload : List Byte) : Writer Byte :=
  if payload.isEmpty then .done else .inPayload payload

/-- One write: at most `count` of the pending bytes go into the channel. -/
def send (count : Nat) (channel : List Byte) :
    Writer Byte → Writer Byte × List Byte
  | .inHeader rest payload =>
    (if (rest.drop count).isEmpty then afterHeader payload
      else .inHeader (rest.drop count) payload,
      channel ++ rest.take count)
  | .inPayload rest =>
    (afterHeader (rest.drop count), channel ++ rest.take count)
  | .done => (.done, channel)

def unsent : Writer Byte → List Byte
  | .inHeader rest payload => rest ++ payload
  | .inPayload rest => rest
  | .done => []

/-- A writer that is not done has a byte to write. -/
def Busy : Writer Byte → Prop
  | .inHeader rest _ => rest ≠ []
  | .inPayload rest => rest ≠ []
  | .done => False

@[simp] theorem unsent_inHeader (rest payload : List Byte) :
    (inHeader rest payload).unsent = rest ++ payload :=
  rfl

@[simp] theorem unsent_inPayload (rest : List Byte) : (inPayload rest).unsent = rest :=
  rfl

@[simp] theorem unsent_done : (done : Writer Byte).unsent = [] :=
  rfl

@[simp] theorem unsent_afterHeader (payload : List Byte) :
    (afterHeader payload).unsent = payload := by
  cases payload <;> rfl

theorem busy_afterHeader (payload : List Byte) :
    afterHeader payload = .done ∨ (afterHeader payload).Busy := by
  cases payload with
  | nil => exact .inl rfl
  | cons byte payload => exact .inr (cons_ne_nil byte payload)

theorem Busy.unsent_ne_nil {writer : Writer Byte} (busy : writer.Busy) : writer.unsent ≠ [] := by
  cases writer with
  | inHeader rest payload => exact append_ne_nil_of_left_ne_nil busy payload
  | inPayload rest => exact busy
  | done => exact busy.elim

theorem send_unsent (count : Nat) (channel : List Byte) (writer : Writer Byte) :
    (writer.send count channel).2 ++ (writer.send count channel).1.unsent =
      channel ++ writer.unsent := by
  cases writer with
  | inHeader rest payload =>
    have split_rest := take_append_drop count rest
    simp only [send]
    split
    next empty =>
      rw [List.isEmpty_iff] at empty
      rw [empty, List.append_nil] at split_rest
      simp [split_rest]
    · simp only [unsent_inHeader, append_assoc]
      rw [← append_assoc (rest.take count), split_rest]
  | inPayload rest => simp [send]
  | done => rfl

theorem send_busy (count : Nat) (channel : List Byte) (writer : Writer Byte) :
    (writer.send count channel).1 = .done ∨ (writer.send count channel).1.Busy := by
  cases writer with
  | inHeader rest payload =>
    simp only [send]
    split
    · exact busy_afterHeader payload
    next pending => exact .inr fun empty => pending (isEmpty_iff.mpr empty)
  | inPayload rest => exact busy_afterHeader _
  | done => exact .inl rfl

theorem send_header {count : Nat} {rest : List Byte}
    (enough : rest.length ≤ count) (payload channel : List Byte) :
    (inHeader rest payload).send count channel = (afterHeader payload, channel ++ rest) := by
  rw [send, drop_eq_nil_of_le enough, take_of_length_le enough]
  rfl

theorem send_payload {count : Nat} {payload : List Byte}
    (enough : payload.length ≤ count) (channel : List Byte) :
    (afterHeader payload).send count channel = (.done, channel ++ payload) := by
  cases payload with
  | nil => simp [afterHeader, send]
  | cons byte payload =>
    simp only [afterHeader, isEmpty_cons, Bool.false_eq_true, if_false,
      send, drop_eq_nil_of_le enough, take_of_length_le enough,
      isEmpty_nil, if_true]

end Writer

end FramedStream
