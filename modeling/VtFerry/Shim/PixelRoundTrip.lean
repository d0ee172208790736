import VtFerry.Shim.BufferRanges
import VtFerry.Shim.WorkerLine
import VtFerry.Worker.Backends
import VtFerry.Worker.Mock.Refusals
import VtFerry.Worker.Mock.SlotBytes
import VtFerry.Worker.OutputReads
import VtFerry.Worker.VtReal.SlotBytes

/-!
# Pixels written and read back

A client writes all bytes of a leased buffer and reads them back, over a
connection of either worker.  Each backend keeps the bytes of a writable lease
the way `KeepsBytes` asks for: a write patches them, a read returns a slice of
them, and the bytes of other buffers stay.  So the bytes that were written
last are the bytes that are read.
-/

namespace VtFerry

open List LittleEndian Patches

namespace Shim

/-! ## Requests for a range -/

/-- The range a request names. -/
def rangeOf (bufferId generation : UInt64) (offset length : Nat) :
    BufferRangePayload :=
  ⟨bufferId, generation, UInt32.ofNat offset, UInt32.ofNat length⟩

theorem rangeOf_toNat (bufferId generation : UInt64) {offset length size : Nat}
    (fits : offset + length ≤ size) (small : size < 2 ^ 32) :
    (rangeOf bufferId generation offset length).offset.toNat = offset ∧
      (rangeOf bufferId generation offset length).length.toNat = length :=
  ⟨toNat_ofNat_eq_iff.mpr (by omega), toNat_ofNat_eq_iff.mpr (by omega)⟩

theorem read_writeBufferRequest (bufferId generation : UInt64) (offset : Nat) (piece : List UInt8) :
    BufferRangePayload.read (writeBufferRequest bufferId generation offset piece).payload =
      rangeOf bufferId generation offset piece.length :=
  BufferRangePayload.read_bytes_append _ piece

theorem length_writeBufferRequest (bufferId generation : UInt64)
    (offset : Nat) (piece : List UInt8) :
    (writeBufferRequest bufferId generation offset piece).payload.length =
      BufferRangePayload.size + piece.length := by
  rw [writeBufferRequest, length_append, BufferRangePayload.length_bytes]

theorem drop_writeBufferRequest (bufferId generation : UInt64) (offset : Nat) (piece : List UInt8) :
    (writeBufferRequest bufferId generation offset piece).payload.drop
      BufferRangePayload.size = piece := by
  rw [writeBufferRequest, ← BufferRangePayload.length_bytes, drop_left]

theorem read_readBufferRequest (bufferId generation : UInt64) (offset length : Nat) :
    BufferRangePayload.read (readBufferRequest bufferId generation offset length).payload =
      rangeOf bufferId generation offset length := by
  have read := BufferRangePayload.read_bytes_append (rangeOf bufferId generation offset length) []
  rwa [append_nil] at read

theorem length_readBufferRequest (bufferId generation : UInt64) (offset length : Nat) :
    (readBufferRequest bufferId generation offset length).payload.length =
      BufferRangePayload.size :=
  BufferRangePayload.length_bytes _

theorem piece_fits {length : Nat} (short : length ≤ writeBufferChunkBytes) :
    BufferRangePayload.size + length ≤ transportStorageCapacity := by
  have largest : BufferRangePayload.size + writeBufferChunkBytes ≤
    transportStorageCapacity := by decide
  omega

theorem writeBufferRequest_small (bufferId generation : UInt64) (offset : Nat) {piece : List UInt8}
    (short : piece.length ≤ writeBufferChunkBytes) :
    (writeBufferRequest bufferId generation offset piece).payload.length ≤
      transportStorageCapacity := by
  rw [length_writeBufferRequest]
  exact piece_fits short

theorem readBufferRequest_small (bufferId generation : UInt64) (offset length : Nat) :
    (readBufferRequest bufferId generation offset length).payload.length ≤
      transportStorageCapacity := by
  rw [length_readBufferRequest]
  exact piece_fits (Nat.zero_le _)

theorem Line.send_body {State Choice : Type} {worker : Backend State Choice}
    {earlier line : Line worker} (serves : Serves earlier line)
    (choices : Nat → Choice) {request : Request}
    (small : request.payload.length ≤ transportStorageCapacity)
    {state : State} {body : ReplyBody}
    (dispatched : line.dispatched choices request = (state, .ofBody Status.ok (some body)))
    (fits : body.size ≤ transportStorageCapacity) :
    (send choices line request).2 = .ok body.bytes ∧ Serves earlier (send choices line request).1 ∧
      (send choices line request).1.server.state = state := by
  have output : (line.dispatched choices request).2.output = some body.bytes := by
    rw [dispatched]
    exact Dispatched.ofBody_output fits
  have accepted : (line.dispatched choices request).2.status =
      Status.ok := by
    rw [dispatched]
    rfl
  rw [send_of_output choices serves.idle small accepted output]
  refine ⟨rfl, serves.answered choices small output, ?_⟩
  exact congrArg Prod.fst dispatched

/-- The reply to `READ_BUFFER`: 24 bytes of header and the bytes. -/
theorem bufferBytes_split (id generation : Nat) (range : BufferRangePayload)
    (bytes : List UInt8) : ∃ header, header.length = readBufferReplySize ∧
      (ReplyBody.bufferBytes id generation range.offset range.length
        bytes).bytes = header ++ bytes := by
  refine ⟨_, ?_, rfl⟩
  simp [readBufferReplySize, u32Bytes]

/-! ## The mock backend -/

section MockWorker

variable {earlier : Line mockWorker} {bufferId generation : UInt64}
variable {buffer : Mock.Buffer}

/-- The mock worker holds the bytes of a buffer; those of the others are as
they were. -/
structure MockHolds (earlier : Line mockWorker) (bufferId : UInt64)
    (buffer : Mock.Buffer) (content : List UInt8)
    (line : Line mockWorker) : Prop where
  serves : Line.Serves earlier line
  sound : line.server.state.Sound
  found : line.server.state.findBuffer bufferId.toNat = some buffer
  content : line.server.state.contentOf bufferId.toNat = some content
  others : ∀ other, other ≠ bufferId.toNat →
    line.server.state.contentOf other = earlier.server.state.contentOf other

theorem MockHolds.small {content : List UInt8} {line : Line mockWorker}
    (holds : MockHolds earlier bufferId buffer content line) :
    buffer.totalSize < 2 ^ 32 := by
  obtain ⟨pool, _, slot⟩ := holds.sound.slotIn holds.found
  rw [← slot.size]
  exact pool.slotRegionSize.toNat_lt

theorem mock_dispatched (choices : Nat → Unit) {line : Line mockWorker}
    {request : Request} {served : MockBackend.Served}
    (dispatched : MockBackend.dispatch transportStorageCapacity
      transportVersion request line.server.state = served) :
    line.dispatched choices request = (served.backend, .ofBody served.status served.reply) := by
  subst dispatched
  rfl

theorem mockWorker_keepsBytes (choices : Nat → Unit)
    (current : buffer.generation = generation.toNat)
    (writable : buffer.state = .guestWritable) :
    KeepsBytes (Line.send choices) bufferId generation buffer.totalSize
      (MockHolds earlier bufferId buffer) where
  writes := by
    intro content line offset piece holds filled short fits
    obtain ⟨offset_is, length_is⟩ := rangeOf_toNat bufferId generation fits holds.small
    have served := MockBackend.writeBuffer_of_writable holds.sound
      (read_writeBufferRequest bufferId generation offset piece)
      (by rw [length_is, length_writeBufferRequest]) holds.found current
      writable
      (by rw [MockBackend.InBounds, offset_is, length_is]; exact fits)
    rw [offset_is, drop_writeBufferRequest] at served
    have dispatched : line.dispatched choices
        (writeBufferRequest bufferId generation offset piece) =
          (line.server.state.patchSlot buffer offset piece,
            .ofBody Status.ok (some .empty)) :=
      mock_dispatched choices ((MockBackend.dispatch_writeBuffer _ _).trans served)
    obtain ⟨reply, serves, state⟩ := Line.send_body holds.serves choices
      (writeBufferRequest_small bufferId generation offset short) dispatched
      (Nat.zero_le _)
    have sound := holds.sound.next ⟨transportStorageCapacity,
      transportVersion, writeBufferRequest bufferId generation offset piece⟩
    have next : line.server.state.next ⟨transportStorageCapacity, transportVersion,
        writeBufferRequest bufferId generation offset piece⟩ =
          line.server.state.patchSlot buffer offset piece :=
      congrArg Prod.fst dispatched
    rw [next] at sound
    refine ⟨reply, serves, ?_, ?_, ?_, ?_⟩
    · rwa [state]
    · rw [state]
      exact holds.found
    · rw [state]
      exact holds.sound.contentOf_patchSlot holds.found holds.content fits
    · intro other differs
      rw [state, holds.sound.contentOf_patchSlot_other holds.found fits differs]
      exact holds.others other differs
  reads := by
    intro content line offset length holds filled short fits
    obtain ⟨offset_is, length_is⟩ := rangeOf_toNat bufferId generation fits holds.small
    have in_reply : BufferRangePayload.size +
        (rangeOf bufferId generation offset length).length.toNat ≤
          transportStorageCapacity := by
      rw [length_is]
      exact piece_fits short
    have served := MockBackend.readBuffer_of_held holds.sound
      (Nat.le_of_eq (length_readBufferRequest ..).symm)
      (read_readBufferRequest bufferId generation offset length)
      holds.found current (by rw [writable]; decide) holds.content
      (by rw [MockBackend.InBounds, offset_is, length_is]; exact fits)
      in_reply
    rw [offset_is, length_is] at served
    have dispatched : line.dispatched choices
        (readBufferRequest bufferId generation offset length) =
          (line.server.state, .ofBody Status.ok (some (.bufferBytes buffer.id buffer.generation
            (rangeOf bufferId generation offset length).offset
            (rangeOf bufferId generation offset length).length
            ((content.drop offset).take length)))) :=
      mock_dispatched choices ((MockBackend.dispatch_readBuffer _ _).trans served)
    have slice : ((content.drop offset).take length).length = length := by
      rw [length_take, length_drop]
      omega
    obtain ⟨reply, serves, state⟩ := Line.send_body holds.serves choices
      (readBufferRequest_small bufferId generation offset length) dispatched
      (by rw [ReplyBody.size, slice]; exact piece_fits short)
    obtain ⟨header, header_length, split⟩ := bufferBytes_split buffer.id
      buffer.generation (rangeOf bufferId generation offset length)
      ((content.drop offset).take length)
    rw [split] at reply
    refine ⟨header, header_length, reply, serves, ?_, ?_, ?_, ?_⟩
    · rw [state]
      exact holds.sound
    · rw [state]
      exact holds.found
    · rw [state]
      exact holds.content
    · rw [state]
      exact holds.others

end MockWorker

/-! ## The VideoToolbox backend -/

section RealWorker

variable {earlier : Line realWorker} {bufferId generation : UInt64}
variable {buffer : VtRealBuffer} {width height : UInt32}
variable {pixels : PixelBuffer}

def memoryOf (line : Line realWorker) : HostMemory :=
  line.server.state.2.memory

/-- The real worker holds the bytes of a buffer; its records and the bytes of
slots elsewhere are as they were. -/
structure RealHolds (earlier : Line realWorker) (bufferId : UInt64)
    (buffer : VtRealBuffer) (content : List UInt8)
    (line : Line realWorker) : Prop where
  serves : Line.Serves earlier line
  found : line.server.state.1.buffers.lookup bufferId.toNat = some buffer
  content : buffer.content (memoryOf line) = content
  records : ∀ other, line.server.state.1.buffers.lookup other =
    earlier.server.state.1.buffers.lookup other
  others : ∀ other : VtRealBuffer, buffer.Apart other →
    other.content (memoryOf line) = other.content (memoryOf earlier)

theorem RealHolds.lookup_setBuffer {content : List UInt8} {line : Line realWorker}
    (holds : RealHolds earlier bufferId buffer content line) (other : Nat) :
    (line.server.state.1.setBuffer bufferId.toNat buffer).buffers.lookup
      other = line.server.state.1.buffers.lookup other := by
  rw [VtRealBackend.lookup_setBuffer]
  split
  next same => rw [same, holds.found]
  · rfl

theorem real_dispatched (choices : Nat → HostAnswers) {line : Line realWorker}
    {request : Request} {served : Served}
    (dispatched : VtRealBackend.dispatch (choices line.turn).host request
      (choices line.turn).response line.server.state.1 line.server.state.2 = served) :
    line.dispatched choices request = ((served.backend, served.surfaces),
        .ofBody served.status (some served.body)) := by
  subst dispatched
  rfl

theorem realWorker_keepsBytes {choices : Nat → HostAnswers}
    (current : buffer.generation = generation.toNat)
    (writable : buffer.state = .guestWritable)
    (made : buffer.Made width height pixels)
    (exposes : buffer.Exposes pixels)
    (present : ∀ turn, (choices turn).host.nulls.AllPresent) :
    KeepsBytes (Line.send choices) bufferId generation buffer.mappedSize
      (RealHolds earlier bufferId buffer) where
  writes := by
    intro content line offset piece holds filled short fits
    have small : buffer.mappedSize < 2 ^ 32 := by
      rw [made.size]
      exact UInt32.toNat_lt _
    obtain ⟨offset_is, length_is⟩ := rangeOf_toNat bufferId generation fits small
    have served : VtRealBackend.writeBuffer (choices line.turn).host
        (writeBufferRequest bufferId generation offset piece).payload
        line.server.state.1 line.server.state.2 = _ :=
      VtRealBackend.writeBuffer_of_writable
        (read_writeBufferRequest bufferId generation offset piece)
        (by rw [length_is, length_writeBufferRequest]) holds.found current
        writable made (by rw [offset_is, length_is]; exact fits)
    rw [offset_is, drop_writeBufferRequest] at served
    obtain ⟨reply, serves, state⟩ := Line.send_body holds.serves choices
      (writeBufferRequest_small bufferId generation offset short)
      (real_dispatched choices ((VtRealBackend.dispatch_writeBuffer ..).trans served))
      (Nat.zero_le _)
    have kept := holds.lookup_setBuffer
    refine ⟨reply, serves, ?_, ?_, ?_, ?_⟩
    · rw [state]
      exact (kept bufferId.toNat).trans holds.found
    · rw [memoryOf, state, ← holds.content]
      exact VtRealBuffer.content_writeRange fits
    · intro other
      rw [state]
      exact (kept other).trans (holds.records other)
    · intro other apart
      rw [memoryOf, state, ← holds.others other apart]
      exact apart.content_writeRange fits
  reads := by
    intro content line offset length holds filled short fits
    have small : buffer.mappedSize < 2 ^ 32 := by
      rw [made.size]
      exact UInt32.toNat_lt _
    obtain ⟨offset_is, length_is⟩ := rangeOf_toNat bufferId generation fits small
    have served : VtRealBackend.readBuffer (choices line.turn).host
        (readBufferRequest bufferId generation offset length).payload
        (choices line.turn).response line.server.state.1
        line.server.state.2 = _ :=
      VtRealBackend.readBuffer_of_held (Nat.le_of_eq (length_readBufferRequest ..).symm)
        (read_readBufferRequest bufferId generation offset length)
        holds.found current (by rw [writable]; decide) made exposes
        (present line.turn) (by rw [offset_is, length_is]; exact fits)
        (by rw [(choices line.turn).full, length_is]; exact piece_fits short)
    have content_is : buffer.content line.server.state.2.memory = content :=
      holds.content
    rw [offset_is, length_is, content_is] at served
    have slice : ((content.drop offset).take length).length = length := by
      rw [length_take, length_drop]
      omega
    obtain ⟨reply, serves, state⟩ := Line.send_body holds.serves choices
      (readBufferRequest_small bufferId generation offset length)
      (real_dispatched choices ((VtRealBackend.dispatch_readBuffer ..).trans served))
      (by
        dsimp only [Served.ok]
        rw [ReplyBody.size, slice]
        exact piece_fits short)
    obtain ⟨header, header_length, split⟩ := bufferBytes_split buffer.id
      buffer.generation (rangeOf bufferId generation offset length)
      ((content.drop offset).take length)
    have kept := holds.lookup_setBuffer
    refine ⟨header, header_length, ?_, serves, ?_, ?_, ?_, ?_⟩
    · rw [← split]
      exact reply
    · rw [state]
      exact (kept bufferId.toNat).trans holds.found
    · rw [memoryOf, state]
      exact holds.content
    · intro other
      rw [state]
      exact (kept other).trans (holds.records other)
    · intro other apart
      rw [memoryOf, state]
      exact holds.others other apart

end RealWorker

/-! ## Both workers -/

/-- A client of either worker writes all bytes of a writable lease, perhaps
after other uploads, and reads them back.  The real worker's pixel buffer
shows memory of the slot, and CoreVideo gives its addresses. -/
theorem pixels_round_trip (bufferId generation : UInt64)
    (uploads : List (List UInt8)) (bytes : List UInt8)
    (sent : List Request) :
    (∀ (maxOutputCount maxOutputBytes : Nat)
        (requests : List MockBackend.MockRequest) (line : Line mockWorker)
        (choices : Nat → Unit) (buffer : Mock.Buffer),
      line.server.Idle →
      line.server.state = MockBackend.after maxOutputCount maxOutputBytes requests →
      line.server.state.findBuffer bufferId.toNat = some buffer →
      buffer.generation = generation.toNat →
      buffer.state = .guestWritable →
      (∀ upload ∈ uploads, upload.length = buffer.totalSize) →
      bytes.length = buffer.totalSize →
      let written := writeBuffers (Line.send choices) bufferId generation
        (uploads ++ [bytes]) ⟨line, sent⟩
      let read := readBuffer (Line.send choices) bufferId generation bytes.length written.1
      let last := read.1.transport
      written.2 = .ok () ∧ read.2 = .ok bytes ∧ Line.Serves line last ∧
        last.server.state.contentOf bufferId.toNat = some bytes ∧
        ∀ other, other ≠ bufferId.toNat → last.server.state.contentOf other =
            line.server.state.contentOf other) ∧
    (∀ (surfaces : Surfaces) (events : List WorkerEvent) (id : Nat)
        (connection : Connection) (line : Line realWorker)
        (choices : Nat → HostAnswers) (buffer : VtRealBuffer)
        (pixels : PixelBuffer),
      let process := Execution.run WorkerProcess.step (WorkerProcess.started surfaces) events
      line.server.Idle →
      process.connections.lookup id = some connection →
      line.server.state = (connection.backend, process.surfaces) →
      connection.backend.buffers.lookup bufferId.toNat = some buffer →
      buffer.generation = generation.toNat →
      buffer.state = .guestWritable →
      buffer.pixelBuffer = some pixels → buffer.Exposes pixels →
      (∀ turn, (choices turn).host.nulls.AllPresent) →
      (∀ upload ∈ uploads, upload.length = buffer.mappedSize) →
      bytes.length = buffer.mappedSize →
      let written := writeBuffers (Line.send choices) bufferId generation
        (uploads ++ [bytes]) ⟨line, sent⟩
      let read := readBuffer (Line.send choices) bufferId generation bytes.length written.1
      let last := read.1.transport
      written.2 = .ok () ∧ read.2 = .ok bytes ∧ Line.Serves line last ∧
        buffer.content (memoryOf last) = bytes ∧
        (∀ other, last.server.state.1.buffers.lookup other =
          line.server.state.1.buffers.lookup other) ∧
        ∀ other : VtRealBuffer, buffer.Apart other →
          other.content (memoryOf last) = other.content (memoryOf line)) := by
  constructor
  · intro maxOutputCount maxOutputBytes requests line choices buffer idle
      reached found current writable lengths length
    have sound : line.server.state.Sound := by
      rw [reached]
      exact (MockBackend.after_sound ..).1
    obtain ⟨content, content_is, filled⟩ := sound.content found
    have start : MockHolds line bufferId buffer content (Caller.mk line sent).transport :=
      ⟨.refl idle, sound, found, content_is, fun _ _ => rfl⟩
    have keeps : KeepsBytes (Line.send choices) bufferId generation
        buffer.totalSize (MockHolds line bufferId buffer) :=
      mockWorker_keepsBytes choices current writable
    obtain ⟨succeeded, held⟩ := keeps.writeBuffers start filled lengths length
    obtain ⟨fetched, last⟩ := keeps.readBuffer held length
    rw [length]
    exact ⟨succeeded, fetched, last.serves, last.content, last.others⟩
  · intro surfaces events id connection line choices buffer pixels process
      idle isOpen reached found current writable wrapped exposes present
      lengths length
    obtain ⟨width, height, own, made⟩ :=
      ((WorkerProcess.run_kept surfaces events).connections id connection
        isOpen).backend.made bufferId.toNat buffer found
    obtain rfl : own = pixels :=
      Option.some.inj (made.pixels.symm.trans wrapped)
    have start : RealHolds line bufferId buffer
        (buffer.content (memoryOf line)) (Caller.mk line sent).transport := by
      refine ⟨.refl idle, ?_, rfl, fun _ => rfl, fun _ _ => rfl⟩
      rw [reached]
      exact found
    have keeps : KeepsBytes (Line.send choices) bufferId generation
        buffer.mappedSize (RealHolds line bufferId buffer) :=
      realWorker_keepsBytes current writable made exposes present
    obtain ⟨succeeded, held⟩ := keeps.writeBuffers start VtRealBuffer.length_content lengths length
    obtain ⟨fetched, last⟩ := keeps.readBuffer held length
    rw [length]
    exact ⟨succeeded, fetched, last.serves, last.content, last.records, last.others⟩

/-- A connection to a mock worker with one leased buffer of 2 by 2 pixels. -/
def mockLine : Line mockWorker where
  server := .accepted (MockBackend.after 8 4096 MockBackend.oneSlotTaken)
  requestId := 1
  turn := 0

def mockBuffer : Mock.Buffer where
  id := 1001
  poolId := 1000
  generation := 1
  slotIndex := 0
  width := 2
  height := 2
  pixelFormat := PixelFormat.bgra
  state := .guestWritable
  totalSize := 128

/-- A worker process with one leased buffer of 16 by 16 pixels. -/
def leasedSlot : List WorkerEvent :=
  [.connect, .request 0 {} WorkerProcess.twoSlotRequest [], .request 0 {} (allocRequest 1) []]

def leasedProcess : WorkerProcess :=
  Execution.run WorkerProcess.step WorkerProcess.twoSlotStart leasedSlot

def leasedBackend : VtRealBackend :=
  ((leasedProcess.connections.lookup 0).getD .accepted).backend

def realLine : Line realWorker where
  server := .accepted (leasedBackend, leasedProcess.surfaces)
  requestId := 1
  turn := 0

def blankAnswers : HostAnswers :=
  ⟨{}, clearedResponse, length_clearedResponse⟩

theorem length_of_mem_repeated {size : Nat} {first upload : List UInt8}
    (length : first.length = size) (listed : upload ∈ [first]) :
    upload.length = size := by
  rwa [mem_singleton.mp listed]

theorem mockLine_state : mockLine.server.state =
    MockBackend.after 8 4096 MockBackend.oneSlotTaken := by
  rw [mockLine, Server.accepted]

theorem mockLine_found :
    mockLine.server.state.findBuffer (1001 : UInt64).toNat =
      some mockBuffer := by
  decide +kernel

theorem leasedBackend_found : ∃ buffer pixels,
    leasedBackend.buffers.lookup (3 : UInt64).toNat = some buffer ∧
      buffer.generation = (1 : UInt64).toNat ∧
      buffer.state = .guestWritable ∧ buffer.mappedSize = 1024 ∧
      buffer.pixelBuffer = some pixels ∧ buffer.Exposes pixels := by
  refine ⟨_, _, rfl, rfl, rfl, rfl, rfl, ?_⟩
  intro plane listed
  obtain rfl := mem_singleton.mp listed
  decide

/-- A picture of one colour is written over one of another and read back. -/
theorem one_colour_round_trip :
    (readBuffer (Line.send fun _ => ()) 1001 1 128 (writeBuffers (Line.send fun _ => ()) 1001 1
        [replicate 128 9, replicate 128 7]
          ⟨mockLine, []⟩).1).2 = .ok (replicate 128 7) ∧
    (readBuffer (Line.send fun _ => blankAnswers) 3 1 1024
      (writeBuffers (Line.send fun _ => blankAnswers) 3 1
        [replicate 1024 9, replicate 1024 7]
          ⟨realLine, []⟩).1).2 = .ok (replicate 1024 7) := by
  constructor
  · have trip := (pixels_round_trip 1001 1 [replicate 128 9]
      (replicate 128 7) []).1 8 4096 MockBackend.oneSlotTaken mockLine
      (fun _ => ()) mockBuffer rfl mockLine_state mockLine_found rfl rfl
      (fun _ => length_of_mem_repeated length_replicate)
      length_replicate
    rw [length_replicate] at trip
    exact trip.2.1
  · obtain ⟨buffer, pixels, found, current, writable, size, wrapped, exposes⟩ := leasedBackend_found
    have trip := (pixels_round_trip 3 1 [replicate 1024 9]
      (replicate 1024 7) []).2 _ leasedSlot 0 _ realLine
      (fun _ => blankAnswers) buffer pixels rfl rfl rfl found current
      writable wrapped exposes (fun _ => ⟨rfl, fun _ => rfl⟩)
      (fun _ => length_of_mem_repeated (length_replicate.trans size.symm))
      (length_replicate.trans size.symm)
    rw [length_replicate] at trip
    exact trip.2.1

end Shim

end VtFerry
