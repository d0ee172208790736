import VtFerry.Shim.Collection
import VtFerry.Worker.ReplyBytes

/-!
# Decoded frames: the transport

The transport wrappers of the decode side, and `read_buffer`, which fetches
pixels in pieces the way `read_decoded_frame_chunk` does.  A piece is what
follows the header of its reply; a reply that is too short is an error.
-/

namespace VtFerry

open LittleEndian Pieces

namespace Shim

def answer (served : Served) : Except Int32 (List UInt8) :=
  if served.status = Status.ok then .ok served.body.bytes
  else .error served.status.toInt32

/-- `DequeueDecodedFrameReply`, as far as the guest reads it. -/
structure DequeuedFrame where
  outputId : UInt64
  bufferHostId : UInt64
  width : UInt32
  height : UInt32
  pixelFormat : UInt32
  presentation : Time
  duration : Time
  status : UInt32
  deriving DecidableEq, Repr

namespace DequeuedFrame

def size : Nat := 88

def read (source : List UInt8) : DequeuedFrame where
  outputId := u64At source 8
  bufferHostId := u64At source 24
  width := u32At source 40
  height := u32At source 44
  pixelFormat := u32At source 48
  presentation :=
    { value := i64At source 56
      timescale := i32At source 64 }
  duration :=
    { value := i64At source 72
      timescale := i32At source 68 }
  status := u32At source 80

end DequeuedFrame

/-- The sizes of `ReadDecodedFrameReply`, `ReadDecodedFrameChunkReply` and
`ReadBufferReply`. -/
def readDecodedFrameReplySize : Nat := 16
def readDecodedFrameChunkReplySize : Nat := 24
def readBufferReplySize : Nat := 24

variable {State : Type} (send : Send State)

def dequeueDecodedFrame (sessionId : UInt64) (caller : Caller State) :
    Caller State × Except Int32 DequeuedFrame :=
  sendRequest send DequeuedFrame.size DequeuedFrame.read
    (handleRequest .dequeueDecodedFrame sessionId) caller

/-- A request that names a decoded frame of a session. -/
def frameRequest (opcode : Opcode) (sessionId outputId : UInt64) :
    Request where
  opcode := opcode.code
  payload := SessionOutputPayload.bytes ⟨sessionId, outputId⟩

/-- `read_decoded_frame`: the whole reply. -/
def readDecodedFrame (sessionId outputId : UInt64) (caller : Caller State) :
    Caller State × Except Int32 (List UInt8) :=
  sendRequest send readDecodedFrameReplySize id
    (frameRequest .readDecodedFrame sessionId outputId) caller

def releaseDecodedFrame (sessionId outputId : UInt64)
    (caller : Caller State) : Caller State × Except Int32 Unit :=
  sendUnit send (frameRequest .releaseDecodedFrame sessionId outputId) caller

def bindDecodeOutputPool (payload : BindDecodeOutputPoolPayload)
    (caller : Caller State) : Caller State × Except Int32 Unit :=
  sendUnit send ⟨Opcode.bindDecodeOutputPool.code, payload.bytes⟩ caller

/-! ## Fetching in pieces -/

/-- One round of a fetching loop. -/
def fetchPiece (headerSize : Nat) (request : Nat → Nat → Request)
    (offset length : Nat) (caller : Caller State) :
    Caller State × Except Int32 (List UInt8) :=
  match sendRequestBytes send (request offset length) caller with
  | (caller, .error status) => (caller, .error status)
  | (caller, .ok bytes) =>
    if bytes.length < headerSize + length then (caller, .error (-12902))
    else (caller, .ok ((bytes.drop headerSize).take length))

theorem fetchPiece_of_reply {request : Nat → Nat → Request}
    {offset length : Nat} {caller : Caller State} {next : State}
    {header bytes : List UInt8}
    (reply : send caller.transport (request offset length) = (next, .ok (header ++ bytes)))
    (long : length ≤ bytes.length) :
    fetchPiece send header.length request offset length caller =
      (⟨next, caller.sent ++ [request offset length]⟩,
        .ok (bytes.take length)) := by
  have complete : ¬ (header ++ bytes).length < header.length + length := by
    rw [List.length_append]
    omega
  simp only [fetchPiece, sendRequestBytes, reply, if_neg complete]
  rw [List.drop_left]

def chunkReadRequest (sessionId outputId : UInt64) (offset length : Nat) :
    Request where
  opcode := Opcode.readDecodedFrameChunk.code
  payload := ReadDecodedFrameChunkPayload.bytes
    ⟨sessionId, outputId, UInt32.ofNat offset, UInt32.ofNat length⟩

/-- `read_decoded_frame_chunk` with pieces of at most `cap` bytes. -/
def readDecodedFrameChunks (cap : Nat) (positive : 0 < cap)
    (sessionId outputId : UInt64) (total : Nat) (caller : Caller State) :
    Caller State × Except Int32 (List UInt8) :=
  fetchPieces cap positive (fetchPiece send readDecodedFrameChunkReplySize
      (chunkReadRequest sessionId outputId))
    total 0 caller

def readDecodedFrameChunk (sessionId outputId : UInt64) (total : Nat)
    (caller : Caller State) : Caller State × Except Int32 (List UInt8) :=
  readDecodedFrameChunks send writeBufferChunkBytes writeBufferChunkBytes_pos sessionId outputId
    total caller

def readBufferRequest (bufferId generation : UInt64) (offset length : Nat) :
    Request where
  opcode := Opcode.readBuffer.code
  payload := BufferRangePayload.bytes
    ⟨bufferId, generation, UInt32.ofNat offset, UInt32.ofNat length⟩

def readBuffer (bufferId generation : UInt64) (total : Nat)
    (caller : Caller State) : Caller State × Except Int32 (List UInt8) :=
  fetchPieces writeBufferChunkBytes writeBufferChunkBytes_pos (fetchPiece send readBufferReplySize
      (readBufferRequest bufferId generation))
    total 0 caller

end Shim

end VtFerry
