import VtFerry.Foundation.LittleEndian

/-!
# Message headers, opcodes and statuses

Every request and every reply on the wire is a 24-byte `MessageHeader`
followed by `payloadLen` bytes.  The header is a packed little-endian record;
reading back what was written gives the same header.  Opcodes are the numbers
of the protocol crate, and `Opcode.ofCode?` recognises exactly those.
-/

namespace VtFerry

open LittleEndian

def transportVersion : UInt16 := 1

/-- The requests of the protocol. -/
inductive Opcode where
  | hello | ping | getCaps
  | createSession | setProperty | prepareSession
  | createBufferPool | allocBuffer | readBuffer | writeBuffer
  | encodeFrame | encodeFrameBatch
  | dequeueOutput | readOutput | releaseOutput
  | dequeueOutputBatch | releaseOutputBatch
  | recycleBuffer | drain | destroySession
  | enqueueEncodedFrame | dequeueDecodedFrame | releaseDecodedFrame
  | setDecodeFormat | readDecodedFrame | bindDecodeOutputPool
  | readDecodedFrameChunk | destroyBufferPool | enqueueEncodedFrameChunk
  deriving DecidableEq, Repr

namespace Opcode

def code : Opcode → UInt16
  | hello => 0x01
  | ping => 0x02
  | getCaps => 0x10
  | createSession => 0x20
  | setProperty => 0x22
  | prepareSession => 0x23
  | createBufferPool => 0x30
  | allocBuffer => 0x32
  | readBuffer => 0x34
  | writeBuffer => 0x36
  | encodeFrame => 0x40
  | encodeFrameBatch => 0x42
  | dequeueOutput => 0x50
  | readOutput => 0x52
  | releaseOutput => 0x54
  | dequeueOutputBatch => 0x56
  | releaseOutputBatch => 0x58
  | recycleBuffer => 0x60
  | drain => 0x70
  | destroySession => 0x80
  | enqueueEncodedFrame => 0x90
  | dequeueDecodedFrame => 0x92
  | releaseDecodedFrame => 0x94
  | setDecodeFormat => 0x96
  | readDecodedFrame => 0x98
  | bindDecodeOutputPool => 0x9A
  | readDecodedFrameChunk => 0x9C
  | destroyBufferPool => 0x9E
  | enqueueEncodedFrameChunk => 0xA0

def all : List Opcode :=
  [hello, ping, getCaps, createSession, setProperty, prepareSession,
    createBufferPool, allocBuffer, readBuffer, writeBuffer, encodeFrame,
    encodeFrameBatch, dequeueOutput, readOutput, releaseOutput,
    dequeueOutputBatch, releaseOutputBatch, recycleBuffer, drain,
    destroySession, enqueueEncodedFrame, dequeueDecodedFrame,
    releaseDecodedFrame, setDecodeFormat, readDecodedFrame,
    bindDecodeOutputPool, readDecodedFrameChunk, destroyBufferPool,
    enqueueEncodedFrameChunk]

def ofCode? (value : UInt16) : Option Opcode :=
  all.find? fun opcode => opcode.code == value

@[simp] theorem ofCode?_code (opcode : Opcode) : ofCode? opcode.code = some opcode := by
  cases opcode <;> rfl

end Opcode

namespace Status

def ok : UInt32 := 0
def unsupportedOpcode : UInt32 := 1
def unsupportedVersion : UInt32 := 2
def unsupportedCodecOrFormat : UInt32 := 3
def invalidHandle : UInt32 := 4
def staleGeneration : UInt32 := 5
def invalidState : UInt32 := 6
def boundsViolation : UInt32 := 7
def internalFailure : UInt32 := 8
def timeout : UInt32 := 9
def resourceExhausted : UInt32 := 10
def propertyNotSupported : UInt32 := 11

end Status

structure MessageHeader where
  version : UInt16
  opcode : UInt16
  flags : UInt32
  requestId : UInt64
  payloadLen : UInt32
  status : UInt32
  deriving DecidableEq, Repr

namespace MessageHeader

/-- `size_of::<MessageHeader>()`. -/
def size : Nat := 24

def bytes (header : MessageHeader) : List UInt8 :=
  u16Bytes header.version ++ (u16Bytes header.opcode ++
    (u32Bytes header.flags ++ (u64Bytes header.requestId ++
      (u32Bytes header.payloadLen ++ u32Bytes header.status))))

def read (source : List UInt8) : MessageHeader where
  version := u16At source 0
  opcode := u16At source 2
  flags := u32At source 4
  requestId := u64At source 8
  payloadLen := u32At source 16
  status := u32At source 20

@[simp] theorem length_bytes (header : MessageHeader) : header.bytes.length = size := by
  simp [bytes, u16Bytes, u32Bytes, u64Bytes, size]

theorem bytes_ne_nil (header : MessageHeader) : header.bytes ≠ [] := by
  apply List.ne_nil_of_length_pos
  rw [length_bytes]
  decide

@[simp] theorem read_bytes (header : MessageHeader) : read header.bytes = header := by
  obtain ⟨version, opcode, flags, requestId, payloadLen, status⟩ := header
  have tail := word_encode_append 4 status.toNat []
  rw [List.append_nil] at tail
  simp only [read, bytes, u16At, u32At, u64At, u16Bytes, u32Bytes, u64Bytes]
  simp (disch := decide) [word_skip, tail]

end MessageHeader

/-- A request without its header: what is left to serve. -/
structure Request where
  opcode : UInt16
  payload : List UInt8
  deriving DecidableEq, Repr

end VtFerry
