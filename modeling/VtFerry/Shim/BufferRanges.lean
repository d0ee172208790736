import VtFerry.Foundation.Patches
import VtFerry.Shim.DecodeTransport
import VtFerry.Shim.RequestSizes

/-!
# Writing and reading a whole buffer

`write_buffer` cuts the bytes of a buffer into pieces and sends each with its
offset; `read_buffer` asks for the bytes piece by piece.  Behind a transport
that keeps the bytes of a lease, where a write patches them and a read returns
a slice of them, the first leaves exactly the bytes it was given, and the
second returns the bytes that are there.
-/

namespace VtFerry

open List Patches Pieces

namespace Shim

variable {State : Type} {send : Send State} {bufferId generation : UInt64}
variable {size : Nat} {holds : List UInt8 → State → Prop}

/-- The transport keeps the bytes of a lease: `holds` says what they are. -/
structure KeepsBytes (send : Send State) (bufferId generation : UInt64)
    (size : Nat) (holds : List UInt8 → State → Prop) : Prop where
  writes : ∀ content state offset piece, holds content state →
    content.length = size → piece.length ≤ writeBufferChunkBytes →
    offset + piece.length ≤ size →
    (send state (writeBufferRequest bufferId generation offset piece)).2 = .ok [] ∧
      holds (Patch.apply ⟨offset, piece⟩ content)
        (send state (writeBufferRequest bufferId generation offset piece)).1
  reads : ∀ content state offset length, holds content state →
    content.length = size → length ≤ writeBufferChunkBytes →
    offset + length ≤ size → ∃ header, header.length = readBufferReplySize ∧
      (send state (readBufferRequest bufferId generation offset length)).2 =
        .ok (header ++ (content.drop offset).take length) ∧
      holds content (send state (readBufferRequest bufferId generation offset length)).1

/-- The next piece of what is being written replaces the next bytes of what
was there. -/
theorem apply_next (written piece content : List UInt8) :
    Patch.apply ⟨written.length, piece⟩ (written ++ content.drop written.length) =
      (written ++ piece) ++
        content.drop (written ++ piece).length := by
  unfold Patch.apply
  dsimp only
  rw [take_left, drop_append, drop_eq_nil_of_le (by omega), nil_append, drop_drop, length_append]
  congr 2
  omega

variable {content : List UInt8} {caller : Caller State}

theorem KeepsBytes.writeBuffer (keeps : KeepsBytes send bufferId generation size holds)
    {bytes : List UInt8} (start : holds content caller.transport)
    (filled : content.length = size) (length : bytes.length = size) :
    (writeBuffer send bufferId generation bytes caller).2 = .ok () ∧ holds bytes
        (writeBuffer send bufferId generation bytes caller).1.transport := by
  let ready (offset : Nat) (rest : List UInt8) (caller : Caller State) :
      Prop :=
    ∃ written, written ++ rest = bytes ∧ written.length = offset ∧
      holds (written ++ content.drop offset) caller.transport
  have accepted (offset : Nat) (piece rest : List UInt8) (caller : Caller State) (_ : piece ≠ [])
      (short : piece.length ≤ writeBufferChunkBytes)
      (isReady : ready offset (piece ++ rest) caller) :
      (sendUnit send (writeBufferRequest bufferId generation offset piece) caller).2 = .ok () ∧
        ready (offset + piece.length) rest
          (sendUnit send (writeBufferRequest bufferId generation offset piece) caller).1 := by
    obtain ⟨written, whole, rfl, held⟩ := isReady
    have inside : written.length + piece.length ≤ size := by
      rw [← length, ← whole, length_append, length_append]
      omega
    have long : (written ++ content.drop written.length).length = size := by
      rw [length_append, length_drop]
      omega
    obtain ⟨reply, patched⟩ := keeps.writes _ caller.transport
      written.length piece held long short inside
    rw [apply_next] at patched
    refine ⟨?_, written ++ piece, ?_, length_append, ?_⟩
    · simp only [sendUnit, sendRequestBytes, reply]
      rfl
    · rw [append_assoc, whole]
    · rwa [length_append] at patched
  have finished : (Shim.writeBuffer send bufferId generation bytes caller).2 =
      .ok () ∧ ready (0 + bytes.length) []
        (Shim.writeBuffer send bufferId generation bytes caller).1 :=
    sendPieces_completes ready accepted 0 bytes caller ⟨[], rfl, rfl, start⟩
  obtain ⟨succeeded, written, whole, reached, held⟩ := finished
  rw [append_nil] at whole
  rw [Nat.zero_add, length, ← filled, drop_length, append_nil, whole] at held
  exact ⟨succeeded, held⟩

theorem KeepsBytes.readBuffer (keeps : KeepsBytes send bufferId generation size holds)
    (start : holds content caller.transport) (filled : content.length = size) :
    (readBuffer send bufferId generation size caller).2 = .ok content ∧ holds content
        (readBuffer send bufferId generation size caller).1.transport := by
  have slices (offset length : Nat) (caller : Caller State)
      (held : holds content caller.transport) (_ : 0 < length)
      (short : length ≤ writeBufferChunkBytes)
      (inside : offset + length ≤ size) :
      holds content (fetchPiece send readBufferReplySize
          (readBufferRequest bufferId generation) offset length
          caller).1.transport ∧
        (fetchPiece send readBufferReplySize
          (readBufferRequest bufferId generation) offset length caller).2 =
            .ok ((content.drop offset).take length) := by
    obtain ⟨header, header_length, reply, kept⟩ :=
      keeps.reads content caller.transport offset length held filled short inside
    have slice : ((content.drop offset).take length).length = length := by
      rw [length_take, length_drop]
      omega
    have answered : send caller.transport (readBufferRequest bufferId generation offset length) =
          (_, .ok (header ++ (content.drop offset).take length)) :=
      Prod.ext rfl reply
    have fetched := fetchPiece_of_reply send answered (Nat.le_of_eq slice.symm)
    rw [header_length] at fetched
    rw [fetched]
    refine ⟨kept, ?_⟩
    rw [take_of_length_le (Nat.le_of_eq slice)]
  obtain ⟨kept, fetched⟩ := fetchPieces_eq (by decide) slices 0 caller start
  rw [drop_zero, Nat.sub_zero, ← filled, take_length] at fetched
  rw [filled] at fetched
  exact ⟨fetched, kept⟩

/-! ## Writing again and again -/

def writeBuffers (send : Send State) (bufferId generation : UInt64) :
    List (List UInt8) → Caller State → Caller State × Except Int32 Unit
  | [], caller => (caller, .ok ())
  | bytes :: rest, caller =>
    match writeBuffer send bufferId generation bytes caller with
    | (caller, .error status) => (caller, .error status)
    | (caller, .ok ()) => writeBuffers send bufferId generation rest caller

theorem KeepsBytes.writeBuffers (keeps : KeepsBytes send bufferId generation size holds)
    {bytes : List UInt8} {uploads : List (List UInt8)}
    (start : holds content caller.transport) (filled : content.length = size)
    (lengths : ∀ upload ∈ uploads, upload.length = size)
    (length : bytes.length = size) :
    (writeBuffers send bufferId generation (uploads ++ [bytes]) caller).2 = .ok () ∧
      holds bytes (writeBuffers send bufferId generation
        (uploads ++ [bytes]) caller).1.transport := by
  induction uploads generalizing content caller with
  | nil =>
    obtain ⟨succeeded, held⟩ := keeps.writeBuffer start filled length
    rw [nil_append, Shim.writeBuffers]
    generalize Shim.writeBuffer send bufferId generation bytes caller = result at succeeded held
    obtain ⟨next, outcome⟩ := result
    obtain rfl : outcome = .ok () := succeeded
    exact ⟨rfl, held⟩
  | cons upload uploads induction =>
    have first : upload.length = size :=
      lengths upload mem_cons_self
    obtain ⟨succeeded, held⟩ := keeps.writeBuffer start filled first
    rw [cons_append, Shim.writeBuffers]
    generalize Shim.writeBuffer send bufferId generation upload caller = result at succeeded held
    obtain ⟨next, outcome⟩ := result
    obtain rfl : outcome = .ok () := succeeded
    apply induction held first
    intro later member
    exact lengths later (mem_cons_of_mem upload member)

end Shim

end VtFerry
