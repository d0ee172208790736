import VtFerry.Worker.LeaseHistory
import VtFerry.Worker.VtReal.SlotBytes

/-!
# Where requests write

Two requests write to the surfaces: `ALLOC_BUFFER` clears the slot it gives out,
and `WRITE_BUFFER` stores pixels.  Both stay inside a slot that the guest may
write afterwards, so memory outside the slots of the connection's own buffers is
never written.
-/

namespace VtFerry

namespace VtRealBackend

variable {host : HostCalls} {source : List UInt8} {backend : VtRealBackend}
variable {surfaces : Surfaces} {opcode : Option Opcode} {served : Served}
variable {region position : Nat}

/-- The byte lies in a slot that the guest may write. -/
def Writable (backend : VtRealBackend) (region position : Nat) : Prop :=
  ∃ bufferId buffer, backend.buffers.lookup bufferId = some buffer ∧
    buffer.state = .guestWritable ∧ buffer.mappedRegion = region ∧
    buffer.mappedOffset ≤ position ∧
    position < buffer.mappedOffset + buffer.mappedSize

/-- Bytes that are not the guest's to write keep their value. -/
def WritesInside (before : Surfaces) (served : Served) : Prop :=
  ∀ region position, served.surfaces.memory region position = before.memory region position ∨
    served.backend.Writable region position

theorem writesInside_of_same (same : served.surfaces.memory = surfaces.memory) :
    WritesInside surfaces served :=
  fun _ _ => .inl (by rw [same])

theorem writesInside_of_range {bufferId start : Nat} {buffer : VtRealBuffer} {data : List UInt8}
    (found : served.backend.buffers.lookup bufferId = some buffer)
    (writable : buffer.state = .guestWritable)
    (written : served.surfaces.memory =
      surfaces.memory.writeRange buffer.mappedRegion (buffer.mappedOffset + start) data)
    (fits : start + data.length ≤ buffer.mappedSize) :
    WritesInside surfaces served := by
  intro region position
  rw [written, HostMemory.writeRange]
  split
  next inside =>
    exact .inr ⟨bufferId, buffer, found, writable, inside.1.symm, by omega, by omega⟩
  · exact .inl rfl

theorem place_of_made {buffer : VtRealBuffer} {width height : UInt32} {pixels : PixelBuffer}
    (made : buffer.Made width height pixels) :
    pixels.region = buffer.mappedRegion ∧ pixels.base = buffer.mappedOffset := by
  have wraps := made.wraps
  unfold wrapPoolSlot at wraps
  split at wraps
  · cases wraps
    exact ⟨rfl, rfl⟩
  split at wraps
  · cases wraps
    exact ⟨rfl, rfl⟩
  · cases wraps

theorem allocBuffer_writesInside (kept : backend.WellKept) :
    WritesInside surfaces (allocBuffer host source backend surfaces) := by
  unfold allocBuffer
  split
  · exact writesInside_of_same rfl
  split
  · exact writesInside_of_same rfl
  next pool _ =>
    dsimp only
    split
    · exact writesInside_of_same rfl
    next bufferId buffer taken =>
      have found := (mem_freeBuffers.mp (List.mem_of_getElem? taken)).1
      obtain ⟨width, height, pixels, made⟩ := (kept.made bufferId buffer found).restated
        (buffer.generation + 1) .guestWritable
      obtain ⟨inRegion, atBase⟩ := place_of_made made
      rw [vtfEnsureSourcePixelBuffer_of_some host made.pixels]
      dsimp only
      split
      · exact writesInside_of_same rfl
      · have zeros : 0 + (List.replicate buffer.mappedSize (0 : UInt8)).length ≤
            buffer.mappedSize := by simp
        refine writesInside_of_range (AList.lookup_insert _) rfl ?_ zeros
        rw [inRegion, atBase]
        rfl

theorem writeBuffer_writesInside :
    WritesInside surfaces (writeBuffer host source backend surfaces) := by
  unfold writeBuffer
  split
  · exact writesInside_of_same rfl
  dsimp only
  split
  · exact writesInside_of_same rfl
  next whole =>
    split
    · exact writesInside_of_same rfl
    split
    · exact writesInside_of_same rfl
    split
    · exact writesInside_of_same rfl
    next state =>
      split
      · exact writesInside_of_same rfl
      next fits =>
        split
        · exact writesInside_of_same rfl
        next ready pixelBuffer ensured =>
          obtain rfl := vtfEnsureSourcePixelBuffer_ok ensured
          simp only [Bool.not_eq_true', Bool.not_eq_false] at fits
          have inBounds := rangeFits_iff.mp fits
          refine writesInside_of_range (AList.lookup_insert _) (not_not.mp state) rfl ?_
          rw [List.length_drop, not_not.mp whole, Nat.add_sub_cancel_left]
          exact inBounds

theorem dispatch_writesInside (kept : backend.WellKept) (host : HostCalls)
    (request : Request) (response : List UInt8) (surfaces : Surfaces) :
    WritesInside surfaces (dispatch host request response backend surfaces) := by
  have effect := dispatch_effect host request response backend surfaces
  by_cases allocates : Opcode.ofCode? request.opcode = some .allocBuffer
  · unfold dispatch
    rw [allocates]
    exact allocBuffer_writesInside kept
  by_cases writes : Opcode.ofCode? request.opcode = some .writeBuffer
  · unfold dispatch
    rw [writes]
    exact writeBuffer_writesInside
  generalize Opcode.ofCode? request.opcode = opcode at *
  generalize dispatch host request response backend surfaces = served at *
  cases effect with
  | leased => exact absurd rfl allocates
  | written => exact absurd rfl writes
  | decodedDequeued dequeue =>
    cases dequeue with
    | _ => exact writesInside_of_same rfl
  | _ => exact writesInside_of_same rfl

end VtRealBackend

namespace WorkerProcess

/-- In every run, an event leaves each byte of the surfaces as it was, unless it
is a request of a connection with a slot around that byte which its guest may
write. -/
theorem memory_written_inside_leases (surfaces : Surfaces) (events : List WorkerEvent)
    (event : WorkerEvent) (region position : Nat) :
    let process := Execution.run step (started surfaces) events
    (process.step event).surfaces.memory region position = process.surfaces.memory region position ∨
      ∃ id host request response connection, event = .request id host request response ∧
        (process.step event).connections.lookup id = some connection ∧
        connection.backend.Writable region position := by
  intro process
  have kept : process.Kept := run_kept surfaces events
  have moves := process.step_moves event
  generalize process.step event = next at *
  cases moves with
  | @serves id host request response connection found idle =>
    have inside := VtRealBackend.dispatch_writesInside (kept.connections id connection
      found).backend host request response process.surfaces region position
    rw [afterServing, launch_surfaces, launch_connections]
    exact inside.imp_right fun writable =>
      ⟨id, host, request, response, _, rfl, AList.lookup_insert _, writable⟩
  | _ => exact .inl rfl

end WorkerProcess

end VtFerry
