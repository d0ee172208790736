import VtFerry.Worker.Mock.Store

/-!
# Refused requests of the mock backend

Some handlers of the mock backend change the tables before the last point at
which they can still fail: a recycled buffer gets its next generation before
its slot is looked up, and outputs are marked as delivered before the reply is
written.  In a sound store the slot is always found, and in a response buffer
of the server's size every such reply fits.  So a request that is refused has
changed nothing.
-/

namespace VtFerry

open KeyedList Mock

namespace MockBackend

/-- A request that fails has changed nothing. -/
def Served.Harmless (served : Served) (backend : MockBackend) : Prop :=
  served.reply = none → served.backend = backend

variable {backend : MockBackend}

theorem write_harmless {later : MockBackend} {capacity : Nat}
    {body : ReplyBody} (fits : body.size ≤ capacity) :
    (later.write capacity body).Harmless backend := by
  unfold write
  rw [if_neg (Nat.not_lt.mpr fits)]
  exact nofun

theorem Sound.slotRange_reused (sound : backend.Sound) {pool : Pool}
    {buffer : Buffer} (found : backend.findPool pool.id = some pool)
    (free : backend.buffers.find? (recyclable pool.id) = some buffer) :
    ∃ start, slotRange buffer.slotIndex pool.slotRegionSize pool.backing.length = some start := by
  have tested := List.find?_some free
  simp only [recyclable, Bool.and_eq_true, beq_iff_eq] at tested
  obtain ⟨housing, housing_found, fits⟩ :=
    sound.pool_of (List.mem_of_find?_eq_some free)
  rw [tested.1, found] at housing_found
  obtain rfl := Option.some.inj housing_found
  exact fits.slot

/-- The server's response buffer holds every reply of fixed size. -/
theorem Step.harmless {source : List UInt8} {opcode : Option Opcode}
    {served : Served} (sound : backend.Sound)
    (step : Step transportStorageCapacity source backend opcode served) :
    served.Harmless backend := by
  have room (size : Nat) (small : size ≤ 21096) :
      size ≤ transportStorageCapacity := small.trans (by decide)
  cases step with
  | refused => exact fun _ => rfl
  | answered | read => exact fun _ => write_backend _ _ _
  | sessionMade => exact write_harmless (room 24 (by decide))
  | poolMade => exact write_harmless (room 21096 (by decide))
  | reused found free =>
    obtain ⟨start, range⟩ := sound.slotRange_reused found free
    unfold reuseBuffer
    rw [range]
    exact write_harmless (room 112 (by decide))
  | slotOpened => exact write_harmless (room 112 (by decide))
  | taken _ _ _ _ small => exact write_harmless (room _ (small.trans (by decide)))
  | queued =>
    unfold encodePicture
    dsimp only
    repeat' split
    all_goals first
      | exact fun _ => rfl
      | exact nofun
  | _ => exact nofun

/-- A request the server's mock backend refuses, after any requests, leaves
the backend as it was. -/
theorem refused_request_harmless (maxOutputCount maxOutputBytes : Nat)
    (requests : List MockRequest) (version : UInt16) (request : Request)
    (refused : (dispatch transportStorageCapacity version request
      (after maxOutputCount maxOutputBytes requests)).reply = none) :
    (dispatch transportStorageCapacity version request
        (after maxOutputCount maxOutputBytes requests)).backend =
      after maxOutputCount maxOutputBytes requests :=
  (dispatch_step version request).harmless
    (after_sound maxOutputCount maxOutputBytes requests).1 refused

def oneSlotTaken : List MockRequest :=
  [⟨transportStorageCapacity, transportVersion, Opcode.createBufferPool.code,
      LittleEndian.u64Bytes 0 ++ LittleEndian.u32Bytes 1 ++
        LittleEndian.u32Bytes PixelFormat.bgra ++ LittleEndian.u32Bytes 2 ++
        LittleEndian.u32Bytes 2 ++ List.replicate 8 0⟩,
    ⟨transportStorageCapacity, transportVersion, Opcode.allocBuffer.code,
      LittleEndian.u64Bytes 1000⟩]

theorem second_lease_refused_harmless :
    (after 8 4096 oneSlotTaken).buffers.length = 1 ∧
      (dispatch transportStorageCapacity transportVersion
        ⟨Opcode.allocBuffer.code, LittleEndian.u64Bytes 1000⟩
        (after 8 4096 oneSlotTaken)).status = Status.resourceExhausted ∧
      (dispatch transportStorageCapacity transportVersion
        ⟨Opcode.allocBuffer.code, LittleEndian.u64Bytes 1000⟩
        (after 8 4096 oneSlotTaken)).backend = after 8 4096 oneSlotTaken :=
  ⟨by decide +kernel, by decide +kernel,
    refused_request_harmless 8 4096 oneSlotTaken transportVersion
      ⟨Opcode.allocBuffer.code, LittleEndian.u64Bytes 1000⟩
      (by decide +kernel)⟩

end MockBackend

end VtFerry
