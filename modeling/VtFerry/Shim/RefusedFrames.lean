import VtFerry.Shim.Delivery

/-!
# Frames the worker refuses

`VTCompressionSessionEncodeFrame` prepares the session, uploads the image and
hands the frame in, and the worker may refuse each of the three.  The frame
joins the pending queue, with a reference to its image, before it is handed
in, and nobody takes it off again: a refused frame leaves no trace exactly if
the worker refused the preparation or the upload.
-/

namespace VtFerry

namespace Shim

variable {State : Type} (send : Send State)

/-- The worker takes everything up to the frame itself. -/
def ReachesEncode (session : CompressionSession) (image : ImageBuffer)
    (caller : Caller State) : Prop :=
  (vtfPrepareSessionIfNeeded send session caller).2.2 = 0 ∧ (uploadImage send image
      (vtfPrepareSessionIfNeeded send session caller).2.1).2 = .ok ()

theorem pendingCount_vtfPrepareSessionIfNeeded (session : CompressionSession)
    (caller : Caller State) :
    (vtfPrepareSessionIfNeeded send session caller).1.pendingCount =
      session.pendingCount := by
  unfold vtfPrepareSessionIfNeeded
  split
  · rfl
  split
  · rfl
  · rfl

theorem refused_call {pushed : Bool} {session : CompressionSession}
    {image : ImageBuffer} {presentation duration : Time}
    {caller : Caller State} (valid : session.invalidated = false)
    (writable : image.state = .guestWritable)
    (refused : (compressionSessionEncodeFrame send pushed session image
      presentation duration caller).status = -12902) :
    (ReachesEncode send session image caller ∧
      (compressionSessionEncodeFrame send pushed session image presentation
        duration caller).session.pendingCount = session.pendingCount + 1 ∧
      (compressionSessionEncodeFrame send pushed session image presentation
        duration caller).imageState = .queuedToHost) ∨
    (¬ ReachesEncode send session image caller ∧
      (compressionSessionEncodeFrame send pushed session image presentation
        duration caller).session.pendingCount = session.pendingCount ∧
      (compressionSessionEncodeFrame send pushed session image presentation
        duration caller).imageState = image.state) := by
  have count := pendingCount_vtfPrepareSessionIfNeeded send session caller
  unfold compressionSessionEncodeFrame ReachesEncode at *
  rw [if_neg (by simp [valid]), if_neg (by simp [writable])] at refused ⊢
  generalize vtfPrepareSessionIfNeeded send session caller = prepared at count refused ⊢
  obtain ⟨ready, asked, status⟩ := prepared
  dsimp only at count refused ⊢
  by_cases unprepared : status = 0
  · rw [if_neg (not_not.mpr unprepared)] at refused ⊢
    cases uploaded : uploadImage send image asked with
    | mk answered outcome =>
      rw [uploaded] at refused
      cases outcome with
      | error code => exact .inr ⟨nofun, count, rfl⟩
      | ok none =>
        cases pushed with
        | false => cases refused
        | true =>
          refine .inl ⟨⟨unprepared, rfl⟩, ?_⟩
          simp only [Bool.not_true, Bool.false_eq_true, if_false]
          split
          · exact ⟨congrArg _ count, rfl⟩
          · exact ⟨congrArg _ count, rfl⟩
  · rw [if_pos unprepared]
    exact .inr ⟨fun reached => unprepared reached.1, count, rfl⟩

namespace Guest

variable (config : Config)

/-- The pending frames and the image are as before. -/
def Untraced (before after : Guest State) (buffer : Nat) : Prop :=
  after.session.pending.toList = before.session.pending.toList ∧
    (after.buffers.lookup buffer).map (fun object =>
      (object.image.state, object.refcount)) =
    (before.buffers.lookup buffer).map fun object =>
      (object.image.state, object.refcount)

/-- A frame that the worker does not accept leaves no trace exactly if it was
not handed in. -/
theorem refused_frame_untraced_iff (memory : Bool) (fuel buffer refcon : Nat)
    (presentation duration : Time) {guest : Guest State}
    {object : PixelBufferObject}
    (known : guest.buffers.lookup buffer = some object)
    (valid : guest.session.invalidated = false)
    (writable : object.image.state = .guestWritable)
    (refused : (compressionSessionEncodeFrame send memory guest.session.core
      object.image presentation duration guest.caller).status = -12902) :
    (guest.encodeFrame send config memory fuel buffer refcon presentation
      duration).2 = some (-12902) ∧
    (Untraced guest (guest.encodeFrame send config memory fuel buffer refcon
        presentation duration).1 buffer ↔
      ¬ ReachesEncode send guest.session.core object.image guest.caller) := by
  have failed : (compressionSessionEncodeFrame send memory guest.session.core
      object.image presentation duration guest.caller).status ≠ 0 := by
    rw [refused]
    decide
  have outcome := refused_call send valid writable refused
  unfold Guest.encodeFrame
  rw [known]
  dsimp only
  rw [if_pos failed, refused]
  refine ⟨rfl, ?_⟩
  generalize compressionSessionEncodeFrame send memory guest.session.core
    object.image presentation duration guest.caller = call at outcome ⊢
  unfold Untraced
  rw [known]
  rcases outcome with ⟨reached, count, state⟩ | ⟨unreached, count, state⟩
  · have queued : call.session.pendingCount ≠ guest.session.pending.count := by
      rw [count]
      exact Nat.succ_ne_self _
    refine iff_of_false ?_ (not_not.mpr reached)
    rintro ⟨-, kept⟩
    simp [afterEncode, state, writable] at kept
  · have unqueued : call.session.pendingCount = guest.session.pending.count :=
      count
    refine iff_of_true ?_ unreached
    simp [afterEncode, unqueued, state]

/-! ## A worker that refuses one kind of request -/

def refusing (opcode : Opcode) : Send Unit :=
  fun _ request =>
    ((), if request.opcode = opcode.code then .error 5 else .ok [])

def leasedBuffer : PixelBufferObject where
  image := leasedImage ⟨5, 1, 4⟩
  poolRef := 0
  poolHostId := 4
  recycled := false
  refcount := 1

def oneBufferGuest : Guest Unit where
  caller := ⟨(), []⟩
  session := ⟨1, false, false, true, 0, 1, 1, 0, none, .empty⟩
  pools := ∅
  buffers := (∅ : FiniteMap Nat PixelBufferObject).insert 0 leasedBuffer
  samples := ∅
  nextHandle := 1
  deferredReleases := []
  reactions := []
  history := {}

def submitted (opcode : Opcode) : Guest Unit × Option Int32 :=
  oneBufferGuest.encodeFrame (refusing opcode) {} true 0 0 7 ⟨0, 1⟩ ⟨1, 30⟩

theorem refused_upload_untraced :
    (submitted .writeBuffer).2 = some (-12902) ∧
      Untraced oneBufferGuest (submitted .writeBuffer).1 0 := by
  have known : oneBufferGuest.buffers.lookup 0 = some leasedBuffer := rfl
  obtain ⟨failed, untraced⟩ := refused_frame_untraced_iff
    (refusing .writeBuffer) {} true 0 0 7 ⟨0, 1⟩ ⟨1, 30⟩ known rfl rfl
    (by decide +kernel)
  refine ⟨failed, untraced.mpr ?_⟩
  rintro ⟨-, uploaded⟩
  exact absurd (congrArg statusOf uploaded) (by decide +kernel)

/-- A frame that is refused at last stays pending, and its buffer counts as
queued. -/
theorem refused_encode_leaves_frame :
    (submitted .encodeFrame).2 = some (-12902) ∧
      (submitted .encodeFrame).1.session.pending.toList = [(0, 7)] ∧
      ((submitted .encodeFrame).1.buffers.lookup 0).map (fun object =>
        (object.image.state, object.refcount)) = some (ImageState.queuedToHost, 2) := by
  decide +kernel

end Guest

end Shim

end VtFerry
