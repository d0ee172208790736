import VtFerry.Foundation.TicketPlaces
import VtFerry.Worker.OutputDelivery

/-!
# Decode errors and the frames before them

A decoder callback without a frame records an error for its session, and a
dequeue that finds the session's queue empty takes the error and reports it.
The test and the taking are two critical sections, so callbacks may run in
between: a frame that is pushed there, followed by an error, is overtaken by
the error.  Histories here list pushes, answers, records and reports in the
order in which they happen; a session's ledger sums up what is outstanding.
-/

namespace VtFerry

open Execution List LittleEndian TicketQueue VtRealBackend

inductive DecodeNote where
  /-- A callback's push on the session's queue. -/
  | enqueued (sessionId outputId : Nat)
  /-- A dequeue of the session answered with the frame. -/
  | dequeued (sessionId outputId : Nat)
  | recorded (sessionId : Nat) (status : Int32)
  /-- A dequeue of the session answered with output 0 and the status. -/
  | reported (sessionId : Nat) (status : UInt32)
  deriving DecidableEq, Repr

/-! ## Ledgers -/

/-- The frames enqueued for a session, those enqueued when its last error was
recorded, and that error until it is reported. -/
structure ErrorLedger where
  enqueued : List Nat
  before : List Nat
  pending : Option Int32

namespace ErrorLedger

variable {sessionId : Nat} {history : List DecodeNote}

def enter (sessionId : Nat) (ledger : ErrorLedger) : DecodeNote → ErrorLedger
  | .enqueued session outputId =>
    if session = sessionId then
      { ledger with enqueued := ledger.enqueued ++ [outputId] }
    else ledger
  | .dequeued _ _ => ledger
  | .recorded session status =>
    if session = sessionId then
      { ledger with before := ledger.enqueued, pending := some status }
    else ledger
  | .reported session _ =>
    if session = sessionId then { ledger with pending := none } else ledger

def of (sessionId : Nat) (history : List DecodeNote) : ErrorLedger :=
  history.foldl (enter sessionId) ⟨[], [], none⟩

theorem of_append (sessionId : Nat) (history : List DecodeNote) (note : DecodeNote) :
    of sessionId (history ++ [note]) =
      enter sessionId (of sessionId history) note := by
  simp [of]

variable {note : DecodeNote}

theorem before_of_other (ledger : ErrorLedger)
    (unrecorded : ∀ status, note ≠ .recorded sessionId status) :
    (enter sessionId ledger note).before = ledger.before := by
  cases note with
  | dequeued session outputId => rfl
  | recorded session status =>
    have foreign : session ≠ sessionId := by
      rintro rfl
      exact unrecorded status rfl
    rw [enter, if_neg foreign]
  | _ =>
    rw [enter]
    split
    · rfl
    · rfl

theorem pending_of_other (ledger : ErrorLedger)
    (unrecorded : ∀ status, note ≠ .recorded sessionId status)
    (unreported : ∀ status, note ≠ .reported sessionId status) :
    (enter sessionId ledger note).pending = ledger.pending := by
  cases note with
  | enqueued session outputId =>
    rw [enter]
    split
    · rfl
    · rfl
  | dequeued session outputId => rfl
  | recorded session status =>
    have foreign : session ≠ sessionId := by
      rintro rfl
      exact unrecorded status rfl
    rw [enter, if_neg foreign]
  | reported session status =>
    have foreign : session ≠ sessionId := by
      rintro rfl
      exact unreported status rfl
    rw [enter, if_neg foreign]

theorem enqueued_of_other (ledger : ErrorLedger)
    (unpushed : ∀ outputId, note ≠ .enqueued sessionId outputId) :
    (enter sessionId ledger note).enqueued = ledger.enqueued := by
  cases note with
  | enqueued session outputId =>
    have foreign : session ≠ sessionId := by
      rintro rfl
      exact unpushed outputId rfl
    rw [enter, if_neg foreign]
  | dequeued session outputId => rfl
  | _ =>
    rw [enter]
    split
    · rfl
    · rfl

theorem mem_enqueued_enter {ledger : ErrorLedger} (note : DecodeNote)
    {outputId : Nat} (known : outputId ∈ ledger.enqueued) :
    outputId ∈ (enter sessionId ledger note).enqueued := by
  by_cases pushed : ∃ other, note = .enqueued sessionId other
  · obtain ⟨other, rfl⟩ := pushed
    rw [enter, if_pos rfl]
    exact mem_append_left _ known
  · rwa [enqueued_of_other ledger fun other same => pushed ⟨other, same⟩]

theorem mem_enqueued {outputId : Nat} (member : .enqueued sessionId outputId ∈ history) :
    outputId ∈ (of sessionId history).enqueued := by
  induction history using reverseRecOn with
  | nil => cases member
  | append_singleton history note induction =>
    rw [of_append]
    rcases mem_append.mp member with earlier | last
    · exact mem_enqueued_enter note (induction earlier)
    · cases mem_singleton.mp last
      simp [enter]

theorem before_subset :
    ∀ outputId ∈ (of sessionId history).before,
      outputId ∈ (of sessionId history).enqueued := by
  induction history using reverseRecOn with
  | nil =>
    intro outputId member
    cases member
  | append_singleton history note induction =>
    rw [of_append]
    intro outputId member
    by_cases own : ∃ status, note = .recorded sessionId status
    · obtain ⟨status, rfl⟩ := own
      rw [enter, if_pos rfl] at member ⊢
      exact member
    · rw [before_of_other _ fun status same => own ⟨status, same⟩] at member
      exact mem_enqueued_enter note (induction outputId member)

/-- The pending error is the last one recorded for the session, nothing was
reported to the session since, and the ledger has the frames before it. -/
theorem pending_split {status : Int32} (pending : (of sessionId history).pending = some status) :
    ∃ earlier later, history = earlier ++ .recorded sessionId status :: later ∧
      (∀ other, .recorded sessionId other ∉ later) ∧
      (∀ other, .reported sessionId other ∉ later) ∧
      ∀ outputId, .enqueued sessionId outputId ∈ earlier →
        outputId ∈ (of sessionId history).before := by
  induction history using reverseRecOn with
  | nil => cases pending
  | append_singleton history note induction =>
    rw [of_append] at pending ⊢
    by_cases own : ∃ other, note = .recorded sessionId other
    · obtain ⟨other, rfl⟩ := own
      rw [enter, if_pos rfl] at pending ⊢
      cases pending
      exact ⟨history, [], rfl, by simp, by simp, fun outputId member => mem_enqueued member⟩
    have unrecorded := not_exists.mp own
    by_cases told : ∃ other, note = .reported sessionId other
    · obtain ⟨other, rfl⟩ := told
      rw [enter, if_pos rfl] at pending
      cases pending
    have unreported := not_exists.mp told
    rw [pending_of_other _ unrecorded unreported] at pending
    rw [before_of_other _ unrecorded]
    obtain ⟨earlier, later, split, recorded, reported, frames⟩ :=
      induction pending
    refine ⟨earlier, later ++ [note], ?_, ?_, ?_, frames⟩
    · rw [split, append_assoc, cons_append]
    · intro other member
      rcases mem_append.mp member with before | last
      · exact recorded other before
      · exact unrecorded other (mem_singleton.mp last).symm
    · intro other member
      rcases mem_append.mp member with before | last
      · exact reported other before
      · exact unreported other (mem_singleton.mp last).symm

theorem pending_of_recorded {earlier later : List DecodeNote} {status : Int32}
    (unrecorded : ∀ other, .recorded sessionId other ∉ later)
    (unreported : ∀ other, .reported sessionId other ∉ later) :
    (of sessionId (earlier ++ .recorded sessionId status :: later)).pending =
        some status := by
  induction later using reverseRecOn with
  | nil => simp [of_append, enter]
  | append_singleton later note induction =>
    rw [← cons_append, ← append_assoc, of_append, pending_of_other]
    · exact induction (fun other member => unrecorded other (mem_append_left _ member))
        (fun other member => unreported other (mem_append_left _ member))
    · rintro other rfl
      exact unrecorded other (by simp)
    · rintro other rfl
      exact unreported other (by simp)

end ErrorLedger

/-- Every report is of the session's latest error, which was not reported
before, and comes after all frames enqueued before that error. -/
def ReportsInOrder (history : List DecodeNote) : Prop :=
  ∀ before after sessionId status, history = before ++ .reported sessionId status :: after →
    ∃ earlier error later, before = earlier ++ .recorded sessionId error :: later ∧
      status = error.toUInt32 ∧
      (∀ other, .recorded sessionId other ∉ later) ∧
      (∀ other, .reported sessionId other ∉ later) ∧
      ∀ outputId, .enqueued sessionId outputId ∈ earlier → .dequeued sessionId outputId ∈ before

/-- A report of the pending error, after the frames before it, is in order. -/
theorem ReportsInOrder.append {history : List DecodeNote}
    (inOrder : ReportsInOrder history) (note : DecodeNote)
    (due : ∀ sessionId status, note = .reported sessionId status →
      ∃ error, (ErrorLedger.of sessionId history).pending = some error ∧ status = error.toUInt32 ∧
        ∀ outputId ∈ (ErrorLedger.of sessionId history).before,
          .dequeued sessionId outputId ∈ history) :
    ReportsInOrder (history ++ [note]) := by
  intro before after sessionId status split
  rcases eq_nil_or_concat after with rfl | ⟨rest, last, rfl⟩
  · obtain ⟨rfl, same⟩ := append_inj' split rfl
    obtain ⟨error, pending, equal, frames⟩ :=
      due sessionId status (singleton_inj.mp same)
    obtain ⟨earlier, later, recorded, unrecorded, unreported, known⟩ :=
      ErrorLedger.pending_split pending
    exact ⟨earlier, error, later, recorded, equal, unrecorded, unreported,
      fun outputId member => frames outputId (known outputId member)⟩
  · rw [concat_eq_append, ← cons_append, ← append_assoc] at split
    exact inOrder before rest sessionId status (append_inj' split rfl).1

/-! ## Histories of the decode side -/

/-- What the answer to a dequeue tells the guest. -/
def replyNotes : ReplyBody → List DecodeNote
  | .decodedFrame reply =>
    if reply.outputId = 0 then [.reported reply.sessionId reply.status]
    else [.dequeued reply.sessionId reply.outputId]
  | _ => []

namespace DecodeSide

variable {side later : DecodeSide} {surfaces : Surfaces}
  {event : DecodeEvent} {history : List DecodeNote}

def errors (side : DecodeSide) : FiniteMap Nat Int32 :=
  side.backend.decodedOutputState.decodeErrors

def notes (surfaces : Surfaces) (side : DecodeSide) :
    DecodeEvent → List DecodeNote
  | .callbackStarts _ sessionId sample =>
    match decompressionOutput sessionId sample with
    | .error status => [.recorded sessionId status]
    | .ok _ => []
  | .callbackStep thread =>
    match side.callbacks.lookup thread with
    | some ⟨output, .stored outputId⟩ =>
      [.enqueued output.sessionId outputId]
    | _ => []
  | .answer =>
    match side.dequeuing with
    | none => []
    | some dequeue =>
      replyNotes (side.backend.answerDecodedDequeue surfaces dequeue).body
  | _ => []

theorem decompressionOutput_error_ne_zero {sessionId : Nat}
    {sample : DecodedSample} {status : Int32}
    (failed : decompressionOutput sessionId sample = .error status) :
    status ≠ 0 := by
  unfold decompressionOutput at failed
  split at failed
  · cases failed
    split
    · assumption
    · decide
  split at failed
  · cases failed
    assumption
  · cases failed

/-- The callback records an error between the two steps of a dequeue that
found the session's queue empty, when the queue is no longer empty. -/
def overtakes (side : DecodeSide) : DecodeEvent → Bool
  | .callbackStarts _ sessionId sample =>
    match decompressionOutput sessionId sample with
    | .error _ =>
      (side.dequeuing.any fun dequeue =>
        dequeue.sessionId == sessionId && dequeue.outputIds.isEmpty) &&
        !(side.queue.lane sessionId).isEmpty
    | .ok _ => false
  | _ => false

/-- The answers to a dequeue in progress, with the errors they leave and what
they tell. -/
inductive Answered (side : DecodeSide) (dequeue : PendingDecodedDequeue)
    (errors : FiniteMap Nat Int32) : List DecodeNote → Prop
  | drained (empty : dequeue.outputIds = [])
      (unrecorded : side.errors.lookup dequeue.sessionId = none)
      (left : errors = side.errors.erase dequeue.sessionId) :
      Answered side dequeue errors []
  | error {status : Int32} (empty : dequeue.outputIds = [])
      (recorded : side.errors.lookup dequeue.sessionId = some status)
      (left : errors = side.errors.erase dequeue.sessionId) :
      Answered side dequeue errors [.reported dequeue.sessionId status.toUInt32]
  | lost (popped : dequeue.outputIds ≠ [])
      (missing : side.queue.collect dequeue.outputIds = [])
      (left : errors = side.errors) : Answered side dequeue errors []
  | frame {outputId : Nat} {output : VtRealDecodedOutput}
      {others : List (Nat × VtRealDecodedOutput)}
      (found : side.queue.collect dequeue.outputIds =
        (outputId, output) :: others) (left : errors = side.errors) :
      Answered side dequeue errors [.dequeued dequeue.sessionId outputId]

theorem answered (surfaces : Surfaces) (dequeue : PendingDecodedDequeue)
    (sentinel : side.traffic.Retired 0) :
    Answered side dequeue (side.backend.answerDecodedDequeue surfaces
        dequeue).backend.decodedOutputState.decodeErrors
      (replyNotes (side.backend.answerDecodedDequeue surfaces dequeue).body) := by
  have unused : side.queue.items.lookup 0 = none := sentinel.gone
  unfold answerDecodedDequeue
  cases popped : dequeue.outputIds with
  | nil =>
    dsimp only [DecodedOutputQueue.takeDecodeError]
    split
    next taken => exact .error popped taken rfl
    next taken => exact .drained popped taken rfl
  | cons front rest =>
    dsimp only
    rw [← popped]
    cases found : side.queue.collect dequeue.outputIds with
    | nil =>
      have missing : side.backend.decodedOutputState.queue.collect dequeue.outputIds = [] := found
      rw [missing]
      exact .lost (popped ▸ cons_ne_nil _ _) found rfl
    | cons pair others =>
      obtain ⟨outputId, output⟩ := pair
      have present : side.backend.decodedOutputState.queue.collect
        dequeue.outputIds = (outputId, output) :: others := found
      have member : (outputId, output) ∈ side.queue.collect dequeue.outputIds := by
        rw [found]
        exact mem_cons_self
      have real : outputId ≠ 0 := by
        rintro rfl
        rw [(Traffic.mem_collect.mp member).2] at unused
        cases unused
      simp only [present, Served.ok, replyNotes, decodedFrameReply, if_neg real]
      exact .frame found rfl

/-- What an event tells, and what it does to the recorded errors, the queues
and the dequeue in progress. -/
inductive Moved (side : DecodeSide) (event : DecodeEvent)
    (later : DecodeSide) : List DecodeNote → Prop
  | still (errors : later.errors = side.errors)
      (tickets : later.traffic.tickets = side.traffic.tickets)
      (dequeuing : later.dequeuing = side.dequeuing) :
      Moved side event later []
  | records {sessionId : Nat} {status : Int32}
      (errors : later.errors = side.errors.insert sessionId status)
      (tickets : later.traffic.tickets = side.traffic.tickets)
      (dequeuing : later.dequeuing = side.dequeuing)
      (timely : side.overtakes event = false → ∀ dequeue,
        side.dequeuing = some dequeue → dequeue.sessionId = sessionId →
          dequeue.outputIds = [] → side.queue.lane sessionId = []) :
      Moved side event later [.recorded sessionId status]
  | enqueues {sessionId outputId : Nat} (errors : later.errors = side.errors)
      (tickets : ∀ other, later.traffic.tickets other = side.traffic.tickets other ++
          if other = sessionId then [outputId] else [])
      (dequeuing : later.dequeuing = side.dequeuing) :
      Moved side event later [.enqueued sessionId outputId]
  | begins {dequeue : PendingDecodedDequeue}
      (errors : later.errors = side.errors)
      (tickets : later.traffic.tickets = side.traffic.tickets)
      (dequeuing : later.dequeuing = some dequeue)
      (single : dequeue.outputIds.length ≤ 1)
      (drained : dequeue.outputIds = [] → side.traffic.tickets dequeue.sessionId = []) :
      Moved side event later []
  | answers {dequeue : PendingDecodedDequeue} {told : List DecodeNote}
      (progress : side.dequeuing = some dequeue)
      (dequeuing : later.dequeuing = none)
      (tickets : ∀ sessionId, side.traffic.tickets sessionId =
        (if dequeue.sessionId = sessionId then dequeue.outputIds else []) ++
          later.traffic.tickets sessionId)
      (answered : Answered side dequeue later.errors told) :
      Moved side event later told

theorem step_moved (surfaces : Surfaces) (sentinel : side.traffic.Retired 0) (event : DecodeEvent) :
    Moved side event (side.step surfaces event) (side.notes surfaces event) := by
  cases event with
  | callbackStarts thread sessionId sample =>
    simp only [DecodeSide.step, notes]
    cases failed : decompressionOutput sessionId sample with
    | error status =>
      dsimp only
      rw [DecodedOutputQueue.recordDecodeError, if_neg (decompressionOutput_error_ne_zero failed)]
      refine .records rfl rfl rfl ?_
      intro timely dequeue progress own empty
      simpa [overtakes, failed, progress, own, empty] using timely
    | ok output =>
      dsimp only
      split
      · exact .still rfl rfl rfl
      · exact .still rfl rfl rfl
  | callbackStep thread =>
    simp only [DecodeSide.step, notes]
    cases side.callbacks.lookup thread with
    | none => exact .still rfl rfl rfl
    | some producer =>
      obtain ⟨output, stage⟩ := producer
      cases stage with
      | started | ticketed ticket => exact .still rfl rfl rfl
      | stored ticket =>
        refine .enqueues rfl (fun sessionId => ?_) rfl
        simp only [traffic, Traffic.tickets, queue, advance,
          withDecodedQueue, lane_push, append_assoc]
        rfl
  | dequeue source =>
    have same := traffic_step surfaces side (.dequeue source)
    simp only [DecodeSide.step, notes, trace] at same ⊢
    cases dequeues : side.dequeues source with
    | none => exact .still rfl rfl rfl
    | some session =>
      have free := dequeuing_of_dequeues dequeues
      rw [dequeues] at same
      refine .begins rfl (funext fun sessionId => ?_) rfl (length_take_le 1 _) fun empty => ?_
      · dsimp only at same ⊢
        have held : side.traffic.held = none := by simp [traffic, free]
        rw [same, run_cons, run_nil]
        simp only [Traffic.step, held]
        exact Traffic.tickets_pop held ..
      · simpa [Traffic.tickets, traffic, free, TicketQueue.pop] using empty
  | answer =>
    simp only [DecodeSide.step, notes]
    cases progress : side.dequeuing with
    | none => exact .still rfl rfl rfl
    | some dequeue =>
      refine .answers progress rfl (fun sessionId => ?_) (answered surfaces dequeue sentinel)
      simp only [progress, traffic, Traffic.tickets, queue, answer_queue,
        Option.map_some, Option.map_none, nil_append]
  | read host source response =>
    simp only [DecodeSide.step, notes, readDecodedFrame_backend]
    exact .still rfl rfl rfl
  | readChunk host source response =>
    simp only [DecodeSide.step, notes, readDecodedFrameChunk_backend]
    exact .still rfl rfl rfl
  | release source =>
    simp only [DecodeSide.step, notes]
    split
    · unfold releaseDecodedFrame
      dsimp only
      repeat' split
      all_goals exact .still rfl rfl rfl
    · exact .still rfl rfl rfl

/-- The recorded errors are those the session's ledgers have pending. -/
def ErrorsPending (side : DecodeSide) (history : List DecodeNote) : Prop :=
  ∀ sessionId, side.errors.lookup sessionId = (ErrorLedger.of sessionId history).pending

/-- Output id 0 is never stored, and the errors agree with the history. -/
structure ErrorsTracked (side : DecodeSide) (history : List DecodeNote) :
    Prop where
  sentinel : side.traffic.Retired 0
  pending : side.ErrorsPending history

variable {told : List DecodeNote}

/-- In every run, whatever the callbacks do between the steps of a dequeue. -/
theorem ErrorsPending.moved (pending : side.ErrorsPending history)
    (moved : Moved side event later told) :
    later.ErrorsPending (history ++ told) := by
  intro other
  cases moved with
  | still errors | begins errors =>
    rw [errors, append_nil]
    exact pending other
  | @records sessionId status errors =>
    rw [errors, ErrorLedger.of_append, FiniteMap.lookup_insert_eq, ErrorLedger.enter]
    by_cases same : other = sessionId
    · rw [if_pos same, if_pos same.symm]
    · rw [if_neg same, if_neg (Ne.symm same)]
      exact pending other
  | enqueues errors =>
    rw [errors, ErrorLedger.of_append, ErrorLedger.pending_of_other _ (by simp) (by simp)]
    exact pending other
  | @answers dequeue _ _ _ _ answered =>
    cases answered with
    | drained _ unrecorded left =>
      rw [left, append_nil, FiniteMap.lookup_erase_eq, ← pending]
      split
      next same => rw [same, unrecorded]
      · rfl
    | error _ _ left =>
      rw [left, ErrorLedger.of_append, FiniteMap.lookup_erase_eq, ErrorLedger.enter]
      by_cases same : other = dequeue.sessionId
      · rw [if_pos same, if_pos same.symm]
      · rw [if_neg same, if_neg (Ne.symm same)]
        exact pending other
    | lost _ _ left =>
      rw [left, append_nil]
      exact pending other
    | frame _ left =>
      rw [left, ErrorLedger.of_append]
      exact pending other

/-! ## Reports in order -/

/-- Releases name dequeued frames, and no error overtakes a frame. -/
def Timely (side : DecodeSide) (event : DecodeEvent) : Prop :=
  side.Allows event ∧ side.overtakes event = false

instance Timely.decidable (side : DecodeSide) (event : DecodeEvent) :
    Decidable (side.Timely event) :=
  inferInstanceAs (Decidable (_ ∧ _))

/-- Every frame enqueued for a session was dequeued or waits in its queue. -/
def FramesWait (side : DecodeSide) (history : List DecodeNote) : Prop :=
  ∀ sessionId, ∀ outputId ∈ (ErrorLedger.of sessionId history).enqueued,
    .dequeued sessionId outputId ∈ history ∨ outputId ∈ side.traffic.tickets sessionId

/-- When a dequeue has found its queue empty, the frames before the session's
last error have all been dequeued. -/
def FramesPrecede (side : DecodeSide) (history : List DecodeNote) : Prop :=
  ∀ dequeue, side.dequeuing = some dequeue → dequeue.outputIds = [] →
    ∀ outputId ∈ (ErrorLedger.of dequeue.sessionId history).before,
      .dequeued dequeue.sessionId outputId ∈ history

structure ErrorsOrdered (side : DecodeSide) (history : List DecodeNote) :
    Prop extends ErrorsTracked side history where
  orderly : side.Orderly
  single : ∀ dequeue, side.dequeuing = some dequeue → dequeue.outputIds.length ≤ 1
  wait : side.FramesWait history
  precede : side.FramesPrecede history
  inOrder : ReportsInOrder history

theorem starting_errorsTracked (backend : VtRealBackend) :
    (starting backend).ErrorsTracked [] where
  sentinel := Traffic.initial_retired (Nat.zero_lt_succ _)
  pending _ := rfl

theorem starting_errorsOrdered (backend : VtRealBackend) :
    (starting backend).ErrorsOrdered [] where
  toErrorsTracked := starting_errorsTracked backend
  orderly := starting_orderly backend
  single _ progress := nomatch progress
  wait _ _ enqueued := nomatch enqueued
  precede _ progress := nomatch progress
  inOrder _ _ _ _ split := by simp at split

theorem ErrorsTracked.step (tracked : side.ErrorsTracked history) (event : DecodeEvent) :
    (side.step surfaces event).ErrorsTracked (history ++ side.notes surfaces event) where
  sentinel := by
    rw [traffic_step]
    exact tracked.sentinel.run _
  pending := tracked.pending.moved (step_moved surfaces tracked.sentinel event)

theorem FramesWait.moved (ordered : side.ErrorsOrdered history)
    (moved : Moved side event later told) :
    later.FramesWait (history ++ told) := by
  intro sessionId outputId enqueued
  have known (before : outputId ∈ (ErrorLedger.of sessionId
      history).enqueued) : .dequeued sessionId outputId ∈ history ++ told ∨
        outputId ∈ side.traffic.tickets sessionId :=
    (ordered.wait sessionId outputId before).imp_left (mem_append_left told)
  cases moved with
  | still _ tickets | begins _ tickets =>
    rw [tickets]
    exact known (append_nil history ▸ enqueued)
  | records _ tickets =>
    rw [ErrorLedger.of_append, ErrorLedger.enqueued_of_other _ (by simp)] at enqueued
    rw [tickets]
    exact known enqueued
  | @enqueues session pushed _ tickets =>
    rw [ErrorLedger.of_append, ErrorLedger.enter] at enqueued
    rw [tickets]
    split at enqueued
    next own =>
      rcases mem_append.mp enqueued with before | new
      · exact (known before).imp_right (mem_append_left _)
      · rw [if_pos own.symm]
        exact .inr (mem_append_right _ new)
    · exact (known enqueued).imp_right (mem_append_left _)
  | @answers dequeue _ progress _ tickets answered =>
    have found := (ordered.orderly.found progress).1
    have single := ordered.single dequeue progress
    cases answered with
    | drained empty =>
      have waits := known (append_nil history ▸ enqueued)
      rwa [tickets, empty, ite_self, nil_append] at waits
    | error empty =>
      rw [ErrorLedger.of_append, ErrorLedger.enqueued_of_other _ (by simp)] at enqueued
      have waits := known enqueued
      rwa [tickets, empty, ite_self, nil_append] at waits
    | lost popped missing =>
      rw [missing] at found
      exact absurd found.symm popped
    | @frame front output others collected =>
      rw [collected] at found
      have ids : dequeue.outputIds = [front] := by
        rw [← found] at single ⊢
        cases others with
        | nil => rfl
        | cons other others => simp at single
      rw [ErrorLedger.of_append] at enqueued
      rcases known enqueued with gone | waits
      · exact .inl gone
      · rw [tickets, ids] at waits
        rcases mem_append.mp waits with taken | waits
        · split at taken
          next own =>
            rw [mem_singleton.mp taken, own]
            exact .inl (mem_append_right _ mem_cons_self)
          · cases taken
        · exact .inr waits

/-- With nothing waiting for it, a session's frames have all been dequeued. -/
theorem FramesWait.dequeued (wait : side.FramesWait history) {sessionId outputId : Nat}
    (drained : side.traffic.tickets sessionId = [])
    (enqueued : outputId ∈ (ErrorLedger.of sessionId history).enqueued) :
    .dequeued sessionId outputId ∈ history := by
  rcases wait sessionId outputId enqueued with gone | waits
  · exact gone
  · rw [drained] at waits
    cases waits

/-- An error that is recorded between the two steps of a dequeue comes after
frames that have been dequeued, unless it overtakes one. -/
theorem FramesPrecede.moved (ordered : side.ErrorsOrdered history)
    (timely : side.overtakes event = false)
    (moved : Moved side event later told) :
    later.FramesPrecede (history ++ told) := by
  intro dequeue progress empty outputId before
  apply mem_append_left
  cases moved with
  | still _ _ dequeuing =>
    rw [append_nil] at before
    exact ordered.precede dequeue (dequeuing ▸ progress) empty _ before
  | @records sessionId status _ _ dequeuing late =>
    rw [dequeuing] at progress
    rw [ErrorLedger.of_append, ErrorLedger.enter] at before
    split at before
    next own =>
      have drained : side.traffic.tickets dequeue.sessionId = [] := by
        simp [Traffic.tickets, traffic, progress, empty,
          ← late timely dequeue progress own.symm empty, own]
      exact ordered.wait.dequeued drained before
    · exact ordered.precede dequeue progress empty _ before
  | enqueues _ _ dequeuing =>
    rw [ErrorLedger.of_append, ErrorLedger.before_of_other _ (by simp)] at before
    exact ordered.precede dequeue (dequeuing ▸ progress) empty _ before
  | begins _ _ dequeuing _ drained =>
    rw [append_nil] at before
    cases dequeuing.symm.trans progress
    exact ordered.wait.dequeued (drained empty) (ErrorLedger.before_subset outputId before)
  | answers _ dequeuing => cases dequeuing.symm.trans progress

/-- Only the answer to a dequeue that found its queue empty reports. -/
theorem inOrder_moved (ordered : side.ErrorsOrdered history) (moved : Moved side event later told) :
    ReportsInOrder (history ++ told) := by
  cases moved with
  | still | begins =>
    rw [append_nil]
    exact ordered.inOrder
  | records | enqueues => exact ordered.inOrder.append _ (by simp)
  | @answers dequeue _ progress _ _ answered =>
    cases answered with
    | drained | lost =>
      rw [append_nil]
      exact ordered.inOrder
    | error empty recorded =>
      apply ordered.inOrder.append
      intro sessionId status same
      cases same
      exact ⟨_, (ordered.pending _).symm.trans recorded, rfl,
        ordered.precede dequeue progress empty⟩
    | frame => exact ordered.inOrder.append _ (by simp)

theorem Moved.single (moved : Moved side event later told)
    (single : ∀ dequeue, side.dequeuing = some dequeue → dequeue.outputIds.length ≤ 1) :
    ∀ dequeue, later.dequeuing = some dequeue → dequeue.outputIds.length ≤ 1 := by
  intro dequeue progress
  cases moved with
  | still _ _ dequeuing | records _ _ dequeuing | enqueues _ _ dequeuing =>
    exact single dequeue (dequeuing ▸ progress)
  | begins _ _ dequeuing one =>
    cases dequeuing.symm.trans progress
    exact one
  | answers _ dequeuing => cases dequeuing.symm.trans progress

theorem ErrorsOrdered.step {event : DecodeEvent}
    (ordered : side.ErrorsOrdered history) (timely : side.Timely event) :
    (side.step surfaces event).ErrorsOrdered (history ++ side.notes surfaces event) := by
  have moved := step_moved surfaces ordered.sentinel event
  exact
    { toErrorsTracked := ordered.toErrorsTracked.step event
      orderly := ordered.orderly.step timely.1
      single := moved.single ordered.single
      wait := FramesWait.moved ordered moved
      precede := FramesPrecede.moved ordered timely.2 moved
      inOrder := inOrder_moved ordered moved }

/-! ## Pending errors are reported -/

/-- A session's last error, if it was not reported yet, is what a dequeue that
finds the queue of the session empty answers with, whatever happens between
its critical sections. -/
def ReportsLast (surfaces : Surfaces) (side : DecodeSide) (history : List DecodeNote) : Prop :=
  ∀ source between session earlier status later,
    let sessionId := (HandlePayload.read source).handle.toNat
    side.dequeues source = some session →
    side.queue.lane sessionId = [] →
    (∀ event ∈ between, event ≠ .answer) →
    history ++ trail (DecodeSide.step surfaces) (notes surfaces)
      side (.dequeue source :: between) = earlier ++ .recorded sessionId status :: later →
    (∀ other, .recorded sessionId other ∉ later) →
    (∀ other, .reported sessionId other ∉ later) →
    let reached := run (DecodeSide.step surfaces) side (.dequeue source :: between)
    ∃ dequeue, reached.dequeuing = some dequeue ∧
      (reached.backend.answerDecodedDequeue surfaces dequeue).status = Status.ok ∧
      (reached.backend.answerDecodedDequeue surfaces dequeue).body =
        .decodedFrame (decodeErrorReply sessionId status)

/-- In every run, also one in which errors overtake frames. -/
theorem ErrorsTracked.run (tracked : side.ErrorsTracked history)
    (surfaces : Surfaces) (events : List DecodeEvent) :
    (run (DecodeSide.step surfaces) side events).ErrorsTracked
      (history ++ trail (DecodeSide.step surfaces) (notes surfaces)
        side events) := by
  induction events generalizing side history with
  | nil => rwa [trail, append_nil]
  | cons event events induction =>
    rw [trail, ← append_assoc]
    exact induction (tracked.step event)

theorem ErrorsTracked.reportsLast (tracked : side.ErrorsTracked history)
    (surfaces : Surfaces) : side.ReportsLast surfaces history := by
  intro source between session earlier status later sessionId dequeues
    drained waiting split unrecorded unreported reached
  have begun : (side.step surfaces (.dequeue source)).dequeuing =
      some ⟨sessionId, [], session.chunkedOutput⟩ := by
    simp only [DecodeSide.step, dequeues, TicketQueue.pop, sessionId, drained]
    rfl
  have progress : reached.dequeuing = some ⟨sessionId, [], session.chunkedOutput⟩ := by
    dsimp only [reached]
    rw [run_cons]
    exact dequeuing_of_no_answer begun waiting
  have recorded : reached.errors.lookup sessionId = some status := by
    have after := tracked.run surfaces (.dequeue source :: between)
    rw [split] at after
    rw [after.pending sessionId]
    exact ErrorLedger.pending_of_recorded unrecorded unreported
  refine ⟨_, progress, ?_⟩
  have taken : reached.backend.decodedOutputState.decodeErrors.lookup
      sessionId = some status := recorded
  simp only [answerDecodedDequeue, DecodedOutputQueue.takeDecodeError, taken]
  exact ⟨rfl, rfl⟩

/-- In a run in which no error overtakes a frame, reports come after the
frames before their errors, at most one for an error and to its own session;
and an error that was neither replaced nor reported is reported by the next
dequeue of its session that finds the queue empty. -/
theorem errors_reported_in_order (backend : VtRealBackend)
    (surfaces : Surfaces) (events : List DecodeEvent)
    (timely : Execution.Obeys (DecodeSide.step surfaces) Timely (starting backend) events) :
    let history := trail (DecodeSide.step surfaces)
      (notes surfaces) (starting backend) events
    let reached := run (DecodeSide.step surfaces) (starting backend) events
    ReportsInOrder history ∧ reached.ReportsLast surfaces history := by
  intro history reached
  have ordered : reached.ErrorsOrdered history :=
    invariant_of_trail (fun _ _ _ ordered timely => ordered.step timely)
      (starting_errorsOrdered backend) timely
  exact ⟨ordered.inOrder, ordered.toErrorsTracked.reportsLast surfaces⟩

/-! ### A frame and an error of session 7 -/

def frameDecoded : List DecodeEvent :=
  [.callbackStarts 0 7
      { status := 0
        imageBuffer := some (wrapSlotSinglePlane 0 0 1 1 64 PixelFormat.bgra)
        timing := noTiming },
    .callbackStep 0, .callbackStep 0, .callbackStep 0]

def decodeFails : DecodeEvent :=
  .callbackStarts 0 7
    { status := -12909, imageBuffer := none, timing := noTiming }

/-- The frame and then the error are dequeued. -/
theorem frame_then_error_reported :
    let surfaces : Surfaces := ⟨⟨[]⟩, fun _ _ => 0⟩
    let events := frameDecoded ++ [decodeFails, .dequeue (u64Bytes 7),
      .answer, .dequeue (u64Bytes 7), .answer]
    let history := trail (DecodeSide.step surfaces)
      (notes surfaces) (starting decodingBackend) events
    let reached := run (DecodeSide.step surfaces) (starting decodingBackend) events
    history = [.enqueued 7 70000, .recorded 7 (-12909), .dequeued 7 70000,
        .reported 7 (-12909 : Int32).toUInt32] ∧
      ReportsInOrder history ∧ reached.ReportsLast surfaces history :=
  ⟨by decide, errors_reported_in_order _ _ _ (by decide)⟩

/-- A dequeue finds the queue empty, the frame is pushed, the error recorded,
and the dequeue takes the error. -/
theorem error_overtakes_frame :
    let surfaces : Surfaces := ⟨⟨[]⟩, fun _ _ => 0⟩
    let events := .dequeue (u64Bytes 7) :: frameDecoded ++ [decodeFails, .answer]
    Execution.Obeys (DecodeSide.step surfaces) Allows (starting decodingBackend) events ∧
      ¬ ReportsInOrder (trail (DecodeSide.step surfaces)
        (notes surfaces) (starting decodingBackend) events) := by
  intro surfaces events
  refine ⟨by decide, ?_⟩
  have history : trail (DecodeSide.step surfaces)
      (notes surfaces) (starting decodingBackend) events =
        [.enqueued 7 70000, .recorded 7 (-12909)] ++
          [.reported 7 (-12909 : Int32).toUInt32] := by decide
  rw [history]
  intro inOrder
  obtain ⟨earlier, error, later, recorded, _, _, _, frames⟩ :=
    inOrder _ [] 7 _ rfl
  cases earlier with
  | nil => cases recorded
  | cons first earlier =>
    obtain ⟨rfl, _⟩ := cons.inj recorded
    have dequeued := frames 70000 mem_cons_self
    revert dequeued
    decide

end DecodeSide

end VtFerry
