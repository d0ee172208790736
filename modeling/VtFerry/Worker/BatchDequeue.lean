import VtFerry.Worker.Backends
import VtFerry.Worker.VtReal.BufferEffects

/-!
# A batch of outputs is taken one by one

`DEQUEUE_OUTPUT_BATCH` pops all ids, then looks the outputs up, then frees
their source buffers; the mock backend takes one output at a time.  In both, a
batch is what so many single dequeues give up to the first timeout.
-/

namespace VtFerry

open List

/-- A request: the state it leaves, its status and its reply. -/
abbrev Handler (State : Type) := State → State × UInt32 × Option ReplyBody

/-- `DEQUEUE_OUTPUT` made up to `count` times, until it gives no output. -/
def dequeueRepeatedly {State : Type} (single : Handler State) :
    Nat → State → State × List DequeueOutputReply
  | 0, state => (state, [])
  | count + 1, state =>
    match single state with
    | (after, _, some (.output reply)) =>
      let rest := dequeueRepeatedly single count after
      (rest.1, reply :: rest.2)
    | (after, _, _) => (after, [])

/-- The batch leaves the state of the single dequeues and answers with their
outputs; it times out when the first of them does. -/
structure TakenOneByOne {State : Type} (single batch : Handler State)
    (sessionId limit : Nat) (before : State) : Prop where
  state : (batch before).1 = (dequeueRepeatedly single limit before).1
  timeout : (batch before).2.1 = Status.timeout ↔ (single before).2.1 = Status.timeout
  outputs : (batch before).2.1 ≠ Status.timeout → (batch before).2 =
    (Status.ok, some (.outputs sessionId (dequeueRepeatedly single limit before).2))

namespace VtRealBackend

def singleHandler (source : List UInt8) (surfaces : Surfaces) :
    Handler VtRealBackend := fun backend =>
  let served := dequeueOutput source backend surfaces
  (served.backend, served.status, some served.body)

def batchHandler (source : List UInt8) (surfaces : Surfaces) :
    Handler VtRealBackend := fun backend =>
  let served := dequeueOutputBatch source backend surfaces
  (served.backend, served.status, some served.body)

/-- Every queue holds ids of stored outputs only. -/
def QueuesStored (backend : VtRealBackend) : Prop :=
  ∀ sessionId, ∀ outputId ∈ backend.outputState.lane sessionId,
    (backend.outputState.items.lookup outputId).isSome = true

/-- The queue of the session holds ids of stored outputs only. -/
def LaneStored (backend : VtRealBackend) (sessionId : Nat) : Prop :=
  ∀ outputId ∈ backend.outputState.lane sessionId,
    (backend.outputState.items.lookup outputId).isSome = true

variable {backend : VtRealBackend} {surfaces : Surfaces} {source : List UInt8}
  {sessionId : Nat}

theorem takenOutputs_add (backend : VtRealBackend) (sessionId first second : Nat) :
    backend.takenOutputs sessionId (first + second) = backend.takenOutputs sessionId first ++
          (backend.afterTaking sessionId first).takenOutputs sessionId second ∧
      backend.afterTaking sessionId (first + second) =
        (backend.afterTaking sessionId first).afterTaking sessionId second := by
  have taken : backend.takenOutputs sessionId (first + second) =
      backend.takenOutputs sessionId first ++
        (backend.afterTaking sessionId first).takenOutputs sessionId
          second := by
    rw [afterTaking_eq]
    unfold takenOutputs
    rw [TicketQueue.lane_pop, if_pos rfl, take_add, TicketQueue.collect,
      filterMap_append, map_append]
    rfl
  refine ⟨taken, ?_⟩
  rw [afterTaking_eq _ _ (first + second), taken, freed, foldl_append,
    afterTaking_eq (backend.afterTaking _ _), afterTaking_eq,
    TicketQueue.pop_pop]
  rfl

theorem LaneStored.afterTaking (stored : backend.LaneStored sessionId) (count : Nat) :
    (backend.afterTaking sessionId count).LaneStored sessionId := by
  intro outputId queued
  rw [afterTaking_eq] at queued ⊢
  rw [TicketQueue.lane_pop, if_pos rfl] at queued
  exact stored outputId (mem_of_mem_drop queued)

/-- Where every queued output is stored, only an empty queue gives none. -/
theorem LaneStored.afterTaking_of_none (stored : backend.LaneStored sessionId)
    {count : Nat} (none : backend.takenOutputs sessionId (count + 1) = [])
    (more : Nat) : backend.takenOutputs sessionId more = [] ∧
      backend.afterTaking sessionId more = backend := by
  have empty : backend.outputState.lane sessionId = [] := by
    cases waiting : backend.outputState.lane sessionId with
    | nil => rfl
    | cons front rest =>
      obtain ⟨output, found⟩ := Option.isSome_iff_exists.mp (stored front (waiting ▸ mem_cons_self))
      simp [takenOutputs, waiting, TicketQueue.collect, found] at none
  have nothing : backend.takenOutputs sessionId more = [] := by
    rw [takenOutputs, empty, take_nil]
    rfl
  refine ⟨nothing, ?_⟩
  rw [afterTaking_eq, nothing, TicketQueue.pop_of_empty empty]
  rfl

theorem singleHandler_eq (whole : HandlePayload.size ≤ source.length)
    (session : (HandlePayload.read source).handle.toNat = sessionId) :
    singleHandler source surfaces backend = (backend.afterTaking sessionId 1,
        match backend.takenOutputs sessionId 1 with
        | [] => (Status.timeout, some .empty)
        | output :: _ => (Status.ok, some (.output output.reply))) := by
  subst session
  unfold singleHandler dequeueOutput
  rw [if_neg (Nat.not_lt.mpr whole)]
  dsimp only [popOutputs, answerDequeue]
  split
  next none =>
    have taken : backend.takenOutputs _ 1 = [] := none
    rw [afterTaking, taken]
    rfl
  next output rest some =>
    have taken : backend.takenOutputs _ 1 = output :: rest := some
    obtain rfl := takenOutputs_one taken
    rw [afterTaking, taken]
    rfl

theorem batchHandler_eq {payload : DequeueOutputBatchPayload}
    (whole : DequeueOutputBatchPayload.size ≤ source.length)
    (read : DequeueOutputBatchPayload.read source = payload) :
    batchHandler source surfaces backend = (backend.afterTaking payload.sessionId.toNat
          (OutputQueue.batchLimit payload.maxOutputs),
        if (backend.takenOutputs payload.sessionId.toNat
            (OutputQueue.batchLimit payload.maxOutputs)).isEmpty then
          (Status.timeout, some .empty)
        else (Status.ok, some (.outputs payload.sessionId.toNat
          ((backend.takenOutputs payload.sessionId.toNat
            (OutputQueue.batchLimit payload.maxOutputs)).map (·.reply))))) := by
  subst read
  unfold batchHandler dequeueOutputBatch
  rw [if_neg (Nat.not_lt.mpr whole)]
  dsimp only [popOutputs, answerDequeueBatch]
  split
  next none =>
    have taken : backend.takenOutputs _ _ = [] := isEmpty_iff.mp none
    rw [if_pos (isEmpty_iff.mpr taken), afterTaking, taken]
    rfl
  next some => exact congrArg (Prod.mk _) (if_neg some).symm

theorem dequeueRepeatedly_eq (stored : backend.LaneStored sessionId)
    (whole : HandlePayload.size ≤ source.length)
    (session : (HandlePayload.read source).handle.toNat = sessionId)
    (count : Nat) :
    dequeueRepeatedly (singleHandler source surfaces) count backend =
      (backend.afterTaking sessionId count,
        (backend.takenOutputs sessionId count).map (·.reply)) := by
  induction count generalizing backend with
  | zero =>
    rw [afterTaking_eq]
    have nothing : (backend.outputState.pop sessionId 0).2 =
        backend.outputState := by
      simp only [TicketQueue.pop]
      rw [FiniteMap.modify_of_fixed fun _ _ => drop_zero]
    rw [nothing]
    rfl
  | succ count induction =>
    rw [dequeueRepeatedly, singleHandler_eq whole session]
    cases taken : backend.takenOutputs sessionId 1 with
    | nil =>
      obtain ⟨none, same⟩ := stored.afterTaking_of_none taken (count + 1)
      rw [none, same, (stored.afterTaking_of_none taken 1).2]
      rfl
    | cons output rest =>
      obtain rfl := takenOutputs_one taken
      obtain ⟨outputs, after⟩ := takenOutputs_add backend sessionId 1 count
      dsimp only
      rw [induction (stored.afterTaking 1), Nat.add_comm count, outputs, after, taken]
      rfl

theorem takenOneByOne {batch : List UInt8} (stored : backend.LaneStored
      (DequeueOutputBatchPayload.read batch).sessionId.toNat)
    (whole : HandlePayload.size ≤ source.length)
    (batchWhole : DequeueOutputBatchPayload.size ≤ batch.length)
    (session : (HandlePayload.read source).handle =
      (DequeueOutputBatchPayload.read batch).sessionId) :
    TakenOneByOne (singleHandler source surfaces) (batchHandler batch surfaces)
      (DequeueOutputBatchPayload.read batch).sessionId.toNat
      (OutputQueue.batchLimit (DequeueOutputBatchPayload.read batch).maxOutputs) backend := by
  have same := congrArg UInt64.toNat session
  have positive : ∃ more, OutputQueue.batchLimit
      (DequeueOutputBatchPayload.read batch).maxOutputs = more + 1 :=
    Nat.exists_eq_succ_of_ne_zero (by unfold OutputQueue.batchLimit; omega)
  have repeatedly : dequeueRepeatedly (singleHandler source surfaces) _ _ =
      _ := dequeueRepeatedly_eq stored whole same (OutputQueue.batchLimit
        (DequeueOutputBatchPayload.read batch).maxOutputs)
  generalize read : DequeueOutputBatchPayload.read batch = payload at *
  obtain ⟨more, limit⟩ := positive
  rw [limit] at repeatedly ⊢
  have first : backend.takenOutputs payload.sessionId.toNat (more + 1) = [] ↔
      backend.takenOutputs payload.sessionId.toNat 1 = [] :=
    ⟨fun none => (stored.afterTaking_of_none none 1).1,
      fun none => (stored.afterTaking_of_none none (more + 1)).1⟩
  constructor
  · rw [batchHandler_eq batchWhole read, limit, repeatedly]
  · rw [batchHandler_eq batchWhole read, singleHandler_eq whole same, limit]
    cases taken : backend.takenOutputs payload.sessionId.toNat 1 with
    | nil => simp [first.mpr taken]
    | cons output rest =>
      have some := mt first.mp (taken ▸ cons_ne_nil output rest)
      rw [if_neg (mt List.isEmpty_iff.mp some)]
  · rw [batchHandler_eq batchWhole read, limit, repeatedly]
    intro served
    dsimp only at served ⊢
    split
    next none =>
      rw [if_pos none] at served
      exact absurd rfl served
    · rfl

end VtRealBackend

namespace MockBackend

def singleHandler (source : List UInt8) : Handler MockBackend := fun backend =>
  let served := dequeueOutput transportStorageCapacity source backend
  (served.backend, served.status, served.reply)

def batchHandler (source : List UInt8) : Handler MockBackend := fun backend =>
  let served := dequeueOutputBatch transportStorageCapacity source backend
  (served.backend, served.status, served.reply)

variable {backend : MockBackend} {source : List UInt8} {sessionId : Nat}

theorem singleHandler_eq (whole : HandlePayload.size ≤ source.length)
    (session : (HandlePayload.read source).handle.toNat = sessionId) :
    singleHandler source backend =
      match backend.takeOutput sessionId with
      | none => (backend, Status.timeout, none)
      | some (reply, taken) => (taken, Status.ok, some (.output reply)) := by
  subst session
  unfold singleHandler dequeueOutput
  rw [if_neg (Nat.not_lt.mpr whole)]
  cases backend.takeOutput (HandlePayload.read source).handle.toNat with
  | none => rfl
  | some pair => rfl

theorem takeOutputs_eq (whole : HandlePayload.size ≤ source.length)
    (session : (HandlePayload.read source).handle.toNat = sessionId)
    (count : Nat) (replies : List DequeueOutputReply) :
    takeOutputs sessionId count backend replies =
      ((dequeueRepeatedly (singleHandler source) count backend).1, replies ++
          (dequeueRepeatedly (singleHandler source) count backend).2) := by
  induction count generalizing backend replies with
  | zero => rw [takeOutputs, dequeueRepeatedly, append_nil]
  | succ count induction =>
    rw [takeOutputs, dequeueRepeatedly, singleHandler_eq whole session]
    cases backend.takeOutput sessionId with
    | none => exact congrArg (Prod.mk backend) (append_nil _).symm
    | some pair =>
      obtain ⟨reply, taken⟩ := pair
      exact (induction _).trans (congrArg (Prod.mk _) (append_assoc _ _ _))

theorem takenOneByOne {batch : List UInt8} (whole : HandlePayload.size ≤ source.length)
    (batchWhole : DequeueOutputBatchPayload.size ≤ batch.length)
    (session : (HandlePayload.read source).handle =
      (DequeueOutputBatchPayload.read batch).sessionId) :
    TakenOneByOne (singleHandler source) (batchHandler batch)
      (DequeueOutputBatchPayload.read batch).sessionId.toNat
      (OutputQueue.batchLimit (DequeueOutputBatchPayload.read batch).maxOutputs) backend := by
  have same := congrArg UInt64.toNat session
  have positive : ∃ more, OutputQueue.batchLimit
      (DequeueOutputBatchPayload.read batch).maxOutputs = more + 1 :=
    Nat.exists_eq_succ_of_ne_zero (by unfold OutputQueue.batchLimit; omega)
  have batched : batchHandler batch backend = _ :=
    congrArg (fun served : Served =>
      (served.backend, served.status, served.reply))
      (if_neg (Nat.not_lt.mpr batchWhole))
  obtain ⟨more, limit⟩ := positive
  have alone : singleHandler source backend = _ := singleHandler_eq whole same
  dsimp only at batched
  rw [takeOutputs_eq whole same, limit, nil_append, dequeueRepeatedly] at batched
  rw [limit]
  cases taken : backend.takeOutput (DequeueOutputBatchPayload.read batch).sessionId.toNat with
  | none =>
    rw [taken] at alone
    rw [alone] at batched
    refine ⟨?_, ?_, ?_⟩
    · rw [batched, dequeueRepeatedly, alone]
      rfl
    · rw [batched, alone]
      rfl
    · rw [batched]
      intro served
      exact absurd rfl served
  | some pair =>
    obtain ⟨reply, left⟩ := pair
    rw [taken] at alone
    rw [alone] at batched
    refine ⟨?_, ?_, ?_⟩
    · rw [batched, dequeueRepeatedly, alone]
      rfl
    · rw [batched, alone]
      rfl
    · rw [batched, dequeueRepeatedly, alone]
      intro _
      rfl

end MockBackend

/-- In both backends a batch of outputs is what single dequeues of the same
session give up to the first timeout: the same outputs, in the same order, and
the same state. -/
theorem batch_taken_one_by_one (single batch : List UInt8)
    (whole : HandlePayload.size ≤ single.length)
    (batchWhole : DequeueOutputBatchPayload.size ≤ batch.length)
    (session : (HandlePayload.read single).handle =
      (DequeueOutputBatchPayload.read batch).sessionId) :
    let payload := DequeueOutputBatchPayload.read batch
    let limit := max (min payload.maxOutputs.toNat maxOutputBatch) 1
    (∀ (backend : VtRealBackend) (surfaces : Surfaces), backend.QueuesStored →
        TakenOneByOne (VtRealBackend.singleHandler single surfaces)
          (VtRealBackend.batchHandler batch surfaces)
          payload.sessionId.toNat limit backend) ∧
      ∀ backend : MockBackend, TakenOneByOne (MockBackend.singleHandler single)
          (MockBackend.batchHandler batch) payload.sessionId.toNat limit
          backend :=
  ⟨fun _ _ stored =>
      VtRealBackend.takenOneByOne (stored _) whole batchWhole session,
    fun _ => MockBackend.takenOneByOne whole batchWhole session⟩

/-- Up to five outputs of session 7. -/
def batchOfFive : List UInt8 :=
  LittleEndian.u64Bytes 7 ++ LittleEndian.u32Bytes 5 ++ LittleEndian.u32Bytes 0

def waitingReply (sessionId outputId : Nat) : DequeueOutputReply :=
  ⟨sessionId, outputId, 0, 0, 0, 0, ⟨0, 0, 0, 0⟩, 1, 0, 0, [], []⟩

/-- Three outputs of session 7, two of them of the same buffer, and one of
session 8 wait. -/
def fourOutputsWait : VtRealBackend :=
  { VtRealBackend.fresh with
    buffers := (∅ : FiniteMap Nat VtRealBuffer).insert 3
      { id := 3
        poolId := 1
        generation := 1
        slotIndex := 0
        slotOffset := 0
        pixelBuffer := none
        mappedRegion := 0
        mappedOffset := 0
        mappedSize := 1024
        pixelFormat := PixelFormat.bgra
        width := 16
        height := 16
        state := .queuedToHost }
    outputState := OutputQueue.new
      |>.store 50000 ⟨waitingReply 7 50000, 3, 1, [5]⟩ |>.push 7 50000
      |>.store 50001 ⟨waitingReply 7 50001, 3, 1, [6]⟩ |>.push 7 50001
      |>.store 50002 ⟨waitingReply 8 50002, 4, 1, [7]⟩ |>.push 8 50002
      |>.store 50003 ⟨waitingReply 7 50003, 4, 1, [8]⟩ |>.push 7 50003 }

theorem fourOutputsWait_stored : fourOutputsWait.QueuesStored := by
  intro sessionId outputId queued
  have waiting : outputId ∈ [50000, 50001, 50002, 50003] := by
    have none : OutputQueue.new.lane sessionId = [] := rfl
    have kept (queue : TicketQueue Nat VtRealOutput) (ticket : Nat) (output : VtRealOutput) :
        (queue.store ticket output).lane sessionId = queue.lane sessionId := rfl
    simp only [fourOutputsWait, TicketQueue.lane_push, kept, none] at queued
    grind
  have stored : ∀ outputId ∈ [50000, 50001, 50002, 50003],
      (fourOutputsWait.outputState.items.lookup outputId).isSome = true := by
    decide +kernel
  exact stored outputId waiting

/-- Two outputs of session 7 and one of session 8 wait in the mock backend. -/
def mockOutputsWait : MockBackend :=
  { MockBackend.resetFromEnv 8 4096 with
    outputs := [⟨waitingReply 7 5000, 3, 1, [5], false⟩, ⟨waitingReply 8 5001, 4, 1, [6], false⟩,
      ⟨waitingReply 7 5002, 3, 1, [7], false⟩] }

/-- The batch gives the outputs of its session and no other. -/
theorem batch_of_five_taken_one_by_one :
    let singleReal := VtRealBackend.singleHandler (LittleEndian.u64Bytes 7) ⟨⟨[]⟩, fun _ _ => 0⟩
    let singleMock := MockBackend.singleHandler (LittleEndian.u64Bytes 7)
    (dequeueRepeatedly singleReal 5 fourOutputsWait).2.map (·.outputId) = [50000, 50001, 50003] ∧
    TakenOneByOne singleReal (VtRealBackend.batchHandler batchOfFive ⟨⟨[]⟩, fun _ _ => 0⟩) 7 5
      fourOutputsWait ∧
    (dequeueRepeatedly singleMock 5 mockOutputsWait).2.map (·.outputId) = [5000, 5002] ∧
    TakenOneByOne singleMock (MockBackend.batchHandler batchOfFive) 7 5 mockOutputsWait := by
  obtain ⟨real, mock⟩ := batch_taken_one_by_one (LittleEndian.u64Bytes 7)
    batchOfFive (by decide) (by decide) (by decide)
  exact ⟨by decide +kernel, real fourOutputsWait _ fourOutputsWait_stored, by decide +kernel,
    mock mockOutputsWait⟩

end VtFerry
