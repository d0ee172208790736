import VtFerry.Foundation.TicketDelivery

/-!
# What orderly delivery means

An output queue is in order when every id in a session's queue names an output
of that session, no id is queued twice, and what a session's requests were
answered with is a prefix of what was pushed for it.  A ticketed queue that is
sound is in order, provided that its answers went to the sessions they belong
to.
-/

universe u

namespace VtFerry

/-- An output handed out, with the session whose request it answered. -/
structure Delivery (Output : Type u) where
  sessionId : Nat
  outputId : Nat
  output : Output
  deriving DecidableEq, Repr

namespace Delivery

variable {Output : Type u}

/-- The output under its id, as the queue's history records it. -/
def entry (delivery : Delivery Output) : Nat × Output :=
  (delivery.outputId, delivery.output)

/-- What the requests of one session were answered with. -/
def toSession (delivered : List (Delivery Output)) (sessionId : Nat) :
    List (Nat × Output) :=
  (delivered.filter fun delivery => delivery.sessionId = sessionId).map entry

end Delivery

open TicketQueue

variable {Output : Type u} {labels : Labels Nat Output}
variable {traffic : Traffic Nat Output} {delivered : List (Delivery Output)}

/-- The queue's lanes, its history of pushes and the answers given. -/
structure QueueInOrder (labels : Labels Nat Output)
    (queue : TicketQueue Nat Output) (pushed : List (Nat × Output))
    (delivered : List (Delivery Output)) : Prop where
  present : ∀ sessionId outputId, outputId ∈ queue.lane sessionId →
    ∃ output, queue.items.lookup outputId = some output ∧ labels.laneOf output = sessionId
  once : ∀ sessionId, (queue.lane sessionId).Nodup
  oneLane : ∀ sessionId other outputId,
    outputId ∈ queue.lane sessionId → outputId ∈ queue.lane other →
    sessionId = other
  isPrefix : ∀ sessionId, Delivery.toSession delivered sessionId <+:
      Traffic.ofLane labels pushed sessionId

/-- Every answer went to the session of its output. -/
def Rightful (labels : Labels Nat Output) (delivered : List (Delivery Output)) : Prop :=
  ∀ delivery ∈ delivered, labels.laneOf delivery.output = delivery.sessionId

theorem toSession_eq_ofLane (rightful : Rightful labels delivered) (sessionId : Nat) :
    Delivery.toSession delivered sessionId =
      Traffic.ofLane labels (delivered.map Delivery.entry) sessionId := by
  induction delivered with
  | nil => rfl
  | cons delivery delivered induction =>
    have head := rightful delivery List.mem_cons_self
    have tail := induction fun other member =>
      rightful other (List.mem_cons_of_mem _ member)
    unfold Delivery.toSession Traffic.ofLane at tail ⊢
    rw [List.filter_cons, List.map_cons, List.filter_cons]
    by_cases same : delivery.sessionId = sessionId
    · have lane : labels.laneOf delivery.entry.2 = sessionId :=
        head.trans same
      simp only [same, lane, decide_true, if_true, List.map_cons, tail]
    · have lane : labels.laneOf delivery.entry.2 ≠ sessionId := by
        intro equal
        exact same (head.symm.trans equal)
      simp only [same, lane, decide_false, Bool.false_eq_true, if_false, tail]

theorem queueInOrder_of_sound (sound : traffic.Sound labels)
    (answers : traffic.delivered = delivered.map Delivery.entry)
    (rightful : Rightful labels delivered) :
    QueueInOrder labels traffic.queue traffic.pushed delivered := by
  refine
    { present := ?_
      once := ?_
      oneLane := ?_
      isPrefix := ?_ }
  · intro sessionId outputId queued
    exact sound.stored_of_waiting (Traffic.mem_tickets_of_mem_lane queued)
  · intro sessionId
    exact (List.nodup_append.1 (sound.nodup sessionId)).2.1
  · intro sessionId other outputId queued alsoQueued
    cases sound.once _ _ _ (.waiting (Traffic.mem_tickets_of_mem_lane queued))
      (.waiting (Traffic.mem_tickets_of_mem_lane alsoQueued))
    rfl
  · intro sessionId
    rw [toSession_eq_ofLane rightful, ← answers]
    exact sound.delivered_isPrefix sessionId

/-- The ids popped by a request in progress are all found, in order, and lead
to outputs of the request's session. -/
theorem popped_found (sound : traffic.Sound labels) {sessionId : Nat} {outputIds : List Nat}
    (held : traffic.held = some (sessionId, outputIds)) :
    (traffic.queue.collect outputIds).map Prod.fst = outputIds ∧
      ∀ pair ∈ traffic.queue.collect outputIds, labels.laneOf pair.2 = sessionId := by
  obtain ⟨rest, split, collected, _⟩ := sound.collect_eq held
  refine ⟨collected, ?_⟩
  intro pair member
  exact Traffic.laneOf_of_waiting split (List.mem_append_left rest member)

end VtFerry
