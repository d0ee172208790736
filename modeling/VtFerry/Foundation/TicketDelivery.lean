import VtFerry.Foundation.TicketPlaces

/-!
# Delivery by ticketed queues

Every critical section of a producer or of the consumer keeps a ticketed queue
sound, discards being limited to delivered items.  Soundness then yields what
users of the queue rely on: a waiting ticket is stored and belongs to its lane,
no ticket waits twice, a pop followed by a lookup loses nothing, and each
lane's deliveries are a prefix of its pushes.
-/

universe u v

namespace TicketQueue.Traffic

open List

variable {Lane : Type u} {Item : Type v} [DecidableEq Lane]

section Soundness

variable (labels : Labels Lane Item)

def ofLane (history : List (Nat × Item)) (key : Lane) : List (Nat × Item) :=
  history.filter fun pair => labels.laneOf pair.2 = key

/-- A lane's pushes are its deliveries followed by what still waits, and what
waits is stored under the tickets in the lane. -/
def InOrder (traffic : Traffic Lane Item) (key : Lane) : Prop :=
  ∃ waiting : List (Nat × Item), ofLane labels traffic.pushed key =
      ofLane labels traffic.delivered key ++ waiting ∧
    waiting.map Prod.fst = traffic.tickets key ∧
    ∀ pair ∈ waiting, traffic.queue.items.lookup pair.1 = some pair.2

/-- Tickets have their places, what is about to be pushed is stored, and the
lanes are in order. -/
structure Sound (traffic : Traffic Lane Item) : Prop extends Located traffic where
  kept : ∀ index item ticket, traffic.producers.lookup index = some ⟨item, .stored ticket⟩ →
    traffic.queue.items.lookup ticket = some item
  inOrder : ∀ key, traffic.InOrder labels key

/-- Only what was delivered is discarded. -/
def DiscardsDelivered (traffic : Traffic Lane Item) :
    Event Lane Item → Prop
  | .discard ticket => ticket ∈ traffic.delivered.map Prod.fst
  | _ => True

theorem initial_sound (next : Nat) : (initial next : Traffic Lane Item).Sound labels where
  toLocated := initial_located next
  kept _ _ _ found := by cases found
  inOrder _ := ⟨[], rfl, rfl, fun _ member => by cases member⟩

end Soundness

variable {labels : Labels Lane Item} {traffic changed : Traffic Lane Item}
variable {event : Event Lane Item} {key : Lane} {ticket : Nat} {item : Item}

theorem laneOf_of_waiting {waiting : List (Nat × Item)} (split : ofLane labels traffic.pushed key =
      ofLane labels traffic.delivered key ++ waiting) {pair : Nat × Item}
    (member : pair ∈ waiting) : labels.laneOf pair.2 = key := by
  have inLane : pair ∈ ofLane labels traffic.pushed key := by
    rw [split]
    exact mem_append_right _ member
  simpa using (mem_filter.1 inLane).2

/-- An item that was stored and not delivered stays. -/
theorem Located.spared (located : traffic.Located) (allowed : traffic.DiscardsDelivered event)
    (change : Change labels traffic event changed) {place : Place Lane}
    (here : traffic.At ticket place) (inside : place ≠ .out) (past : traffic.Past ticket)
    (stored : traffic.queue.items.lookup ticket = some item) :
    changed.queue.items.lookup ticket = some item := by
  refine change.kept stored ?_ past.unstored
  rintro rfl
  obtain ⟨pair, member, rfl⟩ := mem_map.1 allowed
  exact inside (located.once _ _ _ here (.delivered member))

/-- Looking up popped tickets delivers exactly the oldest waiting pairs. -/
theorem Sound.collect_eq (sound : traffic.Sound labels) {popped : List Nat}
    (consumer : traffic.held = some (key, popped)) :
    ∃ rest : List (Nat × Item),
      ofLane labels traffic.pushed key = ofLane labels traffic.delivered key ++
        (traffic.queue.collect popped ++ rest) ∧
      (traffic.queue.collect popped).map Prod.fst = popped ∧
      rest.map Prod.fst = traffic.queue.lane key ∧
      ∀ pair ∈ rest, traffic.queue.items.lookup pair.1 = some pair.2 := by
  obtain ⟨waiting, split, ticketed, stored⟩ := sound.inOrder key
  simp only [tickets, consumer, if_true] at ticketed
  obtain ⟨first, rest, rfl, firstTickets, restTickets⟩ :=
    map_eq_append_iff.1 ticketed
  have collected : traffic.queue.collect popped = first := by
    rw [← firstTickets]
    apply collect_eq_of_stored
    intro pair member
    exact stored pair (mem_append_left _ member)
  refine ⟨rest, ?_, ?_, restTickets, ?_⟩
  · rw [collected, split]
  · rw [collected, firstTickets]
  · intro pair member
    exact stored pair (mem_append_right _ member)

/-- The lanes stay in order: the push adds to the end of its lane and of the
history, and looking up popped tickets delivers the oldest waiting pairs. -/
theorem Sound.inOrder_after (sound : traffic.Sound labels)
    (allowed : traffic.DiscardsDelivered event)
    (change : Change labels traffic event changed) (key : Lane) :
    changed.InOrder labels key := by
  obtain ⟨waiting, split, ticketed, stored⟩ := sound.inOrder key
  have still : ∀ pair ∈ waiting, changed.queue.items.lookup pair.1 = some pair.2 := by
    intro pair member
    have waits : pair.1 ∈ traffic.tickets key := ticketed ▸ mem_map_of_mem member
    exact sound.spared allowed change (.waiting waits) (fun same => nomatch same)
      (sound.past_of_waiting waits) (stored pair member)
  cases change with
  | @push index ticket item found =>
    by_cases own : labels.laneOf item = key
    · refine ⟨waiting ++ [(ticket, item)], ?_, ?_, ?_⟩
      · simp only [ofLane, filter_append] at split ⊢
        rw [split]
        simp [own]
      · rw [map_append, ticketed]
        simp [tickets_push, own]
      · intro pair member
        rcases mem_append.1 member with earlier | last
        · exact still pair earlier
        · rw [mem_singleton.1 last]
          exact sound.kept index item ticket found
    · refine ⟨waiting, ?_, ?_, still⟩
      · simp only [ofLane, filter_append] at split ⊢
        rw [split]
        simp [own]
      · rw [ticketed]
        simp [tickets_push, Ne.symm own]
  | @collect holder popped consumer =>
    obtain ⟨rest, first, _, restTickets, stored⟩ := sound.collect_eq consumer
    have keyed : ∀ pair ∈ traffic.queue.collect popped, labels.laneOf pair.2 = holder := by
      intro pair member
      exact laneOf_of_waiting first (mem_append_left rest member)
    by_cases same : holder = key
    · subst same
      have all : (traffic.queue.collect popped).filter (fun pair => labels.laneOf pair.2 = holder) =
          traffic.queue.collect popped := by
        rw [filter_eq_self]
        intro pair member
        simpa using keyed pair member
      refine ⟨rest, ?_, ?_, stored⟩
      · rw [first]
        simp [ofLane, filter_append, all]
      · simpa [tickets] using restTickets
    · have none : (traffic.queue.collect popped).filter
          (fun pair => labels.laneOf pair.2 = key) = [] := by
        rw [filter_eq_nil_iff]
        intro pair member
        simpa [keyed pair member] using same
      refine ⟨waiting, ?_, ?_, still⟩
      · rw [split]
        simp [ofLane, filter_append, none]
      · simpa [tickets, consumer, same] using ticketed
  | pop free => exact ⟨waiting, split, ticketed.trans (tickets_pop free _ key _).symm, still⟩
  | _ => exact ⟨waiting, split, ticketed, still⟩

theorem Sound.step (event : Event Lane Item) (sound : traffic.Sound labels)
    (allowed : traffic.DiscardsDelivered event) :
    (traffic.step labels event).Sound labels := by
  have change := step_change labels traffic event
  refine ⟨sound.after change, ?_, sound.inOrder_after allowed change⟩
  intro index item ticket found
  rcases change.ofProducer found with old | ⟨_, _, made⟩ | ⟨_, _, made, _⟩ | ⟨_, _, _, made, kept⟩
  · exact sound.spared allowed change (.producing old rfl) (fun same => nomatch same)
      (sound.past_of_storing old) (sound.kept index item ticket old)
  · cases made
  · cases made
  · cases made
    exact kept

theorem run_sound {events : List (Event Lane Item)} (sound : traffic.Sound labels)
    (obeyed : Execution.Obeys (Traffic.step labels) DiscardsDelivered traffic events) :
    (Execution.run (Traffic.step labels) traffic events).Sound labels :=
  Execution.invariant_of_obeys (fun _ event sound allowed => sound.step event allowed) sound obeyed

theorem Sound.stored_of_waiting (sound : traffic.Sound labels)
    (waits : ticket ∈ traffic.tickets key) :
    ∃ item, traffic.queue.items.lookup ticket = some item ∧ labels.laneOf item = key := by
  obtain ⟨waiting, split, ticketed, stored⟩ := sound.inOrder key
  rw [← ticketed] at waits
  obtain ⟨pair, member, rfl⟩ := mem_map.1 waits
  exact ⟨pair.2, stored pair member, laneOf_of_waiting split member⟩

theorem Sound.delivered_isPrefix (sound : traffic.Sound labels) (key : Lane) :
    ofLane labels traffic.delivered key <+: ofLane labels traffic.pushed key := by
  obtain ⟨waiting, split, _⟩ := sound.inOrder key
  exact ⟨waiting, split.symm⟩

theorem mem_tickets_of_mem_lane (queued : ticket ∈ traffic.queue.lane key) :
    ticket ∈ traffic.tickets key :=
  mem_append_right _ queued

theorem run_discards (labels : Labels Lane Item)
    (traffic : Traffic Lane Item) (discarded : List Nat) :
    Execution.run (Traffic.step labels) traffic (discarded.map .discard) =
      { traffic with
        queue := discarded.foldl TicketQueue.discard traffic.queue } := by
  induction discarded generalizing traffic with
  | nil => rfl
  | cons ticket discarded induction =>
    rw [map_cons, Execution.run_cons, induction]
    rfl

theorem obeys_discards {discarded : List Nat} (delivered : ∀ ticket ∈ discarded,
      ticket ∈ traffic.delivered.map Prod.fst) :
    Execution.Obeys (Traffic.step labels) DiscardsDelivered traffic (discarded.map .discard) := by
  induction discarded generalizing traffic with
  | nil => trivial
  | cons ticket discarded induction =>
    refine ⟨delivered ticket mem_cons_self, induction ?_⟩
    intro other member
    exact delivered other (mem_cons_of_mem _ member)

/-- Stored items and the items of producers that drew a ticket carry their
ticket, in the sense of `carries`. -/
structure Stamped (carries : Nat → Item → Prop) (traffic : Traffic Lane Item) : Prop where
  items : ∀ ticket item, traffic.queue.items.lookup ticket = some item → carries ticket item
  producers : ∀ index producer ticket, traffic.producers.lookup index = some producer →
    producer.ticket? = some ticket → carries ticket producer.item

section Stamps

variable {carries : Nat → Item → Prop}

omit [DecidableEq Lane] in
theorem initial_stamped (next : Nat) : (initial next : Traffic Lane Item).Stamped carries := by
  constructor
  · intro ticket item found
    cases found
  · intro index producer ticket found
    cases found

theorem Stamped.step (lawful : ∀ ticket item, carries ticket (labels.stamp ticket item))
    (stamped : traffic.Stamped carries) (event : Event Lane Item) :
    (traffic.step labels event).Stamped carries := by
  have change := step_change labels traffic event
  constructor
  · intro ticket item found
    rcases change.ofItem found with old | ⟨index, was, -⟩
    · exact stamped.items ticket item old
    · exact stamped.producers index _ ticket was rfl
  · intro index producer ticket found drew
    rcases change.ofProducer found with old | ⟨item, -, rfl⟩ |
      ⟨item, -, rfl, -⟩ | ⟨item, drawn, was, rfl, -⟩
    · exact stamped.producers index producer ticket old drew
    · cases drew
    · cases drew
      exact lawful _ _
    · exact stamped.producers index ⟨item, .ticketed drawn⟩ ticket was drew

end Stamps

end TicketQueue.Traffic
