import VtFerry.Foundation.Execution
import VtFerry.Foundation.FiniteMap

/-!
# Ticketed queues

Many producers hand items to one consumer through three separately locked
objects: a ticket counter, a map from tickets to items, and one first-in
first-out lane of tickets per key.  A producer draws a ticket, stores its item
and pushes the ticket, each in a critical section of its own; the consumer pops
tickets in one section and looks them up in the next.  Whatever the
interleaving, every item is collected once, in the order of the pushes to its
lane, provided that an item is discarded only after it was collected.
-/

universe u v

/-- The shared part: items by ticket, tickets by lane, the next ticket. -/
structure TicketQueue (Lane : Type u) (Item : Type v) where
  items : FiniteMap Nat Item
  lanes : FiniteMap Lane (List Nat)
  next : Nat

namespace TicketQueue

variable {Lane : Type u} {Item : Type v} [DecidableEq Lane]

def lane (queue : TicketQueue Lane Item) (key : Lane) : List Nat :=
  (queue.lanes.lookup key).getD []

def drawTicket (queue : TicketQueue Lane Item) : TicketQueue Lane Item :=
  { queue with next := queue.next + 1 }

def store (queue : TicketQueue Lane Item) (ticket : Nat) (item : Item) :
    TicketQueue Lane Item :=
  { queue with items := queue.items.insert ticket item }

def push (queue : TicketQueue Lane Item) (key : Lane) (ticket : Nat) :
    TicketQueue Lane Item :=
  { queue with lanes := queue.lanes.insert key (queue.lane key ++ [ticket]) }

/-- Take up to `count` tickets off the front of a lane. -/
def pop (queue : TicketQueue Lane Item) (key : Lane) (count : Nat) :
    List Nat × TicketQueue Lane Item :=
  ((queue.lane key).take count,
    { queue with
      lanes := queue.lanes.modify key fun tickets => tickets.drop count })

def discard (queue : TicketQueue Lane Item) (ticket : Nat) :
    TicketQueue Lane Item :=
  { queue with items := queue.items.erase ticket }

def collect (queue : TicketQueue Lane Item) (tickets : List Nat) :
    List (Nat × Item) :=
  tickets.filterMap fun ticket =>
    (queue.items.lookup ticket).map fun item => (ticket, item)

theorem lane_push (queue : TicketQueue Lane Item) (key other : Lane) (ticket : Nat) :
    (queue.push key ticket).lane other =
      queue.lane other ++ if other = key then [ticket] else [] := by
  by_cases same : other = key
  · subst same
    simp [lane, push]
  · simp [lane, push, same]

theorem lane_pop (queue : TicketQueue Lane Item) (key other : Lane) (count : Nat) :
    (queue.pop key count).2.lane other =
      if other = key then (queue.lane other).drop count
      else queue.lane other := by
  by_cases same : other = key
  · subst same
    cases found : queue.lanes.lookup other <;> simp [lane, pop, found]
  · simp [lane, pop, same]

theorem pop_pop (queue : TicketQueue Lane Item) (key : Lane) (first second : Nat) :
    ((queue.pop key first).2.pop key second).2 = (queue.pop key (first + second)).2 := by
  simp only [pop, FiniteMap.modify_modify, List.drop_drop]

theorem pop_of_empty {queue : TicketQueue Lane Item} {key : Lane}
    (empty : queue.lane key = []) (count : Nat) :
    (queue.pop key count).2 = queue := by
  simp only [pop]
  rw [FiniteMap.modify_of_fixed]
  intro tickets found
  have none : tickets = [] := by simpa [lane, found] using empty
  rw [none, List.drop_nil]

omit [DecidableEq Lane] in
theorem collect_eq_of_stored {queue : TicketQueue Lane Item} {waiting : List (Nat × Item)}
    (stored : ∀ pair ∈ waiting, queue.items.lookup pair.1 = some pair.2) :
    queue.collect (waiting.map Prod.fst) = waiting := by
  induction waiting with
  | nil => rfl
  | cons pair waiting induction =>
    have head := stored pair List.mem_cons_self
    have tail := induction fun other member =>
      stored other (List.mem_cons_of_mem _ member)
    rw [collect] at tail
    simp [collect, head, tail]

/-- How an item is labelled: the lane it goes to, and the copy that carries its
own ticket. -/
structure Labels (Lane : Type u) (Item : Type v) where
  laneOf : Item → Lane
  stamp : Nat → Item → Item
  laneOf_stamp : ∀ ticket item, laneOf (stamp ticket item) = laneOf item

/-- How far a producer has come. -/
inductive Stage where
  | started
  | ticketed (ticket : Nat)
  | stored (ticket : Nat)
  deriving DecidableEq, Repr

structure Producer (Item : Type v) where
  item : Item
  stage : Stage
  deriving DecidableEq

def Producer.ticket? (producer : Producer Item) : Option Nat :=
  match producer.stage with
  | .started => none
  | .ticketed ticket => some ticket
  | .stored ticket => some ticket

/-- The next critical section of a producer; the last one leaves none. -/
def advance (labels : Labels Lane Item) (queue : TicketQueue Lane Item) (producer : Producer Item) :
    TicketQueue Lane Item × Option (Producer Item) :=
  match producer.stage with
  | .started =>
    (queue.drawTicket,
      some { item := labels.stamp queue.next producer.item
             stage := .ticketed queue.next })
  | .ticketed ticket =>
    (queue.store ticket producer.item, some { producer with stage := .stored ticket })
  | .stored ticket =>
    (queue.push (labels.laneOf producer.item) ticket, none)

def Producer.pushes (producer : Producer Item) : List (Nat × Item) :=
  match producer.stage with
  | .stored ticket => [(ticket, producer.item)]
  | _ => []

/-- A producer may give up until its item is stored. -/
def Producer.mayAbandon (producer : Producer Item) : Bool :=
  match producer.stage with
  | .stored _ => false
  | _ => true

/-- The queue with the producers and the consumer at work on it, and the
history of what was pushed and what was delivered, oldest first. -/
structure Traffic (Lane : Type u) (Item : Type v) where
  queue : TicketQueue Lane Item
  producers : FiniteMap Nat (Producer Item)
  /-- The lane and tickets the consumer has popped and not yet looked up. -/
  held : Option (Lane × List Nat)
  pushed : List (Nat × Item)
  delivered : List (Nat × Item)

/-- The critical sections that may be interleaved. -/
inductive Event (Lane : Type u) (Item : Type v) where
  | start (producer : Nat) (item : Item)
  | advance (producer : Nat)
  | abandon (producer : Nat)
  | pop (key : Lane) (count : Nat)
  | collect
  | discard (ticket : Nat)

def Event.isConsumer : Event Lane Item → Bool
  | .pop _ _ | .collect | .discard _ => true
  | _ => false

namespace Traffic

section Steps

variable (labels : Labels Lane Item)

def initial (next : Nat) : Traffic Lane Item where
  queue := { items := ∅, lanes := ∅, next := next }
  producers := ∅
  held := none
  pushed := []
  delivered := []

def advanceProducer (traffic : Traffic Lane Item) (index : Nat)
    (producer : Producer Item) : Traffic Lane Item :=
  let result := TicketQueue.advance labels traffic.queue producer
  { traffic with
    queue := result.1
    producers :=
      match result.2 with
      | some moved => traffic.producers.insert index moved
      | none => traffic.producers.erase index
    pushed := traffic.pushed ++ producer.pushes }

/-- Events that are not enabled change nothing. -/
def step (traffic : Traffic Lane Item) :
    Event Lane Item → Traffic Lane Item
  | .start index item =>
    if (traffic.producers.lookup index).isSome then traffic
    else { traffic with
      producers := traffic.producers.insert index ⟨item, .started⟩ }
  | .advance index =>
    match traffic.producers.lookup index with
    | none => traffic
    | some producer => traffic.advanceProducer labels index producer
  | .abandon index =>
    match traffic.producers.lookup index with
    | none => traffic
    | some producer =>
      if producer.mayAbandon then
        { traffic with producers := traffic.producers.erase index }
      else traffic
  | .pop key count =>
    match traffic.held with
    | some _ => traffic
    | none =>
      let result := traffic.queue.pop key count
      { traffic with queue := result.2, held := some (key, result.1) }
  | .collect =>
    match traffic.held with
    | none => traffic
    | some (_, tickets) =>
      { traffic with
        held := none
        delivered := traffic.delivered ++ traffic.queue.collect tickets }
  | .discard ticket =>
    { traffic with queue := traffic.queue.discard ticket }

/-- The tickets of a lane that are popped or still queued, oldest first. -/
def tickets (traffic : Traffic Lane Item) (key : Lane) : List Nat :=
  (match traffic.held with
    | some (heldKey, popped) => if heldKey = key then popped else []
    | none => []) ++ traffic.queue.lane key

end Steps

/-! ## What an event does -/

open List

variable {labels : Labels Lane Item} {traffic : Traffic Lane Item}

/-- What an event may do to the queue, its producers and its consumer. -/
inductive Change (labels : Labels Lane Item) (traffic : Traffic Lane Item) :
    Event Lane Item → Traffic Lane Item → Prop
  | idle {event : Event Lane Item} : Change labels traffic event traffic
  | start {index : Nat} {item : Item}
      (absent : traffic.producers.lookup index = none) :
      Change labels traffic (.start index item)
        { traffic with
          producers := traffic.producers.insert index ⟨item, .started⟩ }
  | draw {index : Nat} {item : Item}
      (found : traffic.producers.lookup index = some ⟨item, .started⟩) :
      Change labels traffic (.advance index)
        { traffic with
          queue := traffic.queue.drawTicket
          producers := traffic.producers.insert index
            ⟨labels.stamp traffic.queue.next item, .ticketed traffic.queue.next⟩ }
  | store {index ticket : Nat} {item : Item}
      (found : traffic.producers.lookup index = some ⟨item, .ticketed ticket⟩) :
      Change labels traffic (.advance index)
        { traffic with
          queue := traffic.queue.store ticket item
          producers := traffic.producers.insert index ⟨item, .stored ticket⟩ }
  | push {index ticket : Nat} {item : Item}
      (found : traffic.producers.lookup index = some ⟨item, .stored ticket⟩) :
      Change labels traffic (.advance index)
        { traffic with
          queue := traffic.queue.push (labels.laneOf item) ticket
          producers := traffic.producers.erase index
          pushed := traffic.pushed ++ [(ticket, item)] }
  | abandon {index : Nat} {producer : Producer Item}
      (found : traffic.producers.lookup index = some producer)
      (unstored : ∀ ticket, producer.stage ≠ .stored ticket) :
      Change labels traffic (.abandon index)
        { traffic with producers := traffic.producers.erase index }
  | pop {key : Lane} {count : Nat} (free : traffic.held = none) :
      Change labels traffic (.pop key count)
        { traffic with
          queue := (traffic.queue.pop key count).2
          held := some (key, (traffic.queue.pop key count).1) }
  | collect {key : Lane} {popped : List Nat}
      (holds : traffic.held = some (key, popped)) :
      Change labels traffic .collect
        { traffic with
          held := none
          delivered := traffic.delivered ++ traffic.queue.collect popped }
  | discard {ticket : Nat} :
      Change labels traffic (.discard ticket)
        { traffic with queue := traffic.queue.discard ticket }

theorem step_change (labels : Labels Lane Item) (traffic : Traffic Lane Item)
    (event : Event Lane Item) :
    Change labels traffic event (traffic.step labels event) := by
  cases event with
  | start index item =>
    simp only [step]
    split
    · exact .idle
    next absent => exact .start (by simpa using absent)
  | advance index =>
    simp only [step]
    cases found : traffic.producers.lookup index with
    | none => exact .idle
    | some producer =>
      obtain ⟨item, stage⟩ := producer
      cases stage with
      | started =>
        simp only [advanceProducer, TicketQueue.advance, Producer.pushes, append_nil]
        exact .draw found
      | ticketed ticket =>
        simp only [advanceProducer, TicketQueue.advance, Producer.pushes, append_nil]
        exact .store found
      | stored ticket => exact .push found
  | abandon index =>
    simp only [step]
    cases found : traffic.producers.lookup index with
    | none => exact .idle
    | some producer =>
      dsimp only
      split
      next unstored =>
        refine .abandon found fun ticket stored => ?_
        simp [Producer.mayAbandon, stored] at unstored
      · exact .idle
  | pop key count =>
    simp only [step]
    cases holds : traffic.held with
    | some popped => exact .idle
    | none => exact .pop holds
  | collect =>
    simp only [step]
    cases holds : traffic.held with
    | none => exact .idle
    | some popped => exact .collect holds
  | discard ticket => exact .discard

section Changes

variable {changed : Traffic Lane Item} {event : Event Lane Item}
variable {index ticket : Nat} {producer : Producer Item} {item : Item}

theorem Change.next_le (change : Change labels traffic event changed) :
    traffic.queue.next ≤ changed.queue.next := by
  cases change with
  | draw _ => exact Nat.le_succ _
  | _ => exact Nat.le_refl _

theorem Change.ofProducer (change : Change labels traffic event changed)
    (found : changed.producers.lookup index = some producer) :
    traffic.producers.lookup index = some producer ∨
      (∃ item, event = .start index item ∧ producer = ⟨item, .started⟩) ∨
      (∃ item, traffic.producers.lookup index = some ⟨item, .started⟩ ∧
        producer = ⟨labels.stamp traffic.queue.next item,
          .ticketed traffic.queue.next⟩ ∧ event = .advance index ∧
        changed.queue.next = traffic.queue.next + 1) ∨
      ∃ item ticket, traffic.producers.lookup index = some ⟨item, .ticketed ticket⟩ ∧
        producer = ⟨item, .stored ticket⟩ ∧
        changed.queue.items.lookup ticket = some item := by
  cases change with
  | start absent =>
    rw [FiniteMap.lookup_insert_eq] at found
    split at found
    next same =>
      cases found
      exact .inr (.inl ⟨_, by rw [same], rfl⟩)
    · exact .inl found
  | draw was =>
    rw [FiniteMap.lookup_insert_eq] at found
    split at found
    next same =>
      cases found
      exact .inr (.inr (.inl ⟨_, same ▸ was, rfl, by rw [same], rfl⟩))
    · exact .inl found
  | store was =>
    rw [FiniteMap.lookup_insert_eq] at found
    split at found
    next same =>
      cases found
      exact .inr (.inr (.inr ⟨_, _, same ▸ was, rfl, by simp [TicketQueue.store]⟩))
    · exact .inl found
  | push _ | abandon _ _ => exact .inl (FiniteMap.lookup_of_erase found)
  | _ => exact .inl found

theorem Change.ofTicket (change : Change labels traffic event changed)
    (found : changed.producers.lookup index = some producer)
    (drew : producer.ticket? = some ticket) :
    (∃ earlier, traffic.producers.lookup index = some earlier ∧ earlier.ticket? = some ticket) ∨
      ticket = traffic.queue.next ∧ event = .advance index ∧
        changed.queue.next = traffic.queue.next + 1 := by
  rcases change.ofProducer found with old | ⟨item, -, rfl⟩ |
    ⟨item, -, rfl, advanced, next⟩ | ⟨item, drawn, was, rfl, -⟩
  · exact .inl ⟨producer, old, drew⟩
  · cases drew
  · exact .inr ⟨(Option.some.inj drew).symm, advanced, next⟩
  · exact .inl ⟨_, was, drew⟩

theorem Change.ofItem (change : Change labels traffic event changed)
    (found : changed.queue.items.lookup ticket = some item) :
    traffic.queue.items.lookup ticket = some item ∨ ∃ index,
      traffic.producers.lookup index = some ⟨item, .ticketed ticket⟩ ∧
      changed.producers.lookup index = some ⟨item, .stored ticket⟩ := by
  cases change with
  | store was =>
    simp only [TicketQueue.store, FiniteMap.lookup_insert_eq] at found
    split at found
    next same =>
      cases found
      exact .inr ⟨_, same ▸ was, by simp [same]⟩
    · exact .inl found
  | discard => exact .inl (FiniteMap.lookup_of_erase found)
  | _ => exact .inl found

theorem Change.ofLane (change : Change labels traffic event changed)
    {key : Lane} {tickets : List Nat}
    (known : changed.queue.lanes.lookup key = some tickets) :
    (∃ earlier, traffic.queue.lanes.lookup key = some earlier) ∨ ∃ index ticket item,
        traffic.producers.lookup index = some ⟨item, .stored ticket⟩ ∧
        labels.laneOf item = key := by
  cases change with
  | push found =>
    simp only [TicketQueue.push, FiniteMap.lookup_insert_eq] at known
    split at known
    next same => exact .inr ⟨_, _, _, found, same.symm⟩
    · exact .inl ⟨tickets, known⟩
  | @pop popped count _ =>
    simp only [TicketQueue.pop, FiniteMap.lookup_modify] at known
    split at known
    · obtain ⟨earlier, was, _⟩ := Option.map_eq_some_iff.mp known
      exact .inl ⟨earlier, was⟩
    · exact .inl ⟨tickets, known⟩
  | _ => exact .inl ⟨tickets, known⟩

/-- Producers only add to the end of a lane, each the ticket it stored. -/
theorem Change.lane (change : Change labels traffic event changed)
    (own : event.isConsumer = false) (key : Lane) :
    changed.queue.lane key = traffic.queue.lane key ∨ ∃ index ticket item,
      traffic.producers.lookup index = some ⟨item, .stored ticket⟩ ∧
      labels.laneOf item = key ∧ changed.producers.lookup index = none ∧
      changed.queue.lane key = traffic.queue.lane key ++ [ticket] := by
  cases change with
  | push found =>
    dsimp only
    rw [lane_push]
    split
    next same => exact .inr ⟨_, _, _, found, same.symm, by simp, rfl⟩
    · exact .inl (append_nil _)
  | pop _ => cases own
  | _ => exact .inl rfl

theorem Change.ofWaiting (change : Change labels traffic event changed)
    (own : event.isConsumer = false) {key : Lane}
    (waits : ticket ∈ changed.queue.lane key) :
    ticket ∈ traffic.queue.lane key ∨ ∃ index item,
      traffic.producers.lookup index = some ⟨item, .stored ticket⟩ ∧
      labels.laneOf item = key ∧ changed.producers.lookup index = none := by
  rcases change.lane own key with same | ⟨index, _, item, found, lane, gone, new⟩
  · exact .inl (same ▸ waits)
  · rw [new] at waits
    rcases mem_append.mp waits with was | pushed
    · exact .inl was
    · cases mem_singleton.mp pushed
      exact .inr ⟨index, item, found, lane, gone⟩

/-- What becomes of a producer that does not give up. -/
inductive Fate (labels : Labels Lane Item) (changed : Traffic Lane Item)
    (index : Nat) (producer : Producer Item) : Prop
  | waits (same : changed.producers.lookup index = some producer)
  | draws {ticket : Nat} (drawn : changed.producers.lookup index =
      some ⟨labels.stamp ticket producer.item, .ticketed ticket⟩)
  | stores {ticket : Nat} (stored : changed.producers.lookup index =
      some ⟨producer.item, .stored ticket⟩)
      (kept : changed.queue.items.lookup ticket = some producer.item)
  | pushes {ticket : Nat} (ready : producer.stage = .stored ticket)
      (queued : ticket ∈ changed.queue.lane (labels.laneOf producer.item))

theorem Change.fate (change : Change labels traffic event changed)
    (found : traffic.producers.lookup index = some producer)
    (goesOn : event ≠ .abandon index) :
    Fate labels changed index producer := by
  have apart {mover : Nat} {next : Producer Item} (differs : index ≠ mover) :
      (traffic.producers.insert mover next).lookup index = some producer := by
    rw [FiniteMap.lookup_insert_eq, if_neg differs]
    exact found
  have left {mover : Nat} (differs : index ≠ mover) :
      (traffic.producers.erase mover).lookup index = some producer := by
    rw [FiniteMap.lookup_erase_eq, if_neg differs]
    exact found
  cases change with
  | start absent =>
    refine .waits (apart ?_)
    rintro rfl
    rw [absent] at found
    cases found
  | @draw mover item was =>
    by_cases own : index = mover
    · subst own
      cases found.symm.trans was
      exact .draws (AList.lookup_insert _)
    · exact .waits (apart own)
  | @store mover ticket item was =>
    by_cases own : index = mover
    · subst own
      cases found.symm.trans was
      exact .stores (AList.lookup_insert _) (AList.lookup_insert _)
    · exact .waits (apart own)
  | @push mover ticket item was =>
    by_cases own : index = mover
    · subst own
      cases found.symm.trans was
      exact .pushes rfl (by simp [lane_push])
    · exact .waits (left own)
  | @abandon mover _ _ _ =>
    refine .waits (left ?_)
    rintro rfl
    exact goesOn rfl
  | _ => exact .waits found

/-- A stored item stays, unless it is discarded or another one is stored under
its ticket. -/
theorem Change.kept (change : Change labels traffic event changed)
    (found : traffic.queue.items.lookup ticket = some item)
    (undiscarded : event ≠ .discard ticket)
    (alone : ∀ index new, traffic.producers.lookup index ≠ some ⟨new, .ticketed ticket⟩) :
    changed.queue.items.lookup ticket = some item := by
  cases change with
  | store was =>
    refine (FiniteMap.lookup_insert_eq ..).trans ?_
    rw [if_neg]
    · exact found
    · rintro rfl
      exact alone _ _ was
  | discard =>
    refine (FiniteMap.lookup_erase_eq ..).trans ?_
    rw [if_neg]
    · exact found
    · rintro rfl
      exact undiscarded rfl
  | _ => exact found

/-- What is pushed comes from a producer, which is gone then. -/
theorem Change.pushes (change : Change labels traffic event changed) :
    changed.pushed = traffic.pushed ∨ ∃ index ticket item,
      traffic.producers.lookup index = some ⟨item, .stored ticket⟩ ∧
      changed.producers.lookup index = none ∧
      changed.pushed = traffic.pushed ++ [(ticket, item)] := by
  cases change with
  | push found => exact .inr ⟨_, _, _, found, by simp, rfl⟩
  | _ => exact .inl rfl

theorem tickets_push (key other : Lane) (ticket : Nat) (producers : FiniteMap Nat (Producer Item))
    (pushed : List (Nat × Item)) :
    ({ traffic with
        queue := traffic.queue.push key ticket
        producers := producers
        pushed := pushed } : Traffic Lane Item).tickets other =
      traffic.tickets other ++ if other = key then [ticket] else [] := by
  simp only [tickets, lane_push, append_assoc]

theorem tickets_pop (free : traffic.held = none) (key other : Lane) (count : Nat) :
    ({ traffic with
        queue := (traffic.queue.pop key count).2
        held := some (key, (traffic.queue.pop key count).1) } :
      Traffic Lane Item).tickets other = traffic.tickets other := by
  have popped := lane_pop traffic.queue key other count
  by_cases same : key = other
  · subst same
    simp only [tickets, free, popped, if_true, nil_append]
    exact take_append_drop count _
  · simp [tickets, free, popped, same, Ne.symm same]

end Changes

end Traffic

end TicketQueue
