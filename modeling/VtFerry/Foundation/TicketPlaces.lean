import VtFerry.Foundation.TicketQueue

/-!
# Where the tickets of a ticketed queue are

A drawn ticket is with its producer, in a lane (or popped from it and not yet
looked up), or handed out, and never in two of these places.  An item that is
stored is the item of such a ticket: its producer is about to push it, it
waits in its own lane, or it was delivered.  All this holds in every
execution, also when items are discarded early; what is discarded is never
stored again.
-/

universe u v

namespace TicketQueue.Traffic

open List

variable {Lane : Type u} {Item : Type v} [DecidableEq Lane]
variable {labels : Labels Lane Item} {traffic changed : Traffic Lane Item}

inductive Place (Lane : Type u) where
  | producer (index : Nat)
  | lane (key : Lane)
  | out

inductive At (traffic : Traffic Lane Item) (ticket : Nat) :
    Place Lane → Prop
  | producing {index : Nat} {producer : Producer Item}
      (found : traffic.producers.lookup index = some producer)
      (drew : producer.ticket? = some ticket) :
      At traffic ticket (.producer index)
  | waiting {key : Lane} (waits : ticket ∈ traffic.tickets key) :
      At traffic ticket (.lane key)
  | delivered {item : Item} (handed : (ticket, item) ∈ traffic.delivered) :
      At traffic ticket .out

/-- The stored item is about to be pushed, or it was pushed and waits in its
lane or is out. -/
def Stores (labels : Labels Lane Item) (traffic : Traffic Lane Item)
    (ticket : Nat) (item : Item) : Prop :=
  (∃ index, traffic.producers.lookup index = some ⟨item, .stored ticket⟩) ∨
    ((ticket, item) ∈ traffic.pushed ∧ (ticket ∈ traffic.tickets (labels.laneOf item) ∨
        (ticket, item) ∈ traffic.delivered))

structure Located (traffic : Traffic Lane Item) : Prop where
  drawn : ∀ ticket place, traffic.At ticket place → ticket < traffic.queue.next
  once : ∀ ticket place other, traffic.At ticket place → traffic.At ticket other → place = other
  nodup : ∀ key, (traffic.tickets key).Nodup
  outOnce : (traffic.delivered.map Prod.fst).Nodup

structure Placed (labels : Labels Lane Item) (traffic : Traffic Lane Item) : Prop
    extends Located traffic where
  stored : ∀ ticket item, traffic.queue.items.lookup ticket = some item →
    traffic.Stores labels ticket item

theorem initial_located (next : Nat) : (initial next : Traffic Lane Item).Located := by
  have nowhere : ∀ ticket place, ¬ (initial next : Traffic Lane Item).At ticket place := by
    intro ticket place located
    cases located with
    | producing found => cases found
    | waiting waits => cases waits
    | delivered handed => cases handed
  constructor
  · intro ticket place located
    exact absurd located (nowhere ticket place)
  · intro ticket place other located
    exact absurd located (nowhere ticket place)
  · intro key
    exact nodup_nil
  · exact nodup_nil

theorem initial_placed (labels : Labels Lane Item) (next : Nat) :
    (initial next : Traffic Lane Item).Placed labels where
  toLocated := initial_located next
  stored _ _ found := by cases found

section Changes

variable {event : Event Lane Item} {ticket : Nat} {item : Item}

omit [DecidableEq Lane] in
theorem mem_collect {queue : TicketQueue Lane Item} {tickets : List Nat} :
    (ticket, item) ∈ queue.collect tickets ↔
      ticket ∈ tickets ∧ queue.items.lookup ticket = some item := by
  simp only [collect, mem_filterMap, Option.map_eq_some_iff]
  constructor
  · rintro ⟨other, member, found, lookup, same⟩
    cases same
    exact ⟨member, lookup⟩
  · rintro ⟨member, lookup⟩
    exact ⟨ticket, member, item, lookup, rfl⟩

omit [DecidableEq Lane] in
theorem collect_sublist (queue : TicketQueue Lane Item) (tickets : List Nat) :
    List.Sublist ((queue.collect tickets).map Prod.fst) tickets := by
  induction tickets with
  | nil => exact List.Sublist.slnil
  | cons ticket tickets induction =>
    cases found : queue.items.lookup ticket with
    | none => simpa [collect, found] using induction.cons ticket
    | some item => simpa [collect, found] using induction

/-- A stored item stays where it is, is pushed, or is handed out. -/
theorem Stores.after (stores : traffic.Stores labels ticket item)
    (kept : traffic.queue.items.lookup ticket = some item)
    (change : Change labels traffic event changed) :
    changed.Stores labels ticket item := by
  have pushed : ∀ pair ∈ traffic.pushed, pair ∈ changed.pushed := by
    rcases change.pushes with same | ⟨_, _, _, _, _, same⟩
    · exact same ▸ fun _ member => member
    · exact same ▸ fun _ member => mem_append_left _ member
  rcases stores with ⟨index, storing⟩ | ⟨member, waits | out⟩
  · cases change with
    | start absent =>
      refine .inl ⟨index, (FiniteMap.lookup_insert_eq ..).trans ?_⟩
      rw [if_neg (fun same => by cases (same ▸ absent).symm.trans storing)]
      exact storing
    | draw found | store found =>
      refine .inl ⟨index, (FiniteMap.lookup_insert_eq ..).trans ?_⟩
      rw [if_neg (fun same => by cases (same ▸ found).symm.trans storing)]
      exact storing
    | @push rival _ _ found =>
      by_cases same : index = rival
      · subst same
        cases found.symm.trans storing
        refine .inr ⟨by simp, .inl ?_⟩
        simp [tickets_push]
      · refine .inl ⟨index, (FiniteMap.lookup_erase_eq ..).trans ?_⟩
        rw [if_neg same]
        exact storing
    | abandon found unstored =>
      refine .inl ⟨index, (FiniteMap.lookup_erase_eq ..).trans ?_⟩
      rw [if_neg]
      · exact storing
      · rintro rfl
        cases found.symm.trans storing
        exact unstored ticket rfl
    | _ => exact .inl ⟨index, storing⟩
  · refine .inr ⟨pushed _ member, ?_⟩
    cases change with
    | push found =>
      refine .inl ?_
      rw [tickets_push]
      exact mem_append_left _ waits
    | pop free => exact .inl (tickets_pop free .. ▸ waits)
    | collect holds =>
      simp only [tickets, holds] at waits
      rcases mem_append.mp waits with taken | queued
      · split at taken
        · exact .inr (mem_append_right _ (mem_collect.mpr ⟨taken, kept⟩))
        · cases taken
      · exact .inl queued
    | _ => exact .inl waits
  · refine .inr ⟨pushed _ member, .inr ?_⟩
    cases change with
    | collect _ => exact mem_append_left _ out
    | _ => exact out

/-- Tickets that move go to one place; the rest stay. -/
theorem Located.moved (located : traffic.Located)
    (next_le : traffic.queue.next ≤ changed.queue.next) (moves : Nat → Prop) (target : Place Lane)
    (places : ∀ ticket place, changed.At ticket place → (traffic.At ticket place ∧ ¬ moves ticket) ∨
        (moves ticket ∧ place = target ∧ ticket < changed.queue.next))
    (nodup : ∀ key, (changed.tickets key).Nodup)
    (outOnce : (changed.delivered.map Prod.fst).Nodup) : changed.Located := by
  refine ⟨?_, ?_, nodup, outOnce⟩
  · intro ticket place here
    rcases places ticket place here with ⟨before, _⟩ | ⟨_, _, drawn⟩
    · exact Nat.lt_of_lt_of_le (located.drawn ticket place before) next_le
    · exact drawn
  · intro ticket place other here elsewhere
    rcases places ticket place here with ⟨stays, still⟩ | ⟨moves, rfl, _⟩
    · rcases places ticket other elsewhere with
        ⟨alsoStays, _⟩ | ⟨alsoMoves, _, _⟩
      · exact located.once ticket place other stays alsoStays
      · exact absurd alsoMoves still
    · rcases places ticket other elsewhere with ⟨_, still⟩ | ⟨_, rfl, _⟩
      · exact absurd moves still
      · rfl

/-- The producers stay, and lanes and the history lose tickets only. -/
theorem Located.fewer (located : traffic.Located)
    (next_le : traffic.queue.next ≤ changed.queue.next)
    (producers : changed.producers = traffic.producers)
    (lanes : ∀ key, List.Sublist (changed.tickets key) (traffic.tickets key))
    (handed : List.Sublist changed.delivered traffic.delivered) : changed.Located := by
  refine located.moved next_le (fun _ => False) .out ?_
    (fun key => (located.nodup key).sublist (lanes key)) (located.outOnce.sublist (handed.map _))
  intro ticket place here
  refine .inl ⟨?_, not_false⟩
  cases here with
  | producing found drew => exact .producing (producers ▸ found) drew
  | waiting waits => exact .waiting ((lanes _).subset waits)
  | delivered out => exact .delivered (handed.subset out)

/-- No ticket moves, though one may be drawn and some may get lost. -/
theorem Located.stayed (located : traffic.Located)
    (change : Change labels traffic event changed)
    (lanes : ∀ key, changed.tickets key = traffic.tickets key)
    (handed : changed.delivered = traffic.delivered) :
    changed.Located := by
  have drawn : ∃ index, ∀ ticket place, changed.At ticket place →
      traffic.At ticket place ∨ (ticket = traffic.queue.next ∧
        place = .producer index ∧ ticket < changed.queue.next) := by
    refine ⟨(match event with | .advance index => index | _ => 0), ?_⟩
    intro ticket place here
    cases here with
    | producing found drew =>
      rcases change.ofTicket found drew with ⟨_, was, had⟩ | ⟨rfl, rfl, next⟩
      · exact .inl (.producing was had)
      · exact .inr ⟨rfl, rfl, by omega⟩
    | waiting waits => exact .inl (.waiting (lanes _ ▸ waits))
    | delivered out => exact .inl (.delivered (handed ▸ out))
  obtain ⟨index, drawn⟩ := drawn
  refine located.moved change.next_le (· = traffic.queue.next) (.producer index) ?_
    (fun key => lanes key ▸ located.nodup key) (handed ▸ located.outOnce)
  intro ticket place here
  rcases drawn ticket place here with before | moved
  · exact .inl ⟨before, Nat.ne_of_lt (located.drawn ticket place before)⟩
  · exact .inr moved

/-- The push moves the ticket from its producer to the end of its lane. -/
theorem Located.push (located : traffic.Located) {index : Nat}
    (found : traffic.producers.lookup index = some ⟨item, .stored ticket⟩) :
    ({ traffic with
        queue := traffic.queue.push (labels.laneOf item) ticket
        producers := traffic.producers.erase index
        pushed := traffic.pushed ++ [(ticket, item)] } :
      Traffic Lane Item).Located := by
  have mine : traffic.At ticket (.producer index) := .producing found rfl
  refine located.moved (Nat.le_refl _) (· = ticket) (.lane (labels.laneOf item)) ?_ ?_
    located.outOnce
  · intro other place here
    by_cases moves : other = ticket
    · subst moves
      refine .inr ⟨rfl, ?_, located.drawn _ _ mine⟩
      cases here with
      | producing rivalFound drew =>
        rw [FiniteMap.lookup_erase_eq] at rivalFound
        split at rivalFound
        · cases rivalFound
        next different =>
          cases located.once _ _ _ mine (.producing rivalFound drew)
          exact absurd rfl different
      | waiting waits =>
        rw [tickets_push] at waits
        rcases mem_append.mp waits with before | now
        · cases located.once _ _ _ mine (.waiting before)
        · split at now
          next own => rw [own]
          · cases now
      | delivered out => cases located.once _ _ _ mine (.delivered out)
    · refine .inl ⟨?_, moves⟩
      cases here with
      | producing rivalFound drew =>
        exact .producing (FiniteMap.lookup_of_erase rivalFound) drew
      | waiting waits =>
        rw [tickets_push] at waits
        rcases mem_append.mp waits with before | now
        · exact .waiting before
        · split at now
          · exact absurd (mem_singleton.mp now) moves
          · cases now
      | delivered out => exact .delivered out
  · intro key
    rw [tickets_push]
    split
    · apply nodup_append.mpr
      refine ⟨located.nodup key, nodup_singleton _, ?_⟩
      rintro waiting waits pushed member rfl
      rw [mem_singleton.mp member] at waits
      cases located.once _ _ _ mine (.waiting waits)
    · rw [append_nil]
      exact located.nodup key

/-- Looking popped tickets up moves those found from their lane to the
history; a ticket whose item was discarded is lost. -/
theorem Located.collect (located : traffic.Located) {key : Lane}
    {popped : List Nat} (consumer : traffic.held = some (key, popped)) :
    ({ traffic with
        held := none
        delivered := traffic.delivered ++ traffic.queue.collect popped } :
      Traffic Lane Item).Located := by
  have waits : ∀ ticket ∈ popped, traffic.At ticket (.lane key) := by
    intro ticket member
    apply At.waiting
    simp [tickets, consumer, member]
  have after : ∀ other, List.Sublist (traffic.queue.lane other) (traffic.tickets other) :=
    fun other => sublist_append_right _ _
  have nodup := located.nodup key
  simp only [tickets, consumer, if_true] at nodup
  obtain ⟨once, -, apart⟩ := nodup_append.mp nodup
  refine located.moved (Nat.le_refl _) (fun ticket => ∃ item,
    (ticket, item) ∈ traffic.queue.collect popped) .out ?_
    (fun other => (located.nodup other).sublist (after other)) ?_
  · intro ticket place here
    cases here with
    | producing found drew =>
      refine .inl ⟨.producing found drew, ?_⟩
      rintro ⟨item, collected⟩
      cases located.once _ _ _ (.producing found drew) (waits ticket (mem_collect.mp collected).1)
    | @waiting other queued =>
      have before : traffic.At ticket (.lane other) :=
        .waiting ((after other).subset queued)
      refine .inl ⟨before, ?_⟩
      rintro ⟨item, collected⟩
      have member := (mem_collect.mp collected).1
      cases located.once _ _ _ before (waits ticket member)
      exact apart ticket member ticket queued rfl
    | delivered handed =>
      rcases mem_append.mp handed with before | now
      · refine .inl ⟨.delivered before, ?_⟩
        rintro ⟨item, collected⟩
        cases located.once _ _ _ (.delivered before) (waits ticket (mem_collect.mp collected).1)
      · exact .inr ⟨⟨_, now⟩, rfl, located.drawn _ _ (waits ticket (mem_collect.mp now).1)⟩
  · rw [map_append, nodup_append]
    refine ⟨located.outOnce, once.sublist (collect_sublist _ _), ?_⟩
    rintro ticket before other now rfl
    obtain ⟨pair, handed, rfl⟩ := mem_map.mp before
    cases located.once _ _ _ (.delivered handed) (waits pair.1 ((collect_sublist _ _).subset now))

theorem Located.after (located : traffic.Located)
    (change : Change labels traffic event changed) : changed.Located := by
  have stayed := located.stayed change
  cases change with
  | push found => exact located.push found
  | collect consumer => exact located.collect consumer
  | pop free => exact stayed (tickets_pop free _ · _) rfl
  | _ => exact stayed (fun _ => rfl) rfl

theorem Placed.step (placed : traffic.Placed labels) (event : Event Lane Item) :
    (traffic.step labels event).Placed labels := by
  have change := step_change labels traffic event
  refine ⟨placed.after change, ?_⟩
  intro ticket item found
  rcases change.ofItem found with old | ⟨index, _, storing⟩
  · exact (placed.stored ticket item old).after old change
  · exact .inl ⟨index, storing⟩

end Changes

variable {ticket : Nat} {item : Item}

/-- A pop and the lookup of what it popped, one right after the other. -/
theorem run_pop_collect (labels : Labels Lane Item)
    (free : traffic.held = none) (key : Lane) (count : Nat) :
    Execution.run (Traffic.step labels) traffic [.pop key count, .collect] =
      { traffic with
        queue := (traffic.queue.pop key count).2
        delivered := traffic.delivered ++
          traffic.queue.collect (traffic.queue.pop key count).1 } := by
  simp only [Execution.run_cons, Execution.run_nil, Traffic.step, free]
  rfl

theorem Placed.keyed (placed : traffic.Placed labels) {key : Lane}
    (waits : ticket ∈ traffic.tickets key)
    (stored : traffic.queue.items.lookup ticket = some item) :
    labels.laneOf item = key := by
  have located : traffic.At ticket (.lane key) := .waiting waits
  rcases placed.stored ticket item stored with
    ⟨index, storing⟩ | ⟨_, own | out⟩
  · cases placed.once _ _ _ located (.producing storing rfl)
  · cases placed.once _ _ _ located (.waiting own)
    rfl
  · cases placed.once _ _ _ located (.delivered out)

theorem Placed.handed_eq (placed : traffic.Placed labels) {handed : Item}
    (out : (ticket, handed) ∈ traffic.delivered)
    (stored : traffic.queue.items.lookup ticket = some item) :
    handed = item := by
  have located : traffic.At ticket .out := .delivered out
  rcases placed.stored ticket item stored with
    ⟨index, storing⟩ | ⟨_, waits | again⟩
  · cases placed.once _ _ _ located (.producing storing rfl)
  · cases placed.once _ _ _ located (.waiting waits)
  · have same := inj_on_of_nodup_map placed.outOnce out again rfl
    exact congrArg Prod.snd same

/-! ## Past tickets -/

/-- The ticket has been drawn, and no producer is about to store an item under
it. -/
structure Past (traffic : Traffic Lane Item) (ticket : Nat) : Prop where
  drawn : ticket < traffic.queue.next
  unstored : ∀ index item, traffic.producers.lookup index ≠ some ⟨item, .ticketed ticket⟩

theorem Located.past (located : traffic.Located) {place : Place Lane}
    (here : traffic.At ticket place)
    (further : ∀ index item, place = .producer index →
      traffic.producers.lookup index ≠ some ⟨item, .ticketed ticket⟩) : traffic.Past ticket := by
  refine ⟨located.drawn ticket place here, ?_⟩
  intro index item drew
  exact further index item (located.once _ _ _ here (.producing drew rfl)) drew

theorem Located.past_of_waiting (located : traffic.Located) {key : Lane}
    (waits : ticket ∈ traffic.tickets key) : traffic.Past ticket :=
  located.past (.waiting waits) fun _ _ same => nomatch same

theorem Located.past_of_storing (located : traffic.Located) {index : Nat}
    (storing : traffic.producers.lookup index = some ⟨item, .stored ticket⟩) :
    traffic.Past ticket := by
  refine located.past (.producing storing rfl) ?_
  rintro _ other ⟨rfl⟩ early
  cases storing.symm.trans early

theorem Placed.past_of_stored (placed : traffic.Placed labels)
    (stored : traffic.queue.items.lookup ticket = some item) : traffic.Past ticket := by
  rcases placed.stored ticket item stored with
    ⟨index, storing⟩ | ⟨_, waits | out⟩
  · exact placed.past_of_storing storing
  · exact placed.past_of_waiting waits
  · exact placed.past (.delivered out) fun _ _ same => nomatch same

theorem Past.after {event : Event Lane Item} (past : traffic.Past ticket)
    (change : Change labels traffic event changed) : changed.Past ticket := by
  refine ⟨Nat.lt_of_lt_of_le past.drawn change.next_le, ?_⟩
  intro index item drew
  rcases change.ofProducer drew with old | ⟨_, _, made⟩ | ⟨_, _, made, _⟩ | ⟨_, _, _, made, _⟩
  · exact past.unstored index item old
  · cases made
  · cases made
    exact Nat.lt_irrefl _ past.drawn
  · cases made

omit [DecidableEq Lane] in
theorem Past.of_same (past : traffic.Past ticket)
    (next : changed.queue.next = traffic.queue.next)
    (producers : changed.producers = traffic.producers) : changed.Past ticket :=
  ⟨next ▸ past.drawn, producers ▸ past.unstored⟩

/-- The ticket is past, and its item is gone. -/
structure Retired (traffic : Traffic Lane Item) (ticket : Nat) : Prop
    extends Past traffic ticket where
  gone : traffic.queue.items.lookup ticket = none

theorem Placed.retired_of_discard (placed : traffic.Placed labels)
    (stored : traffic.queue.items.lookup ticket = some item) :
    (traffic.step labels (.discard ticket)).Retired ticket where
  toPast := (placed.past_of_stored stored).of_same rfl rfl
  gone := by simp [Traffic.step, TicketQueue.discard]

theorem Retired.after {event : Event Lane Item} (retired : traffic.Retired ticket)
    (change : Change labels traffic event changed) : changed.Retired ticket := by
  refine ⟨retired.toPast.after change, Option.eq_none_iff_forall_ne_some.mpr ?_⟩
  intro item found
  rcases change.ofItem found with old | ⟨index, was, _⟩
  · cases retired.gone.symm.trans old
  · exact retired.unstored index item was

theorem Retired.run (retired : traffic.Retired ticket) (events : List (Event Lane Item)) :
    (Execution.run (Traffic.step labels) traffic events).Retired ticket := by
  have kept : ∀ (traffic : Traffic Lane Item) event, traffic.Retired ticket →
      (traffic.step labels event).Retired ticket :=
    fun traffic event retired => retired.after (step_change labels traffic event)
  exact Execution.invariant_of_step kept retired events

omit [DecidableEq Lane] in
theorem initial_retired {next : Nat} (old : ticket < next) :
    (initial next : Traffic Lane Item).Retired ticket where
  drawn := old
  unstored _ _ found := nomatch found
  gone := rfl

end TicketQueue.Traffic
