import VtFerry.Foundation.CountedHeapReach
import VtFerry.Foundation.Execution
import VtFerry.Shim.CoreFoundation
import Mathlib.Data.List.Permutation

/-!
# Reference accounting of the CoreFoundation objects

A client that passes live objects, releases only what it owns and makes no
cycle sees exact reference counts after every call, with one exception.
`CFDictionarySetValue` releases the value it replaces before it retains the new
one.  When the slot that is being replaced was the last thing to lead to the
new value, the new value is finalized by that release and then retained.

So the accounting of a whole run is exact if and only if each replacing call
passes a value that something else leads to.
-/

namespace VtFerry.CoreFoundation

open CountedHeap Execution List

variable {client : Client} {call : CFCall}

/-- The accounting after a call. -/
structure Accounted (client : Client) : Prop where
  /-- The count of each object is the number of references to it. -/
  counts : ∀ id node, client.heap.node? id = some node → node.count.toInt =
      (held shape client.heap id + client.owned.count id : Nat)
  /-- An object is there as long as something refers to it. -/
  present : ∀ id, (client.heap.node? id).isSome ↔
    0 < held shape client.heap id + client.owned.count id
  /-- The objects that are gone were finalized, each of them once. -/
  finalized : ∀ id, id ∈ client.heap.finalized ↔
    id < client.heap.cells.length ∧ client.heap.node? id = none
  once : client.heap.finalized.Nodup
  untouched : client.heap.touched = []
  alive : client.heap.alive = client.heap.total presentWeight
  /-- Once the client owns nothing every object is gone. -/
  ended : Acyclic shape client.heap → client.owned = [] → ∀ id, client.heap.node? id = none

theorem accounted_of_settled (settled : Settled shape client.heap client.owned)
    (untouched : client.heap.touched = []) : Accounted client where
  counts id node found := by
    rw [← Heap.countOf_eq found]
    exact settled.counts id
  present id := settled.present_iff
  finalized id := by
    refine (settled.tidy.logged id).trans (and_congr_right fun _ => ?_)
    constructor
    · intro uncounted
      cases found : client.heap.node? id with
      | none => rfl
      | some node =>
        have counted := settled.needed id node found
        rw [Heap.countOf_eq found] at uncounted
        omega
    · intro gone
      rw [Heap.countOf, gone]
      rfl
  once := settled.tidy.once
  untouched := untouched
  alive := settled.tidy.alive
  ended acyclic nothing id := by
    rw [nothing] at settled
    exact settled.gone_of_unreferenced acyclic id

theorem Accounted.settled (accounted : Accounted client) :
    Settled shape client.heap client.owned := by
  have needed : ∀ id node, client.heap.node? id = some node → 0 < node.count.toInt := by
    intro id node found
    have references := (accounted.present id).mp (by rw [found]; rfl)
    rw [accounted.counts id node found]
    omega
  refine ⟨?_, ⟨?_, accounted.once, accounted.alive⟩, needed⟩
  · intro id
    cases found : client.heap.node? id with
    | none =>
      have unreferenced := mt (accounted.present id).mpr (by
        rw [found]
        exact Bool.false_ne_true)
      rw [Heap.countOf, found]
      dsimp only [Option.map_none, Option.getD_none]
      omega
    | some node =>
      rw [Heap.countOf_eq found]
      exact accounted.counts id node found
  · intro id
    refine (accounted.finalized id).trans (and_congr_right fun _ => ?_)
    cases found : client.heap.node? id with
    | none =>
      rw [Heap.countOf, found]
      exact ⟨fun _ => rfl, fun _ => rfl⟩
    | some node =>
      have counted := needed id node found
      rw [Heap.countOf_eq found]
      constructor
      · intro absent
        cases absent
      · intro uncounted
        omega

/-! ## The client's rules -/

/-- The references a call retains. -/
def CFCall.retained (heap : CFHeap) : CFCall → List CFTypeRef
  | .retain value => [value]
  | .arrayCreate values numValues => values.elements numValues
  | .dictionaryCreate keys values numValues =>
    keys.elements numValues ++ values.elements numValues
  | .dictionarySetValue dictionary key value =>
    match entries? heap dictionary with
    | none => []
    | some (_, entries) =>
      match vtfDictionaryFindIndex entries key with
      | some _ => [value]
      | none => [key, value]
  | .dictionaryCreateCopy dictionary =>
    match entries? heap dictionary with
    | none => []
    | some (_, entries) => CFBody.slots (.dictionary entries)
  | _ => []

/-- The create/get rule, acyclic containers, and fewer references to an object
than its count can hold. -/
structure Proper (client : Client) (call : CFCall) : Prop where
  live : ∀ id ∈ shape.targets call.passed, (client.heap.node? id).isSome
  owns : ∀ id ∈ shape.targets call.givenUp, id ∈ client.owned
  room : ∀ id ∈ shape.targets (call.retained client.heap),
    held shape client.heap id + client.owned.count id +
      (shape.targets (call.retained client.heap)).count id < 2 ^ 31
  acyclic : Acyclic shape client.heap

/-- When the call replaces a value, the new value can be reached without the
slot that is replaced. -/
def KeepsValue (client : Client) : CFCall → Prop
  | .dictionarySetValue dictionary key value =>
    ∀ id entries index, entries? client.heap dictionary = some (id, entries) →
      vtfDictionaryFindIndex entries key = some index →
      ∀ target ∈ shape.targets [value],
        Anchored shape (client.heap.modifyBody id (.storeValue index .null)) client.owned target
  | _ => True

/-- Exact counts, and no freed object was used on the way. -/
structure Kept (heap : CFHeap) (later : Client) : Prop where
  settled : Settled shape later.heap later.owned
  touched : later.heap.touched = heap.touched

/-! ## Creating calls -/

section Creating

variable {heap : CFHeap} {owned : List Nat}

theorem kept_null (settled : Settled shape client.heap client.owned) :
    Kept client.heap (client.adopt (client.heap, .null)) :=
  ⟨settled, rfl⟩

theorem kept_init {body : CFBody} (same : heap.touched = client.heap.touched)
    (settled : Settled shape heap (shape.targets body.slots ++ client.owned)) :
    Kept client.heap (client.adopt (vtfCfObjectInit heap body)) :=
  ⟨settled.create, same⟩

theorem count_targets_perm {refs others : List CFTypeRef} (perm : refs.Perm others) (id : Nat) :
    (shape.targets refs).count id = (shape.targets others).count id :=
  (perm.filterMap shape.target).count_eq id

theorem kept_container {refs : List CFTypeRef} {body : CFBody}
    (settled : Settled shape client.heap client.owned)
    (perm : refs.Perm body.slots)
    (live : ∀ id ∈ shape.targets body.slots, (client.heap.node? id).isSome)
    (room : ∀ id ∈ shape.targets body.slots, held shape client.heap id +
      client.owned.count id + (shape.targets body.slots).count id < 2 ^ 31) :
    Kept client.heap (client.adopt (vtfCfObjectInit (refs.foldl cfRetain client.heap) body)) := by
  have same_targets := perm.filterMap shape.target
  obtain ⟨retained, same⟩ := settled.retainAll
    (fun id listed => live id (same_targets.mem_iff.mp listed))
    (by
      intro id listed
      rw [count_targets_perm perm]
      exact room id (same_targets.mem_iff.mp listed))
  apply kept_init same.touched
  apply retained.recount
  intro id
  rw [count_append, count_append, count_targets_perm perm]

theorem foldl_retainEntry (entries : List (CFTypeRef × CFTypeRef)) :
    entries.foldl retainEntry heap =
      (entries.flatMap fun entry => [entry.1, entry.2]).foldl cfRetain
        heap := by
  induction entries generalizing heap with
  | nil => rfl
  | cons entry entries induction => exact induction

theorem entries_perm (entries : List (CFTypeRef × CFTypeRef)) :
    (entries.flatMap fun entry => [entry.1, entry.2]).Perm
      (CFBody.slots (.dictionary entries)) := by
  have split := flatMap_append_perm entries (fun entry => [entry.1]) (fun entry => [entry.2])
  have slots : CFBody.slots (.dictionary entries) = (entries.flatMap fun entry => [entry.1]) ++
        entries.flatMap fun entry => [entry.2] := by
    rw [CFBody.slots, map_eq_flatMap, map_eq_flatMap]
  rw [slots]
  exact split.symm

end Creating

/-! ## Dictionaries -/

section Dictionaries

variable {heap : CFHeap} {dictionary key value : CFTypeRef} {id index : Nat}
variable {entries : List (CFTypeRef × CFTypeRef)}

theorem node?_of_entries? (known : entries? heap dictionary = some (id, entries)) :
    dictionary = .object id ∧ ∃ count, heap.node? id = some ⟨count, .dictionary entries⟩ := by
  unfold entries? at known
  split at known
  next own =>
    split at known
    next count own_entries found =>
      obtain ⟨rfl, rfl⟩ := Prod.mk.inj (Option.some.inj known)
      exact ⟨rfl, count, found⟩
    · cases known
  · cases known

theorem readTypeId_of_live (live : ∀ id ∈ shape.targets [dictionary], (heap.node? id).isSome) :
    readTypeId heap dictionary = heap := by
  cases dictionary with
  | null => rfl
  | static object => rfl
  | object id => exact if_pos (live id mem_cons_self)

theorem lt_length_of_findIndex (found : vtfDictionaryFindIndex entries key = some index) :
    index < entries.length := by
  obtain ⟨inside, -⟩ := findIdx?_eq_some_iff_getElem.mp found
  exact inside

theorem count_slots_cons (entry : CFTypeRef × CFTypeRef)
    (entries : List (CFTypeRef × CFTypeRef)) (other : Nat) :
    (shape.targets (CFBody.slots (.dictionary (entry :: entries)))).count other =
      (shape.targets [entry.1]).count other + (shape.targets [entry.2]).count other +
        (shape.targets (CFBody.slots (.dictionary entries))).count other := by
  rw [← count_targets_perm (entries_perm (entry :: entries)),
    ← count_targets_perm (entries_perm entries), flatMap_cons,
    cons_append, singleton_append, targets_cons, count_append,
    targets_cons entry.2, count_append]
  omega

theorem count_storeValue (inside : index < entries.length) (value : CFTypeRef) (other : Nat) :
    (shape.targets (CFBody.slots (.dictionary entries))).count other +
        (shape.targets [value]).count other =
      (shape.targets (CFBody.slots
        (CFBody.storeValue index value (.dictionary entries)))).count other +
        (shape.targets [valueAt entries index]).count other := by
  induction entries generalizing index with
  | nil => cases inside
  | cons entry entries induction =>
    cases index with
    | zero =>
      have stored : CFBody.storeValue 0 value (.dictionary (entry :: entries)) =
            .dictionary ((entry.1, value) :: entries) := rfl
      have old : valueAt (entry :: entries) 0 = entry.2 := rfl
      rw [stored, old, count_slots_cons, count_slots_cons]
      dsimp only
      omega
    | succ index =>
      have rest := induction (Nat.lt_of_succ_lt_succ inside)
      have stored : CFBody.storeValue (index + 1) value
          (.dictionary (entry :: entries)) = .dictionary (entry :: entries.modify index
              fun entry => (entry.1, value)) := rfl
      have old : valueAt (entry :: entries) (index + 1) =
          valueAt entries index := rfl
      rw [stored, old, count_slots_cons, count_slots_cons]
      rw [CFBody.storeValue] at rest
      omega

theorem valueAt_modify (inside : index < entries.length) :
    valueAt (entries.modify index fun entry => (entry.1, value)) index =
      value := by
  unfold valueAt
  rw [getElem?_modify_eq, getElem?_eq_getElem inside]
  rfl

theorem storeValue_comp (first second : CFTypeRef) :
    CFBody.storeValue index second ∘ CFBody.storeValue index first =
      CFBody.storeValue index second := by
  funext body
  cases body with
  | dictionary entries =>
    dsimp only [Function.comp_apply, CFBody.storeValue]
    rw [modify_modify_eq]
    rfl
  | _ => rfl

theorem mem_targets_valueAt (inside : index < entries.length) {target : Nat}
    (listed : target ∈ shape.targets [valueAt entries index]) :
    target ∈ shape.targets (CFBody.slots (.dictionary entries)) := by
  have exchanged := count_storeValue inside .null target
  have nothing : shape.targets [CFTypeRef.null] = [] := targets_none rfl
  have one := count_pos_iff.mpr listed
  rw [nothing, count_nil] at exchanged
  apply count_pos_iff.mp
  omega

theorem count_pushEntry (other : Nat) :
    (shape.targets (CFBody.slots (CFBody.pushEntry key value (.dictionary entries)))).count other =
      (shape.targets (CFBody.slots (.dictionary entries))).count other +
        (shape.targets [key, value]).count other := by
  rw [CFBody.pushEntry]
  induction entries with
  | nil => exact (Nat.zero_add _).symm
  | cons entry entries induction =>
    rw [cons_append, count_slots_cons, count_slots_cons, induction]
    omega

/-- A new entry takes over the references that were retained for it. -/
theorem kept_pushEntry (settled : Settled shape client.heap client.owned)
    (known : entries? client.heap dictionary = some (id, entries))
    (live : ∀ id ∈ shape.targets [key, value], (client.heap.node? id).isSome)
    (room : ∀ id ∈ shape.targets [key, value], held shape client.heap id +
      client.owned.count id + (shape.targets [key, value]).count id < 2 ^ 31) :
    Kept client.heap { client with
      heap := (cfRetain (cfRetain client.heap key) value).modifyBody id
        (.pushEntry key value) } := by
  obtain ⟨-, count, found⟩ := node?_of_entries? known
  obtain ⟨retained, same⟩ := settled.retainAll live room
  obtain ⟨node, there, body⟩ := same.symm.earlier id _ found
  refine ⟨?_, (touched_modifyBody there).trans same.touched⟩
  apply retained.modifyBody (shape.targets [key, value]) [] there
  intro other
  rw [← body]
  exact (count_pushEntry other).symm

/-- What the dictionary looks like while the replaced value is released. -/
theorem settled_emptied (settled : Settled shape client.heap client.owned)
    (known : entries? client.heap dictionary = some (id, entries))
    (inside : index < entries.length) :
    Settled shape (client.heap.modifyBody id (.storeValue index .null))
      (shape.targets [valueAt entries index] ++ client.owned) := by
  obtain ⟨-, count, found⟩ := node?_of_entries? known
  have nothing : shape.targets [CFTypeRef.null] = [] := targets_none rfl
  apply settled.modifyBody [] (shape.targets [valueAt entries index]) found
  intro other
  have exchanged := count_storeValue inside .null other
  rw [nothing] at exchanged
  exact exchanged

theorem acyclic_emptied (acyclic : Acyclic shape client.heap)
    (known : entries? client.heap dictionary = some (id, entries))
    (inside : index < entries.length) :
    Acyclic shape (client.heap.modifyBody id (.storeValue index .null)) := by
  obtain ⟨rank, ranked⟩ := acyclic
  obtain ⟨-, count, found⟩ := node?_of_entries? known
  refine ⟨rank, ?_⟩
  intro other node there target listed
  rw [node?_modifyBody found] at there
  split at there
  next own =>
    obtain rfl := Option.some.inj there
    rw [own]
    apply ranked id _ found
    have exchanged := count_storeValue inside .null target
    have one := count_pos_iff.mpr listed
    have nothing : shape.targets [CFTypeRef.null] = [] := targets_none rfl
    rw [nothing, count_nil] at exchanged
    apply count_pos_iff.mp
    exact Nat.lt_of_lt_of_le one (by
      rw [Nat.add_zero] at exchanged
      exact exchanged ▸ Nat.le_add_right _ _)
  · exact ranked other node there target listed

/-- Replacing a value is as good as emptying the slot first. -/
theorem setValue_eq_emptied (acyclic : Acyclic shape client.heap)
    (known : entries? client.heap dictionary = some (id, entries))
    (replaced : vtfDictionaryFindIndex entries key = some index) :
    ∃ node, ((cfRelease (client.heap.modifyBody id (.storeValue index .null))
        (valueAt entries index)).node? id = some node ∧
      node.body = .storeValue index .null (.dictionary entries)) ∧
    cfDictionarySetValue client.heap dictionary key value = (cfRetain (cfRelease
        (client.heap.modifyBody id (.storeValue index .null))
          (valueAt entries index)) value).modifyBody id (.storeValue index value) := by
  have inside := lt_length_of_findIndex replaced
  obtain ⟨rank, ranked⟩ := acyclic
  obtain ⟨-, count, found⟩ := node?_of_entries? known
  have spared : Spares id client.heap fun heap =>
      release shape heap (valueAt entries index) := by
    apply spares_release ranked
    intro target listed
    exact ranked id _ found target (mem_targets_valueAt inside listed)
  have still : (cfRelease client.heap (valueAt entries index)).node? id =
      some ⟨count, .dictionary entries⟩ := spared.node.trans found
  have emptied : cfRelease (client.heap.modifyBody id (.storeValue index .null))
        (valueAt entries index) =
      (cfRelease client.heap (valueAt entries index)).modifyBody id (.storeValue index .null) := by
    rw [modifyBody_eq found, modifyBody_eq still]
    exact spared.blind _
  refine ⟨⟨count, .storeValue index .null (.dictionary entries)⟩, ⟨?_, rfl⟩, ?_⟩
  · rw [emptied, node?_modifyBody still, if_pos rfl]
  · have retained : ∃ node, (retain shape (cfRelease client.heap
        (valueAt entries index)) value).node? id = some node := by
      have body : ((retain shape (cfRelease client.heap
          (valueAt entries index)) value).node? id).map Node.body = _ :=
        bodies_retain value id
      rw [still, Option.map_some] at body
      obtain ⟨node, there, -⟩ := Option.map_eq_some_iff.mp body
      exact ⟨node, there⟩
    obtain ⟨node, there⟩ := retained
    rw [emptied, cfRetain, retain_modifyBody still, modifyBody_modifyBody there, storeValue_comp]
    simp only [cfDictionarySetValue, known, replaced]
    rfl

/-- When the new value is still there after the release, it takes over the
slot. -/
theorem kept_replaced (settled : Settled shape client.heap client.owned)
    (acyclic : Acyclic shape client.heap)
    (known : entries? client.heap dictionary = some (id, entries))
    (replaced : vtfDictionaryFindIndex entries key = some index)
    (room : ∀ id ∈ shape.targets [value],
      held shape client.heap id + client.owned.count id + 1 < 2 ^ 31)
    (live : ∀ target ∈ shape.targets [value],
      ((cfRelease (client.heap.modifyBody id (.storeValue index .null))
        (valueAt entries index)).node? target).isSome) :
    Kept client.heap { client with
      heap := cfDictionarySetValue client.heap dictionary key value } := by
  have inside := lt_length_of_findIndex replaced
  have emptied := settled_emptied settled known inside
  obtain ⟨node, ⟨there, body⟩, same⟩ := setValue_eq_emptied acyclic known replaced
  obtain ⟨-, count, found⟩ := node?_of_entries? known
  obtain ⟨released, drops⟩ := emptied.release
  have few : ∀ target ∈ shape.targets [value], held shape (release shape (client.heap.modifyBody id
        (.storeValue index .null)) (valueAt entries index)) target +
        client.owned.count target + 1 < 2 ^ 31 := by
    intro target listed
    have before := room target listed
    have dropped := emptied.held_le drops.length drops.bodies target
    have counts := settled.counts target
    have emptied_counts := emptied.counts target
    rw [countOf_modifyBody found, count_append] at emptied_counts
    omega
  have retained := released.retain live few
  have kept_bodies := sameBodies_retain live
  obtain ⟨later_node, later_found, later_body⟩ :=
    kept_bodies.symm.earlier id node there
  constructor
  · dsimp only
    rw [same]
    apply retained.modifyBody (shape.targets [value]) [] later_found
    intro other
    have length : index < (entries.modify index fun entry => (entry.1, CFTypeRef.null)).length := by
      rwa [length_modify]
    have exchanged := count_storeValue length value other
    have nothing : shape.targets [CFTypeRef.null] = [] := targets_none rfl
    rw [valueAt_modify inside, nothing] at exchanged
    rw [← later_body, body]
    exact exchanged
  · dsimp only
    rw [same]
    exact (touched_modifyBody later_found).trans (kept_bodies.touched.trans
      (drops.touched.trans (touched_modifyBody found)))

/-- When the release has finalized the new value, it is used after that. -/
theorem touched_replaced (acyclic : Acyclic shape client.heap)
    (known : entries? client.heap dictionary = some (id, entries))
    (replaced : vtfDictionaryFindIndex entries key = some index)
    {target : Nat} (listed : target ∈ shape.targets [value])
    (gone : (cfRelease (client.heap.modifyBody id (.storeValue index .null))
      (valueAt entries index)).node? target = none) :
    (cfDictionarySetValue client.heap dictionary key value).touched ≠ [] := by
  obtain ⟨node, ⟨there, -⟩, same⟩ := setValue_eq_emptied acyclic known replaced
  have points : shape.target value = some target := by
    cases found : shape.target value with
    | none =>
      rw [targets_none found] at listed
      cases listed
    | some other =>
      rw [targets_some found] at listed
      rw [mem_singleton.mp listed]
  have still : ((cfRelease (client.heap.modifyBody id
      (.storeValue index .null)) (valueAt entries index)).touch target).node?
        id = some node := there
  rw [same, cfRetain, retain_freed points gone, touched_modifyBody still]
  exact append_ne_nil_of_right_ne_nil _ (cons_ne_nil _ _)

end Dictionaries

/-! ## One call -/

theorem kept_created (settled : Settled shape client.heap client.owned)
    {body : CFBody} (leaf : body.slots = []) :
    Kept client.heap (client.adopt (vtfCfObjectInit client.heap body)) := by
  apply kept_init rfl
  rw [leaf]
  exact settled

theorem kept_release {value : CFTypeRef} (settled : Settled shape client.heap client.owned)
    (owns : ∀ id ∈ shape.targets [value], id ∈ client.owned) :
    Kept client.heap (client.step (.release value)) := by
  have given : Settled shape client.heap (shape.targets [value] ++
      client.owned.diff (shape.targets [value])) := by
    apply settled.recount
    intro id
    rw [count_append]
    cases target : shape.target value with
    | none => 
        rw [targets_none target]
        exact (Nat.zero_add _).symm
    | some other =>
      rw [targets_some target] at owns ⊢
      have perm := perm_cons_erase (owns other mem_cons_self)
      rw [perm.count_eq, diff_cons, diff_nil]
      rw [← count_append]
      rfl
  obtain ⟨released, drops⟩ := given.release
  exact ⟨released, drops.touched⟩

theorem length_elements (pointer : Pointer) (count : Int64) :
    (pointer.elements count).length = count.toInt.toNat := by
  rw [Pointer.elements, length_map, length_range]

theorem slots_zip (keys values : Pointer) (count : Int64) :
    CFBody.slots (.dictionary ((keys.elements count).zip (values.elements count))) =
        keys.elements count ++ values.elements count := by
  have same : (keys.elements count).length = (values.elements count).length := by
    rw [length_elements, length_elements]
  rw [CFBody.slots, map_fst_zip (Nat.le_of_eq same), map_snd_zip (Nat.le_of_eq same.symm)]

theorem room_one {value : CFTypeRef}
    (room : ∀ id ∈ shape.targets [value], held shape client.heap id +
      client.owned.count id + (shape.targets [value]).count id < 2 ^ 31) :
    ∀ id ∈ shape.targets [value],
      held shape client.heap id + client.owned.count id + 1 < 2 ^ 31 := by
  intro id listed
  have small := room id listed
  have one := count_pos_iff.mpr listed
  omega

section SetValue

variable {dictionary key value : CFTypeRef} {id index : Nat}
variable {entries : List (CFTypeRef × CFTypeRef)}

/-- After the release the new value is there exactly if something else leads
to it. -/
theorem present_emptied_iff (settled : Settled shape client.heap client.owned)
    (acyclic : Acyclic shape client.heap)
    (known : entries? client.heap dictionary = some (id, entries))
    (replaced : vtfDictionaryFindIndex entries key = some index)
    {target : Nat} :
    ((cfRelease (client.heap.modifyBody id (.storeValue index .null))
        (valueAt entries index)).node? target).isSome ↔
      Anchored shape (client.heap.modifyBody id (.storeValue index .null))
        client.owned target := by
  have inside := lt_length_of_findIndex replaced
  exact (settled_emptied settled known inside).release_present_iff
    (acyclic_emptied acyclic known inside)

theorem step_setValue_kept (settled : Settled shape client.heap client.owned)
    (proper : Proper client (.dictionarySetValue dictionary key value))
    (keeps : KeepsValue client (.dictionarySetValue dictionary key value)) :
    Kept client.heap (client.step (.dictionarySetValue dictionary key value)) := by
  obtain ⟨live, -, room, acyclic⟩ := proper
  rw [CFCall.passed, targets_cons] at live
  cases known : entries? client.heap dictionary with
  | none =>
    rw [Client.step, cfDictionarySetValue, known]
    dsimp only
    rw [readTypeId_of_live fun id listed =>
      live id (mem_append_left _ listed)]
    exact ⟨settled, rfl⟩
  | some found =>
    obtain ⟨id, entries⟩ := found
    cases replaced : vtfDictionaryFindIndex entries key with
    | none =>
      simp only [CFCall.retained, known, replaced] at room
      simp only [Client.step, cfDictionarySetValue, known, replaced]
      exact kept_pushEntry settled known (fun id listed => live id (mem_append_right _ listed)) room
    | some index =>
      simp only [CFCall.retained, known, replaced] at room
      apply kept_replaced settled acyclic known replaced (room_one room)
      intro target listed
      rw [present_emptied_iff settled acyclic known replaced]
      exact keeps id entries index known replaced target listed

/-- Without another way to the new value a replacing call uses it after it has
been finalized. -/
theorem keepsValue_of_untouched (settled : Settled shape client.heap client.owned)
    (acyclic : Acyclic shape client.heap)
    (untouched : (client.step (.dictionarySetValue dictionary key value)).heap.touched = []) :
    KeepsValue client (.dictionarySetValue dictionary key value) := by
  intro id entries index known replaced target listed
  rw [← present_emptied_iff settled acyclic known replaced]
  cases present : (cfRelease (client.heap.modifyBody id
      (.storeValue index .null)) (valueAt entries index)).node? target with
  | some node => rfl
  | none =>
    exact absurd untouched (touched_replaced acyclic known replaced listed present)

end SetValue

theorem step_kept (settled : Settled shape client.heap client.owned)
    (proper : Proper client call) (keeps : KeepsValue client call) :
    Kept client.heap (client.step call) := by
  obtain ⟨live, owns, room, acyclic⟩ := proper
  cases call with
  | stringCreateStatic bytes =>
    rw [Client.step, vtfCFStringCreateStatic]
    split
    · exact kept_created settled rfl
    · exact kept_null settled
  | numberCreate numberType valuePtr =>
    rw [Client.step, cfNumberCreate]
    split
    · exact kept_null settled
    split
    · exact kept_created settled rfl
    · exact kept_null settled
  | dataCreate length =>
    rw [Client.step, cfDataCreate]
    split
    · exact kept_null settled
    · exact kept_created settled rfl
  | retain value =>
    exact ⟨settled.retain live (room_one room), (sameBodies_retain live).touched⟩
  | release value => exact kept_release settled owns
  | arrayCreate values numValues =>
    rw [Client.step, cfArrayCreate]
    split
    · exact kept_null settled
    · exact kept_container settled (.refl _) live room
  | dictionaryCreate keys values numValues =>
    rw [Client.step, cfDictionaryCreate]
    split
    · exact kept_null settled
    · have slots := slots_zip keys values numValues
      dsimp only
      rw [foldl_retainEntry]
      apply kept_container settled (entries_perm _)
      · rw [slots]
        exact live
      · rw [slots]
        exact room
  | dictionaryCreateMutable => exact kept_created settled rfl
  | dictionarySetValue dictionary key value =>
    exact step_setValue_kept settled ⟨live, owns, room, acyclic⟩ keeps
  | dictionaryCreateCopy dictionary =>
    cases known : entries? client.heap dictionary with
    | none =>
      rw [Client.step, cfDictionaryCreateCopy, known]
      dsimp only
      rw [readTypeId_of_live live]
      exact kept_null settled
    | some found =>
      obtain ⟨id, entries⟩ := found
      obtain ⟨-, count, there⟩ := node?_of_entries? known
      rw [CFCall.retained, known] at room
      rw [Client.step, cfDictionaryCreateCopy, known]
      dsimp only
      rw [← foldl_append]
      apply kept_container settled (.refl _) _ room
      intro other listed
      exact settled.present_of_slot there listed

/-- The accounting survives a call exactly if the call keeps its value. -/
theorem accounted_step_iff (accounted : Accounted client) (proper : Proper client call) :
    Accounted (client.step call) ↔ KeepsValue client call := by
  have settled := accounted.settled
  constructor
  · intro after
    cases call with
    | dictionarySetValue dictionary key value =>
      exact keepsValue_of_untouched settled proper.acyclic after.untouched
    | _ => trivial
  · intro keeps
    obtain ⟨still, touched⟩ := step_kept settled proper keeps
    exact accounted_of_settled still (touched.trans accounted.untouched)

/-! ## Whole runs -/

theorem accounted_fresh : Accounted Client.fresh :=
  accounted_of_settled Settled.empty rfl

/-- Along every run of a client that keeps to the rules, the accounting is
exact after each call if and only if each call that replaces a value in a
dictionary passes one that something else leads to. -/
theorem references_accounted_iff {calls : List CFCall}
    (proper : Execution.Obeys Client.step Proper .fresh calls) :
    (∀ before after, calls = before ++ after → Accounted (run Client.step .fresh before)) ↔
    Execution.Obeys Client.step KeepsValue .fresh calls :=
  invariant_iff_obeys (fun _ _ accounted allowed => accounted_step_iff accounted allowed)
    accounted_fresh proper

/-- A dictionary whose value is replaced by one the client owns. -/
def renewal : List CFCall :=
  [.dictionaryCreateMutable, .stringCreateStatic true, .numberCreate 3 true,
    .dictionarySetValue (.object 0) (.object 1) (.object 2),
    .release (.object 2), .numberCreate 3 true,
    .dictionarySetValue (.object 0) (.object 1) (.object 3),
    .release (.object 0)]

/-- The dictionary is above what it holds. -/
def dictionaryFirst (id : Nat) : Nat :=
  if id = 0 then 1 else 0

theorem renewal_accounted :
    (run Client.step .fresh renewal).heap.finalized = [2, 0] ∧
      Accounted (run Client.step .fresh renewal) := by
  have proper : Execution.Obeys Client.step Proper .fresh renewal := by
    refine ⟨⟨?_, ?_, ?_, dictionaryFirst, ?_⟩,
      ⟨?_, ?_, ?_, dictionaryFirst, ?_⟩, ⟨?_, ?_, ?_, dictionaryFirst, ?_⟩,
      ⟨?_, ?_, ?_, dictionaryFirst, ?_⟩, ⟨?_, ?_, ?_, dictionaryFirst, ?_⟩,
      ⟨?_, ?_, ?_, dictionaryFirst, ?_⟩, ⟨?_, ?_, ?_, dictionaryFirst, ?_⟩,
      ⟨?_, ?_, ?_, dictionaryFirst, ?_⟩, trivial⟩ <;> decide +kernel
  have kept : Execution.Obeys Client.step KeepsValue .fresh renewal := by
    refine ⟨trivial, trivial, trivial, ?_, trivial, trivial, ?_, trivial, trivial⟩
    · intro id entries index known replaced
      have empty : entries? (run Client.step .fresh
          (renewal.take 3)).heap (.object 0) = some (0, []) := by
        decide +kernel
      obtain ⟨rfl, rfl⟩ := Prod.mk.inj (Option.some.inj (empty.symm.trans known))
      cases replaced
    · intro id entries index _ _ target listed
      obtain rfl : target = 3 := mem_singleton.mp listed
      exact .outside 3 (by decide +kernel)
  refine ⟨by decide +kernel, ?_⟩
  exact (references_accounted_iff proper).mpr kept renewal [] rfl

/-- A value that only the dictionary holds is set again. -/
def resetting : List CFCall :=
  [.dictionaryCreateMutable, .stringCreateStatic true, .stringCreateStatic true,
    .dictionarySetValue (.object 0) (.object 1) (.object 2),
    .release (.object 2),
    .dictionarySetValue (.object 0) (.object 1) (.object 2)]

theorem resetting_touches_finalized :
    Execution.Obeys Client.step Proper .fresh resetting ∧
      (run Client.step .fresh resetting).heap.touched = [2] ∧
      ¬ Accounted (run Client.step .fresh resetting) := by
  have touched : (run Client.step .fresh resetting).heap.touched = [2] := by
    decide +kernel
  refine ⟨?_, touched, ?_⟩
  · refine ⟨⟨?_, ?_, ?_, dictionaryFirst, ?_⟩,
      ⟨?_, ?_, ?_, dictionaryFirst, ?_⟩, ⟨?_, ?_, ?_, dictionaryFirst, ?_⟩,
      ⟨?_, ?_, ?_, dictionaryFirst, ?_⟩, ⟨?_, ?_, ?_, dictionaryFirst, ?_⟩,
      ⟨?_, ?_, ?_, dictionaryFirst, ?_⟩, trivial⟩ <;> decide +kernel
  · intro accounted
    rw [accounted.untouched] at touched
    cases touched

end VtFerry.CoreFoundation
