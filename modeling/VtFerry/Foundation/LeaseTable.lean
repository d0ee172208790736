import Mathlib.Data.List.Nodup
import Mathlib.Data.List.Perm.Subperm

/-!
# Leases with generations

A table hands out numbered cells.  A cell belongs to a group, has a slot in
it, and carries a generation that grows with every lease; a lease is an id and
a generation.  `Move` says what one step of a table may do: a new lease was
never given out before, no lease comes back at its own generation, and a
current lease stops being current only when it ends.  From that follows, over
a whole history, that every lease is given out once, that an ended lease stays
ended, and that the leases which have not ended are current; if current leases
of a group occupy distinct slots, there are no more of them than slots.
-/

namespace LeaseTable

open List

structure Cell where
  group : Nat
  slot : Nat
  generation : Nat
  held : Bool
  deriving DecidableEq, Repr

/-- The cells by id; ids from `next` on have not been used. -/
structure Table where
  next : Nat
  cell : Nat → Option Cell

structure Lease where
  id : Nat
  generation : Nat
  deriving DecidableEq, Repr

namespace Table

def Current (table : Table) (lease : Lease) : Prop :=
  ∃ cell, table.cell lease.id = some cell ∧ cell.generation = lease.generation ∧ cell.held = true

/-- The lease may have been given out; it will not be given out again. -/
def Past (table : Table) (lease : Lease) : Prop :=
  lease.id < table.next ∧ ∀ cell, table.cell lease.id = some cell →
      lease.generation ≤ cell.generation

def Numbered (table : Table) : Prop :=
  ∀ id cell, table.cell id = some cell → id < table.next

/-- Used ids are never filled again, generations only grow, and a cell that is
not held is not held again at the same generation. -/
structure Evolves (before after : Table) : Prop where
  next_le : before.next ≤ after.next
  kept : ∀ id cell, id < before.next → after.cell id = some cell →
    ∃ earlier, before.cell id = some earlier ∧ earlier.generation ≤ cell.generation ∧
      (cell.generation = earlier.generation → cell.held = true → earlier.held = true)

theorem Current.past {table : Table} {lease : Lease}
    (current : table.Current lease) (numbered : table.Numbered) :
    table.Past lease := by
  obtain ⟨cell, found, generation, -⟩ := current
  refine ⟨numbered lease.id cell found, ?_⟩
  intro other found_other
  obtain rfl : cell = other := by simpa [found] using found_other
  exact Nat.le_of_eq generation.symm

namespace Evolves

variable {before after : Table} {lease : Lease}

theorem past (evolves : Evolves before after) (past : before.Past lease) :
    after.Past lease := by
  obtain ⟨used, bound⟩ := past
  refine ⟨Nat.lt_of_lt_of_le used evolves.next_le, ?_⟩
  intro cell found
  obtain ⟨earlier, was, grown, -⟩ := evolves.kept lease.id cell used found
  exact Nat.le_trans (bound earlier was) grown

/-- A past lease that is not current never becomes current. -/
theorem current_of_past (evolves : Evolves before after)
    (past : before.Past lease) (current : after.Current lease) :
    before.Current lease := by
  obtain ⟨used, bound⟩ := past
  obtain ⟨cell, found, generation, held⟩ := current
  obtain ⟨earlier, was, grown, kept⟩ := evolves.kept lease.id cell used found
  have same : cell.generation = earlier.generation := by
    have := bound earlier was
    omega
  exact ⟨earlier, was, same.symm.trans generation, kept same held⟩

end Evolves

/-- One step of a table, with the leases it gives out and those it ends. -/
structure Move (before after : Table) (granted : List Lease) (ends : Lease → Bool) : Prop where
  evolves : Evolves before after
  numbered : after.Numbered
  distinct : granted.Nodup
  fresh : ∀ lease ∈ granted, ¬ before.Past lease ∧ after.Current lease
  ended : ∀ lease, before.Past lease → ends lease = true → ¬ after.Current lease
  covered : ∀ lease, before.Current lease → ¬ after.Current lease → ends lease = true

namespace Move

variable {before after : Table} {granted : List Lease} {ends : Lease → Bool}

/-- The used cells stay as they are; unused ids may be filled. -/
theorem extend (numbered : before.Numbered) (later : after.Numbered)
    (next_le : before.next ≤ after.next)
    (same : ∀ id, id < before.next → after.cell id = before.cell id)
    (quiet : ∀ lease, ends lease = false) : Move before after [] ends where
  evolves :=
    { next_le := next_le
      kept := fun id cell used found =>
        ⟨cell, same id used ▸ found, Nat.le_refl _, fun _ held => held⟩ }
  numbered := later
  distinct := nodup_nil
  fresh _ none := absurd none not_mem_nil
  ended lease _ ends := absurd ends (by simp [quiet lease])
  covered lease current gone := by
    obtain ⟨cell, found, rest⟩ := current
    have used := numbered lease.id cell found
    exact absurd ⟨cell, (same lease.id used).trans found, rest⟩ gone

/-- Cells may be dropped or let go; nothing is given out. -/
theorem shrink (numbered : before.Numbered) (next_eq : after.next = before.next)
    (kept : ∀ id cell, after.cell id = some cell →
      ∃ earlier, before.cell id = some earlier ∧ cell.generation = earlier.generation ∧
        (cell.held = true → earlier.held = true))
    (ended : ∀ lease, before.Past lease → ends lease = true → ¬ after.Current lease)
    (covered : ∀ lease, before.Current lease → ¬ after.Current lease →
      ends lease = true) : Move before after [] ends where
  evolves :=
    { next_le := Nat.le_of_eq next_eq.symm
      kept := fun id cell _ found => by
        obtain ⟨earlier, was, generation, held⟩ := kept id cell found
        exact ⟨earlier, was, Nat.le_of_eq generation.symm, fun _ => held⟩ }
  numbered id cell found := by
    obtain ⟨earlier, was, -⟩ := kept id cell found
    exact next_eq.symm ▸ numbered id earlier was
  distinct := nodup_nil
  fresh _ none := absurd none not_mem_nil
  ended := ended
  covered := covered

/-- The lease of cell `id` is given back. -/
theorem letGo {id : Nat} {cell : Cell} (numbered : before.Numbered)
    (next_eq : after.next = before.next) (found : before.cell id = some cell)
    (written : after.cell = Function.update before.cell id (some { cell with held := false }))
    (exactly : ∀ lease, ends lease = true ↔ lease = ⟨id, cell.generation⟩) :
    Move before after [] ends := by
  refine shrink numbered next_eq ?_ ?_ ?_
  · intro other later at_other
    rw [written] at at_other
    by_cases same : other = id
    · rw [same, Function.update_self] at at_other
      obtain rfl := Option.some.inj at_other
      exact ⟨cell, same ▸ found, rfl, nofun⟩
    · rw [Function.update_of_ne same] at at_other
      exact ⟨later, at_other, rfl, fun held => held⟩
  · rintro lease - ended ⟨later, at_id, -, held⟩
    rw [written, (exactly lease).mp ended, Function.update_self] at at_id
    obtain rfl := Option.some.inj at_id
    cases held
  · rintro lease ⟨earlier, was, generation, held⟩ gone
    by_cases same : lease.id = id
    · obtain rfl := Option.some.inj (found.symm.trans (same ▸ was))
      rw [exactly, generation, ← same]
    · refine absurd ⟨earlier, ?_, generation, held⟩ gone
      rwa [written, Function.update_of_ne same]

/-- The cells of some groups are dropped. -/
theorem dropGroups (groups : List Nat) (numbered : before.Numbered)
    (next_eq : after.next = before.next)
    (dropped : ∀ id, after.cell id = (before.cell id).filter fun cell => cell.group ∉ groups)
    (exactly : ∀ lease, ends lease = true ↔
      ∃ cell, before.cell lease.id = some cell ∧ cell.group ∈ groups) :
    Move before after [] ends := by
  refine shrink numbered next_eq ?_ ?_ ?_
  · intro id cell found
    rw [dropped] at found
    exact ⟨cell, (Option.filter_eq_some_iff.mp found).1, rfl, fun held => held⟩
  · rintro lease - ended ⟨later, found, -⟩
    obtain ⟨cell, was, owned⟩ := (exactly lease).mp ended
    rw [dropped, was, Option.filter_some, if_neg (by simpa using owned)] at found
    cases found
  · rintro lease ⟨cell, was, rest⟩ gone
    refine (exactly lease).mpr ⟨cell, was, ?_⟩
    by_contra left
    refine gone ⟨cell, ?_, rest⟩
    rw [dropped, was, Option.filter_some, if_pos (by simpa using left)]

/-- A lease is given out on cell `id`, which was free or unused, under a
generation the cell never had. -/
theorem grant {id : Nat} {cell : Cell} (numbered : before.Numbered)
    (next_le : before.next ≤ after.next) (used : id < after.next)
    (written : after.cell = Function.update before.cell id (some cell))
    (held : cell.held = true)
    (newer : ∀ earlier, before.cell id = some earlier →
      earlier.generation < cell.generation ∧ earlier.held = false)
    (unused : before.cell id = none → before.next ≤ id)
    (given : granted = [] ∨ granted = [⟨id, cell.generation⟩])
    (older : ∀ lease, ends lease = true → lease.id = id ∧ lease.generation < cell.generation) :
    Move before after granted ends := by
  have at_id : after.cell id = some cell := by
    rw [written, Function.update_self]
  have elsewhere : ∀ other, other ≠ id →
      after.cell other = before.cell other := fun other differs => by
    rw [written, Function.update_of_ne differs]
  refine ⟨⟨next_le, ?_⟩, ?_, ?_, ?_, ?_, ?_⟩
  · intro other found_cell before_used found
    by_cases same : other = id
    · subst same
      obtain rfl : cell = found_cell := by simpa [at_id] using found
      cases was : before.cell other with
      | none => exact absurd (unused was) (Nat.not_le_of_lt before_used)
      | some earlier =>
        have grown := (newer earlier was).1
        exact ⟨earlier, rfl, Nat.le_of_lt grown, fun equal => by omega⟩
    · rw [elsewhere other same] at found
      exact ⟨found_cell, found, Nat.le_refl _, fun _ held => held⟩
  · intro other found_cell found
    by_cases same : other = id
    · exact same ▸ used
    · rw [elsewhere other same] at found
      exact Nat.lt_of_lt_of_le (numbered other found_cell found) next_le
  · rcases given with rfl | rfl
    · exact nodup_nil
    · exact nodup_singleton _
  · intro lease new
    rcases given with rfl | rfl
    · exact absurd new not_mem_nil
    · obtain rfl := mem_singleton.mp new
      refine ⟨?_, cell, at_id, rfl, held⟩
      rintro ⟨past_used, bound⟩
      cases was : before.cell id with
      | none => exact absurd (unused was) (Nat.not_le_of_lt past_used)
      | some earlier =>
        have grown := (newer earlier was).1
        exact absurd (bound earlier was) (Nat.not_le_of_lt grown)
  · intro lease _ ends current
    obtain ⟨at_lease, earlier⟩ := older lease ends
    obtain ⟨found_cell, found, generation, -⟩ := current
    rw [at_lease, at_id] at found
    obtain rfl : cell = found_cell := by simpa using found
    omega
  · intro lease current gone
    obtain ⟨earlier, was, generation, was_held⟩ := current
    by_cases same : lease.id = id
    · have free := (newer earlier (same ▸ was)).2
      exact absurd was_held (by simp [free])
    · exact absurd ⟨earlier, (elsewhere lease.id same).trans was, generation, was_held⟩ gone

end Move

end Table

/-! ## Histories -/

/-- The leases given out so far, and those of them that have ended. -/
structure History where
  granted : List Lease
  ended : List Lease
  deriving DecidableEq, Repr

namespace History

def empty : History :=
  ⟨[], []⟩

/-- The history after a step: it ends leases given out earlier. -/
def record (history : History) (granted : List Lease) (ends : Lease → Bool) : History where
  granted := history.granted ++ granted
  ended := history.ended ++ history.granted.filter ends

def live (history : History) : List Lease :=
  history.granted.filter fun lease => lease ∉ history.ended

/-- What a table and its history agree on. -/
structure Sound (table : Table) (history : History) : Prop where
  once : history.granted.Nodup
  past : ∀ lease ∈ history.granted, table.Past lease
  ended : ∀ lease ∈ history.ended, lease ∈ history.granted ∧ ¬ table.Current lease
  live : ∀ lease ∈ history.granted, lease ∉ history.ended → table.Current lease

theorem Sound.empty (table : Table) : Sound table empty where
  once := nodup_nil
  past _ none := absurd none (not_mem_nil)
  ended _ none := absurd none (not_mem_nil)
  live _ none := absurd none (not_mem_nil)

theorem Sound.move {before after : Table} {history : History}
    {granted : List Lease} {ends : Lease → Bool}
    (sound : Sound before history)
    (move : Table.Move before after granted ends) :
    Sound after (history.record granted ends) where
  once := by
    refine sound.once.append move.distinct ?_
    intro lease old new
    exact (move.fresh lease new).1 (sound.past lease old)
  past := by
    intro lease found
    rcases mem_append.mp found with old | new
    · exact move.evolves.past (sound.past lease old)
    · exact (move.fresh lease new).2.past move.numbered
  ended := by
    intro lease found
    rcases mem_append.mp found with old | new
    · obtain ⟨given, gone⟩ := sound.ended lease old
      refine ⟨mem_append_left _ given, ?_⟩
      intro current
      exact gone (move.evolves.current_of_past (sound.past lease given) current)
    · obtain ⟨given, ends⟩ := mem_filter.mp new
      exact ⟨mem_append_left _ given, move.ended lease (sound.past lease given) ends⟩
  live := by
    intro lease found open_
    rcases mem_append.mp found with old | new
    · have before_open : lease ∉ history.ended := fun ended =>
        open_ (mem_append_left _ ended)
      by_contra gone
      have ends := move.covered lease (sound.live lease old before_open) gone
      exact open_ (mem_append_right _ (mem_filter.mpr ⟨old, ends⟩))
    · exact (move.fresh lease new).2

theorem mem_live_iff {history : History} {lease : Lease} :
    lease ∈ history.live ↔
      lease ∈ history.granted ∧ lease ∉ history.ended := by
  simp [live]

end History

/-! ## Slots -/

namespace Table

/-- Held cells have a slot of their group, and no two cells share one. -/
structure Slotted (table : Table) (capacity : Nat → Nat) : Prop where
  slot_lt : ∀ id cell, table.cell id = some cell → cell.held = true →
    cell.slot < capacity cell.group
  distinct : ∀ id other cell cellToo, table.cell id = some cell →
    table.cell other = some cellToo → cell.group = cellToo.group →
    cell.slot = cellToo.slot → id = other

/-- The slot a lease is for, if its cell is in the group. -/
def slotIn (table : Table) (group : Nat) (lease : Lease) : Option Nat :=
  (table.cell lease.id).bind fun cell =>
    if cell.group = group then some cell.slot else none

theorem slotIn_eq_some_iff {table : Table} {group slot : Nat} {lease : Lease} :
    table.slotIn group lease = some slot ↔
      ∃ cell, table.cell lease.id = some cell ∧ cell.group = group ∧ cell.slot = slot := by
  simp [slotIn, Option.bind_eq_some_iff]

variable {table : Table} {capacity : Nat → Nat} {history : History}

/-- Two live leases of a group for the same slot are the same lease. -/
theorem Slotted.slot_unique (slotted : table.Slotted capacity)
    (sound : History.Sound table history) {group slot : Nat}
    {lease other : Lease} (live : lease ∈ history.live)
    (live_other : other ∈ history.live)
    (at_slot : table.slotIn group lease = some slot)
    (other_slot : table.slotIn group other = some slot) : lease = other := by
  obtain ⟨cell, found, in_group, slot_eq⟩ := slotIn_eq_some_iff.mp at_slot
  obtain ⟨cellToo, found_too, group_too, slot_too⟩ :=
    slotIn_eq_some_iff.mp other_slot
  have same_id : lease.id = other.id :=
    slotted.distinct _ _ cell cellToo found found_too
      (in_group.trans group_too.symm) (slot_eq.trans slot_too.symm)
  obtain ⟨given, still⟩ := History.mem_live_iff.mp live
  obtain ⟨given_too, still_too⟩ := History.mem_live_iff.mp live_other
  obtain ⟨c, c_found, c_generation, -⟩ := sound.live lease given still
  obtain ⟨d, d_found, d_generation, -⟩ := sound.live other given_too still_too
  obtain rfl : c = d := by
    rw [same_id] at c_found
    simpa [c_found] using d_found
  cases lease
  cases other
  simp_all

def liveSlots (table : Table) (history : History) (group : Nat) : List Nat :=
  history.live.filterMap (table.slotIn group)

theorem Slotted.liveSlots_nodup (slotted : table.Slotted capacity)
    (sound : History.Sound table history) (group : Nat) :
    (table.liveSlots history group).Nodup := by
  have live_nodup : history.live.Nodup := sound.once.filter _
  have unique : ∀ lease ∈ history.live, ∀ other ∈ history.live, ∀ slot,
      table.slotIn group lease = some slot →
      table.slotIn group other = some slot → lease = other :=
    fun lease live other live_other slot at_slot other_slot =>
      slotted.slot_unique sound live live_other at_slot other_slot
  unfold liveSlots
  generalize history.live = leases at live_nodup unique
  induction leases with
  | nil => exact nodup_nil
  | cons lease leases induction =>
    obtain ⟨absent, rest⟩ := nodup_cons.mp live_nodup
    have tail := induction rest fun first live second live_second =>
      unique first (mem_cons_of_mem _ live) second (mem_cons_of_mem _ live_second)
    rw [filterMap_cons]
    split
    · exact tail
    next slot at_slot =>
      refine nodup_cons.mpr ⟨?_, tail⟩
      intro again
      obtain ⟨other, live_other, other_slot⟩ := mem_filterMap.mp again
      have same := unique lease (mem_cons_self ..) other
        (mem_cons_of_mem _ live_other) slot at_slot other_slot
      exact absent (same ▸ live_other)

theorem Slotted.length_liveSlots_le (slotted : table.Slotted capacity)
    (sound : History.Sound table history) (group : Nat) :
    (table.liveSlots history group).length ≤ capacity group := by
  have within : table.liveSlots history group ⊆ range (capacity group) := by
    intro slot found
    obtain ⟨lease, live, at_slot⟩ := mem_filterMap.mp found
    obtain ⟨cell, cell_found, in_group, slot_eq⟩ :=
      slotIn_eq_some_iff.mp at_slot
    obtain ⟨given, still⟩ := History.mem_live_iff.mp live
    obtain ⟨c, c_found, -, held⟩ := sound.live lease given still
    obtain rfl : cell = c := by simpa [cell_found] using c_found
    have bound := slotted.slot_lt lease.id cell cell_found held
    rw [in_group, slot_eq] at bound
    exact mem_range.mpr bound
  have nodup := slotted.liveSlots_nodup sound group
  have bounded := (subperm_of_subset nodup within).length_le
  rwa [length_range] at bounded

end Table

end LeaseTable
