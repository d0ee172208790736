import VtFerry.Worker.LeaseHistory
import VtFerry.Worker.Mock.Leases
import VtFerry.Worker.PoolFailures

/-!
# Leases are single-use and exclusive

In both backends, over every run: no lease is given out twice, the live leases
of a pool have distinct slots of it, and a request that names an ended lease is
refused and changes nothing.  For the VideoToolbox backend the run is one of
the worker process, in which the encoder calls back at most once for a frame it
accepted and never for another.
-/

namespace VtFerry

open LeaseTable LittleEndian

/-! ## Runs of the mock backend -/

structure MockRun where
  backend : MockBackend
  history : History

namespace MockRun

def starting (maxOutputCount maxOutputBytes : Nat) : MockRun where
  backend := .resetFromEnv maxOutputCount maxOutputBytes
  history := .empty

def step (run : MockRun) (request : MockBackend.MockRequest) : MockRun where
  backend := (run.backend.serve request).backend
  history := run.history.record (run.backend.serve request).leases (run.backend.endsLease request)

structure Traced (run : MockRun) : Prop where
  kept : run.backend.WellKept
  sound : History.Sound run.backend.leaseTable run.history

theorem Traced.step {run : MockRun} (traced : run.Traced)
    (request : MockBackend.MockRequest) : (run.step request).Traced := by
  have advances := MockBackend.serve_advances traced.kept request
  exact ⟨advances.kept, traced.sound.move advances.move⟩

theorem run_traced (maxOutputCount maxOutputBytes : Nat) (requests : List MockBackend.MockRequest) :
    (Execution.run step (starting maxOutputCount maxOutputBytes) requests).Traced := by
  refine Execution.invariant_of_step (fun _ request traced =>
    traced.step request) ⟨?_, History.Sound.empty _⟩ requests
  exact MockBackend.resetFromEnv_wellKept maxOutputCount maxOutputBytes

end MockRun

/-! ## The result -/

/-- No lease was given out twice.  Every live lease has a slot of its pool, and
the live leases of a pool have distinct slots, no more than the pool has. -/
structure LeasesExclusive (table : Table) (capacity : Nat → Nat) (history : History) : Prop where
  once : history.granted.Nodup
  slotted : ∀ lease ∈ history.live, ∃ pool slot,
    table.slotIn pool lease = some slot ∧ slot < capacity pool
  distinct : ∀ pool, (table.liveSlots history pool).Nodup
  enough : ∀ pool, (table.liveSlots history pool).length ≤ capacity pool

theorem leasesExclusive_of_sound {table : Table} {capacity : Nat → Nat}
    {history : History} (slotted : table.Slotted capacity)
    (sound : History.Sound table history) :
    LeasesExclusive table capacity history where
  once := sound.once
  slotted := by
    intro lease live
    obtain ⟨given, still⟩ := History.mem_live_iff.mp live
    obtain ⟨cell, found, -, held⟩ := sound.live lease given still
    exact ⟨cell.group, cell.slot, Table.slotIn_eq_some_iff.mpr ⟨cell, found, rfl, rfl⟩,
      slotted.slot_lt lease.id cell found held⟩
  distinct := slotted.liveSlots_nodup sound
  enough := slotted.length_liveSlots_le sound

/-- Leases are single-use and exclusive in both backends. -/
theorem leases_single_use_and_exclusive :
    (∀ maxOutputCount maxOutputBytes requests,
      let run := Execution.run MockRun.step (.starting maxOutputCount maxOutputBytes) requests
      LeasesExclusive run.backend.leaseTable run.backend.capacityOf run.history ∧
      ∀ lease ∈ run.history.ended, ∀ request : MockBackend.MockRequest,
        request.request.namedLease = some lease →
        ∃ status, status ≠ Status.ok ∧ run.backend.serve request = run.backend.refuse status) ∧
    (∀ surfaces id events,
      let run := Execution.run (LeaseRun.step id) (.starting surfaces) events
      run.history.granted.Nodup ∧
      ∀ connection, run.process.connections.lookup id = some connection →
        LeasesExclusive connection.backend.leaseTable connection.backend.capacityOf run.history ∧
        ∀ lease ∈ run.history.ended, ∀ request : Request,
          request.namedLease = some lease → ∀ host response,
          ∃ status, status ≠ Status.ok ∧
            connection.backend.dispatch host request response run.process.surfaces =
              .plain connection.backend run.process.surfaces status) := by
  refine ⟨?_, ?_⟩
  · intro maxOutputCount maxOutputBytes requests run
    have traced : run.Traced :=
      MockRun.run_traced maxOutputCount maxOutputBytes requests
    refine ⟨leasesExclusive_of_sound traced.kept.slotted traced.sound, ?_⟩
    intro lease ended request names
    exact MockBackend.serve_refused (traced.sound.ended lease ended).2 names
  · intro surfaces id events run
    have traced : run.Traced id := LeaseRun.run_traced surfaces id events
    refine ⟨traced.once, ?_⟩
    intro connection isOpen
    have sound := traced.sound connection isOpen
    have kept := traced.kept.connections id connection isOpen
    refine ⟨leasesExclusive_of_sound kept.backend.slotted sound, ?_⟩
    intro lease ended request names host response
    exact VtRealBackend.dispatch_refused (sound.ended lease ended).2 names
      host response run.process.surfaces

def allocRequest (poolId : UInt64) : Request where
  opcode := Opcode.allocBuffer.code
  payload := u64Bytes poolId

def recycleRequest (poolId bufferId generation : UInt64) : Request where
  opcode := Opcode.recycleBuffer.code
  payload := u64Bytes poolId ++ u64Bytes bufferId ++ u64Bytes generation

end VtFerry
