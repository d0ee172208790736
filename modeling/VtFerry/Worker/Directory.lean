import Mathlib.Data.UInt
import Mathlib.Data.List.Basic

/-!
# The directory of launcher-registered surfaces

All backends of a worker process share one `IOSurfacePoolDirectory`.  Each
entry pairs a surface with its declared shape and a claimed flag;
`takeMatching` claims the first unclaimed entry of a shape and
`releaseEntry` gives an entry back.  Entries are never added or removed, so
an entry's index identifies it.
-/

namespace VtFerry

structure IOSurfacePoolSpec where
  width : UInt32
  height : UInt32
  pixelFormat : UInt32
  slotCount : UInt32
  iosurfaceId : UInt32
  deriving DecidableEq, Repr

/-- A surface with its spec; `surface` names the surface's memory region. -/
structure IOSurfacePool where
  spec : IOSurfacePoolSpec
  surface : Nat
  deriving DecidableEq, Repr

structure PoolShape where
  width : UInt32
  height : UInt32
  pixelFormat : UInt32
  deriving DecidableEq, Repr

structure DirectoryEntry where
  shape : PoolShape
  pool : IOSurfacePool
  claimed : Bool
  deriving DecidableEq, Repr

structure IOSurfacePoolDirectory where
  entries : List DirectoryEntry
  deriving DecidableEq, Repr

namespace IOSurfacePoolDirectory

def loadEntry (pool : IOSurfacePool) : DirectoryEntry where
  shape :=
    { width := pool.spec.width
      height := pool.spec.height
      pixelFormat := pool.spec.pixelFormat }
  pool := pool
  claimed := false

/-- `load`, given the pools whose surfaces the registry had. -/
def load (pools : List IOSurfacePool) : IOSurfacePoolDirectory where
  entries := pools.map loadEntry

def matchesShape (shape : PoolShape) (entry : DirectoryEntry) : Bool :=
  !entry.claimed && entry.shape == shape

/-- The entry `takeMatching` claims. -/
def firstMatch (directory : IOSurfacePoolDirectory) (shape : PoolShape) :
    Option Nat :=
  directory.entries.findIdx? (matchesShape shape)

def setClaimed (directory : IOSurfacePoolDirectory) (id : Nat)
    (claimed : Bool) : IOSurfacePoolDirectory where
  entries := directory.entries.modify id fun entry =>
    { entry with claimed := claimed }

def takeMatching (directory : IOSurfacePoolDirectory) (shape : PoolShape) :
    Option (Nat × IOSurfacePool) × IOSurfacePoolDirectory :=
  match directory.firstMatch shape with
  | none => (none, directory)
  | some id =>
    (directory.entries[id]?.map fun entry => (id, entry.pool), directory.setClaimed id true)

def releaseEntry (directory : IOSurfacePoolDirectory) (id : Nat) :
    IOSurfacePoolDirectory :=
  directory.setClaimed id false

/-- The release loops of `Drop` and `DESTROY_SESSION`, under one lock. -/
def releaseEntries (directory : IOSurfacePoolDirectory) (ids : List Nat) :
    IOSurfacePoolDirectory :=
  ids.foldl releaseEntry directory

def Claimed (directory : IOSurfacePoolDirectory) (id : Nat) : Prop :=
  ∃ entry, directory.entries[id]? = some entry ∧ entry.claimed = true

variable {directory : IOSurfacePoolDirectory} {id : Nat}

theorem not_claimed_of_unclaimed {entry : DirectoryEntry}
    (present : directory.entries[id]? = some entry)
    (unclaimed : entry.claimed = false) : ¬ directory.Claimed id := by
  rintro ⟨other, alsoPresent, claimed⟩
  rw [present] at alsoPresent
  cases alsoPresent
  rw [unclaimed] at claimed
  cases claimed

variable {other : Nat}

theorem claimed_setClaimed_true (present : id < directory.entries.length) :
    (directory.setClaimed id true).Claimed other ↔ other = id ∨ directory.Claimed other := by
  simp only [Claimed, setClaimed, List.getElem?_modify]
  by_cases same : id = other
  · subst same
    simp [present]
  · have reverse : other ≠ id := Ne.symm same
    cases directory.entries[other]? <;> simp [same, reverse]

theorem claimed_releaseEntry :
    (directory.releaseEntry id).Claimed other ↔
      other ≠ id ∧ directory.Claimed other := by
  simp only [Claimed, releaseEntry, setClaimed, List.getElem?_modify]
  by_cases same : id = other
  · subst same
    cases directory.entries[id]? <;> simp
  · have reverse : other ≠ id := Ne.symm same
    cases directory.entries[other]? <;> simp [same, reverse]

theorem claimed_releaseEntries {ids : List Nat} :
    (directory.releaseEntries ids).Claimed other ↔
      other ∉ ids ∧ directory.Claimed other := by
  induction ids generalizing directory with
  | nil => simp [releaseEntries]
  | cons id ids induction =>
    have step : ((directory.releaseEntry id).releaseEntries ids).Claimed other ↔
        other ∉ ids ∧ (directory.releaseEntry id).Claimed other :=
      induction
    rw [releaseEntries, List.foldl_cons, ← releaseEntries, step,
      claimed_releaseEntry, List.mem_cons]
    tauto

/-- What `takeMatching` can return: nothing, and the directory unchanged, or
an unclaimed entry of the shape, which it claims. -/
theorem takeMatching_cases (directory : IOSurfacePoolDirectory) (shape : PoolShape) :
    (directory.firstMatch shape = none ∧ directory.takeMatching shape = (none, directory)) ∨
    ∃ id entry, directory.firstMatch shape = some id ∧ directory.entries[id]? = some entry ∧
      entry.claimed = false ∧ entry.shape = shape ∧
      directory.takeMatching shape = (some (id, entry.pool), directory.setClaimed id true) := by
  cases found : directory.firstMatch shape with
  | none => exact Or.inl ⟨rfl, by simp [takeMatching, found]⟩
  | some id =>
    right
    obtain ⟨present, matched, _⟩ :=
      List.findIdx?_eq_some_iff_getElem.1 found
    have entryAt : directory.entries[id]? = some directory.entries[id] :=
      List.getElem?_eq_getElem present
    refine ⟨id, directory.entries[id], rfl, entryAt, ?_, ?_, ?_⟩
    · simpa [matchesShape] using (Bool.and_eq_true_iff.1 matched).1
    · simpa using (Bool.and_eq_true_iff.1 matched).2
    · simp [takeMatching, found, entryAt]

end IOSurfacePoolDirectory

end VtFerry
