import VtFerry.Worker.Directory
import VtFerry.Worker.Layout

/-!
# Packed pools of the broker

Before it starts the worker, the broker sizes one packed surface for every
pool of its configuration and has the host create it.  `allocatePools` returns
the surfaces and the specs the worker is told about.  Sizes are `u64`s whose
arithmetic wraps, except for the product that is checked.
-/

namespace VtFerry

namespace Broker

/-- The host's page size, a power of two. -/
structure PageSize where
  bits : Nat
  least : 6 ≤ bits
  most : bits < 32

def PageSize.bytes (page : PageSize) : Nat := 2 ^ page.bits

/-- `sysconf(_SC_PAGESIZE) as u64` -/
def PageSize.word (page : PageSize) : UInt64 := UInt64.ofNat page.bytes

/-- What the host does: its page size, and for the pool at each index the
surface id, if a surface is created, and the Mach port. -/
structure SurfaceHost where
  page : PageSize
  createSurface : Nat → Option UInt32
  createMachPort : Nat → UInt32

structure PoolSpec where
  guestPhysAddr : UInt64
  slotCount : UInt32
  width : UInt32
  height : UInt32
  pixelFormat : UInt32
  writable : Bool := true
  deriving DecidableEq, Repr

/-- An entry of `VT_FERRY_IOSURFACE_POOL_SPECS_JSON`. -/
structure WorkerIOSurfacePoolSpec where
  width : UInt32
  height : UInt32
  pixelFormat : UInt32
  slotCount : UInt32
  iosurfaceId : UInt32
  deriving DecidableEq, Repr

def WorkerIOSurfacePoolSpec.received (spec : WorkerIOSurfacePoolSpec) :
    IOSurfacePoolSpec where
  width := spec.width
  height := spec.height
  pixelFormat := spec.pixelFormat
  slotCount := spec.slotCount
  iosurfaceId := spec.iosurfaceId

structure PackedSurface where
  width : UInt32
  height : UInt32
  allocSize : UInt64
  surfaceId : UInt32
  deriving DecidableEq, Repr

structure OwnedIOSurfacePoolEntry where
  surface : PackedSurface
  machPort : UInt32
  iosurfaceId : UInt32
  guestPhysAddr : UInt64
  len : UInt64
  writable : Bool
  name : String
  deriving DecidableEq, Repr

def maxRegisteredIOSurfacePorts : Nat := 3

def alignUp (value alignment : UInt64) : UInt64 :=
  if alignment = 0 then value
  else (value + alignment - 1) &&& ~~~(alignment - 1)

def pageRoundUp (page : PageSize) (value : UInt64) : UInt64 :=
  alignUp value page.word

def hexDigits (value : UInt32) : String :=
  String.ofList (Nat.toDigits 16 value.toNat)

def poolSlotAllocSize (page : PageSize) (width height pixelFormat : UInt32) :
    Except String UInt64 :=
  if pixelFormat = PixelFormat.bgra then
    .ok (pageRoundUp page (width.toUInt64 * 4 * height.toUInt64))
  else if pixelFormat = PixelFormat.nv12 then
    let stride := alignUp width.toUInt64 64
    let y := stride * height.toUInt64
    let cbcr := stride * (height.toUInt64 / 2)
    .ok (pageRoundUp page (y + cbcr))
  else
    .error ("pool pixel_format 0x" ++ hexDigits pixelFormat ++
      " is not supported (only BGRA=0x42475241 and NV12=0x34323076)")

def poolRegionName (page : PageSize)
    (width height pixelFormat slotCount : UInt32) : Except String String := do
  let slotAlloc ← poolSlotAllocSize page width height pixelFormat
  .ok s!"vt-ferry-pool-pf{pixelFormat}-w{width}-h{height}-n{slotCount}-b{slotAlloc}"

def checkedMul (left right : UInt64) : Option UInt64 :=
  if left.toNat * right.toNat < 2 ^ 64 then some (left * right) else none

def createPackedBgraIOSurface (host : SurfaceHost) (index : Nat)
    (width height : UInt32) (allocSize : UInt64) :
    Except String PackedSurface :=
  match host.createSurface index with
  | none =>
    .error s!"IOSurfaceCreate returned nil for packed shape {width}x{height} alloc_size={allocSize}"
  | some surfaceId =>
    .ok
      { width := width
        height := height
        allocSize := allocSize
        surfaceId := surfaceId }

/-- Rows of the packed surface: enough for `total` bytes, cut to a `u32`. -/
def rawHeight (width : UInt32) (total : UInt64) : UInt32 :=
  let rawBpr := width.toUInt64 * 4
  ((total + rawBpr - 1) / rawBpr).toUInt32

def rawAlloc (width : UInt32) (total : UInt64) : UInt64 :=
  let rawBpr := width.toUInt64 * 4
  let rows := rawBpr * (rawHeight width total).toUInt64
  if rows ≤ total then total else rows

/-- One round of the loop of `allocate_pools`. -/
def allocatePool (host : SurfaceHost) (index : Nat) (spec : PoolSpec) :
    Except String (OwnedIOSurfacePoolEntry × WorkerIOSurfacePoolSpec) :=
  if spec.slotCount = 0 then .error "pool requires slot_count >= 1"
  else do
    let slotAligned ← poolSlotAllocSize host.page spec.width spec.height spec.pixelFormat
    match checkedMul slotAligned spec.slotCount.toUInt64 with
    | none => .error "packed pool size overflow"
    | some total =>
      if spec.width.toUInt64 * 4 = 0 then .error "pool width must be > 0"
      else do
        let surface ← createPackedBgraIOSurface host index spec.width
          (rawHeight spec.width total) (rawAlloc spec.width total)
        if host.createMachPort index = 0 then
          .error "IOSurfaceCreateMachPort returned 0"
        else do
          let name ← poolRegionName host.page spec.width spec.height spec.pixelFormat spec.slotCount
          .ok
            ({ surface := surface
               machPort := host.createMachPort index
               iosurfaceId := surface.surfaceId
               guestPhysAddr := spec.guestPhysAddr
               len := total
               writable := spec.writable
               name := name },
              { width := spec.width
                height := spec.height
                pixelFormat := spec.pixelFormat
                slotCount := spec.slotCount
                iosurfaceId := surface.surfaceId })

/-- The loop of `allocate_pools`, from the pool at `index` on. -/
def allocateFrom (host : SurfaceHost) :
    Nat → List PoolSpec → Except String
        (List OwnedIOSurfacePoolEntry × List WorkerIOSurfacePoolSpec)
  | _, [] => .ok ([], [])
  | index, spec :: specs => do
      let (entry, workerSpec) ← allocatePool host index spec
      let (entries, workerSpecs) ← allocateFrom host (index + 1) specs
      .ok (entry :: entries, workerSpec :: workerSpecs)

def allocatePools (host : SurfaceHost) (specs : List PoolSpec) :
    Except String (List OwnedIOSurfacePoolEntry × List WorkerIOSurfacePoolSpec) :=
  if maxRegisteredIOSurfacePorts < specs.length then
    .error s!"{specs.length} pools requested but TASK_PORT_REGISTER_MAX={maxRegisteredIOSurfacePorts} caps mach_ports_register"
  else allocateFrom host 0 specs

end Broker

end VtFerry
