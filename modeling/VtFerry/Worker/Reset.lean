import VtFerry.Worker.Mock.Store
import VtFerry.Worker.SessionRemoval
import VtFerry.Worker.SlotReturn
import VtFerry.Shim.Upload

/-!
# What a reset leaves behind

`handle_connection` resets a backend before it serves its first request.  The
mock backend forgets everything.  The VideoToolbox backend clears its maps and
its queues, but it keeps the chunks of unfinished frames and the counter of
decoded outputs, and it drops its pools without releasing their directory
entries.
-/

namespace VtFerry

open Execution

def VtRealBackend.resetFromEnv (backend : VtRealBackend) : VtRealBackend :=
  { backend with
    sessions := ∅
    decodeSessions := ∅
    pools := ∅
    buffers := ∅
    outputState := OutputQueue.new
    decodedOutputState :=
      { queue := { backend.decodedOutputState.queue with items := ∅, lanes := ∅ }
        decodeErrors := ∅ }
    nextHostId := 1 }

namespace WorkerProcess

/-- The process after the backend of an open connection is reset. -/
def resetting (process : WorkerProcess) (id : Nat) (connection : Connection) : WorkerProcess :=
  process.setConnection id { connection with backend := connection.backend.resetFromEnv }

/-- The statuses and replies that an event gives, with their connection. -/
def answers (process : WorkerProcess) : WorkerEvent → List (Nat × UInt32 × ReplyBody)
  | .request id host request response =>
    match process.serving id id with
    | none => []
    | some connection =>
      let served := connection.backend.dispatch host request response process.surfaces
      [(id, served.status, served.body)]
  | _ => []

end WorkerProcess

namespace WorkerProcess

variable {process : WorkerProcess} {id : Nat} {connection : Connection}

end WorkerProcess

end VtFerry
