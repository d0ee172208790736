import VtFerry.Worker.ReplyBytes
import VtFerry.Worker.VtReal.Dispatch

/-!
# The two backends behind the connection loop

`handle_connection` gives a backend one response buffer of the storage's size
and sends the bytes the backend reports.  The mock backend depends on nothing
else; the VideoToolbox backend on what the host frameworks answer, on what
earlier requests left in the response buffer, and on the surfaces.
-/

namespace VtFerry

/-- The reply a handler puts into the response buffer.  A reply that has no
place there is not sent. -/
def Dispatched.ofBody (status : UInt32) (body : Option ReplyBody) :
    Dispatched where
  status := status
  output := (body.filter fun body =>
    body.size ≤ transportStorageCapacity).map ReplyBody.bytes
  fits := by
    intro bytes output
    obtain ⟨reply, kept, rfl⟩ := Option.map_eq_some_iff.mp output
    rw [ReplyBody.length_bytes]
    exact of_decide_eq_true (Option.filter_eq_some_iff.mp kept).2

theorem Dispatched.ofBody_output {status : UInt32} {body : ReplyBody}
    (small : body.size ≤ transportStorageCapacity) :
    (ofBody status (some body)).output = some body.bytes := by
  simp [ofBody, small]

def mockWorker : Backend MockBackend Unit where
  dispatch _ header payload backend :=
    let served := backend.dispatch transportStorageCapacity header.version ⟨header.opcode, payload⟩
    (served.backend, .ofBody served.status served.reply)

/-- What a request meets: the host frameworks and the response buffer. -/
structure HostAnswers where
  host : HostCalls
  response : List UInt8
  full : response.length = transportStorageCapacity

def realWorker : Backend (VtRealBackend × Surfaces) HostAnswers where
  dispatch answers header payload state :=
    let served := state.1.dispatch answers.host ⟨header.opcode, payload⟩ answers.response state.2
    ((served.backend, served.surfaces), .ofBody served.status (some served.body))

end VtFerry
