import VtFerry.Worker.VtReal.Decode
import VtFerry.Worker.VtReal.DecodedOutputs
import VtFerry.Worker.VtReal.Outputs
import VtFerry.Worker.VtReal.Pools
import VtFerry.Worker.VtReal.Sessions

/-!
# Dispatch of the VideoToolbox backend

`dispatch` serves one request of one connection: it looks at the opcode and
runs the handler.  `response` is the connection's response buffer as earlier
requests left it.
-/

namespace VtFerry

namespace VtRealBackend

def dispatch (host : HostCalls) (request : Request) (response : List UInt8)
    (backend : VtRealBackend) (surfaces : Surfaces) : Served :=
  let source := request.payload
  match Opcode.ofCode? request.opcode with
  | none => .plain backend surfaces Status.unsupportedOpcode
  | some opcode =>
    match opcode with
    | .hello => hello source backend surfaces
    | .ping => .plain backend surfaces Status.ok
    | .getCaps => .ok backend surfaces (.caps capabilities)
    | .createSession => createSession host source backend surfaces
    | .setProperty => setProperty host source backend surfaces
    | .prepareSession => prepareSession host source backend surfaces
    | .createBufferPool => createBufferPool host source backend surfaces
    | .allocBuffer => allocBuffer host source backend surfaces
    | .readBuffer => readBuffer host source response backend surfaces
    | .writeBuffer => writeBuffer host source backend surfaces
    | .encodeFrame => encodeFrame host source backend surfaces
    | .encodeFrameBatch => encodeFrameBatch host source backend surfaces
    | .dequeueOutput => dequeueOutput source backend surfaces
    | .readOutput => readOutput source response backend surfaces
    | .releaseOutput => releaseOutput source backend surfaces
    | .dequeueOutputBatch => dequeueOutputBatch source backend surfaces
    | .releaseOutputBatch => releaseOutputBatch source backend surfaces
    | .recycleBuffer => recycleBuffer source backend surfaces
    | .drain => drain host source backend surfaces
    | .destroySession => destroySession source backend surfaces
    | .enqueueEncodedFrame =>
      enqueueEncodedFrame host source backend surfaces
    | .dequeueDecodedFrame => dequeueDecodedFrame source backend surfaces
    | .releaseDecodedFrame => releaseDecodedFrame source backend surfaces
    | .setDecodeFormat => setDecodeFormat host source backend surfaces
    | .readDecodedFrame =>
      readDecodedFrame host source response backend surfaces
    | .bindDecodeOutputPool => bindDecodeOutputPool source backend surfaces
    | .readDecodedFrameChunk =>
      readDecodedFrameChunk host source response backend surfaces
    | .destroyBufferPool => destroyBufferPool source backend surfaces
    | .enqueueEncodedFrameChunk =>
      enqueueEncodedFrameChunk host source backend surfaces

end VtRealBackend

end VtFerry
