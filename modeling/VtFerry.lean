import VtFerry.Shim.TransportSafety
import VtFerry.Worker.DecodedHandles
import VtFerry.Worker.Delivery.DecodeErrors
import VtFerry.Shim.CompleteFrames
import VtFerry.Shim.ChunkDelivery
import VtFerry.Shim.PixelRoundTrip
import VtFerry.Shim.ReferenceCounts
import VtFerry.Shim.ConfigRecord
import VtFerry.Shim.ParameterSets
import VtFerry.Shim.RefusedFrames
import VtFerry.Shim.PropertyStore
import VtFerry.Worker.PoolSizes
import VtFerry.Shim.DeferredReleases
import VtFerry.Broker.SurfaceCalls
import VtFerry.Shim.PendingFrames
import VtFerry.Shim.Dictionaries
import VtFerry.Worker.DrainCounts
import VtFerry.Worker.Isolation
import VtFerry.Worker.Reset
