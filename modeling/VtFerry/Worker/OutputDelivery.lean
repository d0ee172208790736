import VtFerry.Worker.Delivery.Decode
import VtFerry.Worker.Delivery.Encode

/-!
# Both output queues deliver in order

The two output queues of a backend under every interleaving of callbacks and
requests in which releases name what was dequeued before.
-/

namespace VtFerry

open LittleEndian

/-- In every interleaving both queues are in order, and a dequeue that finds
its queue non-empty answers with the front of the queue. -/
theorem outputs_delivered_in_order (surfaces : Surfaces)
    (backend : VtRealBackend) (encodeEvents : List EncodeEvent)
    (decodeEvents : List DecodeEvent)
    (encodeReleases : Execution.Obeys (EncodeSide.step surfaces)
      EncodeSide.Allows (EncodeSide.starting backend) encodeEvents)
    (decodeReleases : Execution.Obeys (DecodeSide.step surfaces)
      DecodeSide.Allows (DecodeSide.starting backend) decodeEvents) :
    let encode := Execution.run (EncodeSide.step surfaces)
      (EncodeSide.starting backend) encodeEvents
    let decode := Execution.run (DecodeSide.step surfaces)
      (DecodeSide.starting backend) decodeEvents
    (QueueInOrder OutputQueue.labels encode.backend.outputState encode.pushed encode.delivered ∧
      encode.AnswersFront surfaces) ∧
    (QueueInOrder DecodedOutputQueue.labels decode.queue decode.pushed decode.delivered ∧
      decode.AnswersFront surfaces) := by
  intro encode decode
  have encodeOrderly : encode.Orderly :=
    (EncodeSide.starting_orderly backend).run encodeReleases
  have decodeOrderly : decode.Orderly :=
    (DecodeSide.starting_orderly backend).run decodeReleases
  exact ⟨⟨encodeOrderly.inOrder, encodeOrderly.answersFront⟩,
    decodeOrderly.inOrder, decodeOrderly.answersFront⟩

/-- A backend with two decode sessions, 7 and 8. -/
def decodingBackend : VtRealBackend :=
  { VtRealBackend.fresh with
    decodeSessions := (VtRealBackend.fresh.decodeSessions.insert 7 ⟨none, none, false⟩).insert 8
      ⟨none, none, false⟩ }

def noTiming : Timing :=
  { ptsValue := 0, ptsTimescale := 0, durationValue := 0,
    durationTimescale := 0 }

def encodedByte (thread sessionId : Nat) (byte : UInt8) : EncodeEvent :=
  .callbackStarts thread
    { sessionId := sessionId, codec := 0, pixelFormat := 0, width := 16, height := 16 }
    { bufferId := 1, bufferGeneration := 1 }
    { status := 0, data := some [byte], timing := noTiming, format := none, sync := true }

/-- Two callbacks of session 7 overlap with one of session 8; the one that
draws its id last is the first to push. -/
def encodeRoundTrips : List EncodeEvent :=
  [encodedByte 0 7 1, encodedByte 1 8 2, .callbackStep 0, .callbackStep 1,
    encodedByte 2 7 3, .callbackStep 2, .callbackStep 2, .callbackStep 2,
    .callbackStep 1, .dequeue (u64Bytes 7), .callbackStep 0, .answer,
    .callbackStep 1, .callbackStep 0,
    .dequeueBatch (u64Bytes 7 ++ (u32Bytes 4 ++ u32Bytes 0)), .answer,
    .release (u64Bytes 50002), .dequeue (u64Bytes 8), .answer, .release (u64Bytes 50000)]

def decodedFrame (thread sessionId : Nat) : DecodeEvent :=
  .callbackStarts thread sessionId
    { status := 0
      imageBuffer := some
        { region := 0, width := 16, height := 16,
          pixelFormat := PixelFormat.bgra, base := 0, planar := false,
          planes := [] }
      timing := noTiming }

def decodeRoundTrips : List DecodeEvent :=
  [decodedFrame 0 7, decodedFrame 1 8, .callbackStep 0, .callbackStep 1,
    decodedFrame 2 7, .callbackStep 2, .callbackStep 2, .callbackStep 2,
    .callbackStep 1, .dequeue (u64Bytes 7), .callbackStep 0, .answer,
    .callbackStep 1, .callbackStep 0, .dequeue (u64Bytes 7), .answer,
    .release (u64Bytes 7 ++ u64Bytes 70002), .dequeue (u64Bytes 8), .answer,
    .release (u64Bytes 7 ++ u64Bytes 70000)]

/-- Each session is given its own outputs, in the order of the pushes. -/
theorem round_trips_delivered_in_order :
    let surfaces : Surfaces := ⟨⟨[]⟩, fun _ _ => 0⟩
    let encode := Execution.run (EncodeSide.step surfaces)
      (EncodeSide.starting decodingBackend) encodeRoundTrips
    let decode := Execution.run (DecodeSide.step surfaces)
      (DecodeSide.starting decodingBackend) decodeRoundTrips
    encode.delivered.map (fun given => (given.sessionId, given.outputId)) =
      [(7, 50002), (7, 50000), (8, 50001)] ∧
    decode.delivered.map (fun given => (given.sessionId, given.outputId)) =
      [(7, 70002), (7, 70000), (8, 70001)] ∧
    (QueueInOrder OutputQueue.labels encode.backend.outputState encode.pushed encode.delivered ∧
      encode.AnswersFront surfaces) ∧
    (QueueInOrder DecodedOutputQueue.labels decode.queue decode.pushed decode.delivered ∧
      decode.AnswersFront surfaces) :=
  ⟨by decide +kernel, by decide +kernel,
    outputs_delivered_in_order _ _ _ _ (by decide +kernel) (by decide +kernel)⟩

end VtFerry
