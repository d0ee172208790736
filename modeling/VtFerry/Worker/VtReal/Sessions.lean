import VtFerry.Worker.VtReal.Served

/-!
# Sessions of the VideoToolbox backend

Greeting, capabilities, session creation, properties and preparation.  An
encode session needs a compression session from the host at once; a decode
session only reserves its id until a format is set.
-/

namespace VtFerry

namespace VtRealBackend

def hello (source : List UInt8) (backend : VtRealBackend) (surfaces : Surfaces) : Served :=
  if source.length < helloPayloadSize then
    .plain backend surfaces Status.internalFailure
  else
    .ok backend surfaces (.hello transportVersion.toUInt32 "vt-ferry-host-worker-vt")

/-- H.264 and HEVC; NV12, BGRA and P010; asynchronous completion, buffer
synchronisation and decoding. -/
def capabilities : GetCapsReply where
  codecBits := 1 ||| 2
  pixelFormatBits := 1 ||| 2 ||| 4
  sessionFeatureBits := 1 ||| 2 ||| 4
  maxWidth := 7680
  maxHeight := 4320
  maxInflightFrames := 16

/-- The id is spent also when no session is made. -/
def createSession (host : HostCalls) (source : List UInt8)
    (backend : VtRealBackend) (surfaces : Surfaces) : Served :=
  if source.length < CreateSessionPayload.size then
    .plain backend surfaces Status.internalFailure
  else
    let payload := CreateSessionPayload.read source
    let sessionId := backend.nextHostId
    let numbered := { backend with nextHostId := backend.nextHostId + 1 }
    let reply : CreateSessionReply :=
      { sessionId := sessionId
        negotiatedWidth := payload.width
        negotiatedHeight := payload.height
        pixelFormat := payload.pixelFormat }
    if payload.kind = sessionKindDecode then
      .ok { numbered with
        decodeSessions := numbered.decodeSessions.insert sessionId
          { formatDescription := none
            vtSession := none
            chunkedOutput := false } }
        surfaces (.session reply)
    else if payload.kind ≠ sessionKindEncode then
      .plain backend surfaces Status.unsupportedCodecOrFormat
    else if !host.createCompression then
      .plain numbered surfaces Status.unsupportedCodecOrFormat
    else
      .ok { numbered with
        sessions := numbered.sessions.insert sessionId
          { context :=
              { sessionId := sessionId
                codec := payload.codec
                pixelFormat := payload.pixelFormat
                width := payload.width
                height := payload.height }
            prepared := false } }
        surfaces (.session reply)

/-! ## Properties -/

def propertyKeys : List String :=
  ["AverageBitRate", "MaxKeyFrameInterval", "MoreFramesBeforeStart",
    "MoreFramesAfterEnd", "AllowFrameReordering", "H264EntropyMode",
    "MaxH264SliceBytes", "TransferFunction", "YCbCrMatrix", "ColorPrimaries",
    "DataRateLimits", "AllowOpenGOP", "MinAllowedFrameQP",
    "MaxAllowedFrameQP", "PrioritizeEncodingSpeedOverQuality",
    "PixelAspectRatio", "RealTime", "ProfileLevel", "ConstantBitRate",
    "EncoderID", "ExpectedFrameRate", "MaximizePowerEfficiency", "Quality",
    "ReferenceBufferCount", "SpatialAdaptiveQPLevel",
    "TargetQualityForAlpha"]

/-- The string values that any known key may carry. -/
def propertyStrings : List String :=
  ["H264_Main_AutoLevel", "H264_High_AutoLevel", "CABAC", "CAVLC",
    "SMPTE_ST_2084_PQ", "SMPTE_ST_428_1", "ITU_R_2100_HLG", "UseGamma",
    "SMPTE_C", "EBU_3213", "ITU_R_601_4"]

def keyedPropertyStrings : List (String × List String) :=
  [("ITU_R_709_2", ["TransferFunction", "YCbCrMatrix", "ColorPrimaries"]),
    ("ITU_R_2020", ["TransferFunction", "YCbCrMatrix", "ColorPrimaries"]),
    ("SMPTE_240M_1995", ["TransferFunction", "YCbCrMatrix"])]

def dictionaryKeys : List String :=
  ["HorizontalSpacing", "VerticalSpacing"]

def holdsText (field : List UInt8) (text : String) : Bool :=
  field == text.toList.map fun letter => UInt8.ofNat letter.toNat

def holdsOneOf (field : List UInt8) (texts : List String) : Bool :=
  texts.any (holdsText field)

/-- The value is one the worker can hand to `VTSessionSetProperty`. -/
def propertyValueKnown (payload : SetPropertyPayload) : Bool :=
  if payload.valueKind = 1 ∨ payload.valueKind = 2 then true
  else if payload.valueKind = 3 then
    holdsOneOf payload.text propertyStrings || keyedPropertyStrings.any fun entry =>
        holdsText payload.text entry.1 && holdsOneOf payload.key entry.2
  else if payload.valueKind = 4 then payload.arrayCount == 2
  else if payload.valueKind = 5 then
    payload.dictPairCount == 2 && payload.dictKeys.all fun key => holdsOneOf key dictionaryKeys
  else false

def setProperty (host : HostCalls) (source : List UInt8)
    (backend : VtRealBackend) (surfaces : Surfaces) : Served :=
  if source.length < SetPropertyPayload.size then
    .plain backend surfaces Status.internalFailure
  else
    let payload := SetPropertyPayload.read source
    if (backend.sessions.lookup payload.sessionId.toNat).isNone then
      .plain backend surfaces Status.invalidHandle
    else if !(holdsOneOf payload.key propertyKeys && propertyValueKnown payload) then
      .plain backend surfaces Status.propertyNotSupported
    else if !host.setProperty then
      .plain backend surfaces Status.internalFailure
    else .plain backend surfaces Status.ok

def prepareSession (host : HostCalls) (source : List UInt8)
    (backend : VtRealBackend) (surfaces : Surfaces) : Served :=
  if source.length < HandlePayload.size then
    .plain backend surfaces Status.internalFailure
  else
    let sessionId := (HandlePayload.read source).handle.toNat
    match backend.sessions.lookup sessionId with
    | none => .plain backend surfaces Status.invalidHandle
    | some session =>
      if !host.prepare then
        .plain backend surfaces Status.internalFailure
      else
        .plain { backend with
          sessions := backend.sessions.insert sessionId
            { session with prepared := true } }
          surfaces Status.ok

end VtRealBackend

end VtFerry
