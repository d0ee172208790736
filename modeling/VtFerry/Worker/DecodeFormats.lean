import VtFerry.Foundation.Execution
import VtFerry.Foundation.SizeTable
import VtFerry.Worker.VtReal.SessionEffects

/-!
# Decode formats at the worker

`SET_DECODE_FORMAT` cuts the parameter sets out of the inline data, makes a
format description of them and looks for a decompression session that takes
it: the one there is, if it accepts the description, and a new one otherwise.
The old session is dropped before the new one is created, so that the two
never exist together.  A request that fails leaves the session as it was,
with that one exception: a session whose decoder refuses the new description
and cannot be replaced has none until a later format is accepted.
-/

namespace VtFerry

open SizeTable

namespace SetDecodeFormatPayload

/-- The used entries of the size table. -/
def usedSizes (payload : SetDecodeFormatPayload) : List UInt32 :=
  payload.parameterSetSizes.take payload.parameterSetCount.toNat

/-- The checks that precede the slicing of the inline data. -/
def TableFits (payload : SetDecodeFormatPayload) : Prop :=
  payload.parameterSetCount.toNat ≤ maxParameterSets ∧
    (payload.usedSizes.map UInt32.toNat).sum ≤ maxParameterSetBytes ∧
    payload.parameterSetCount ≠ 0

def description (payload : SetDecodeFormatPayload) : FormatDescription where
  codec := payload.codec
  parameterSets := VtRealBackend.cutParameterSets payload.usedSizes payload.parameterSetData
  nalHeaderLength := payload.nalHeaderLength.toInt32

/-- The slicing loop, `none` where `parameter_set_data[offset..end]` would be
out of range. -/
def parameterSetSlices (payload : SetDecodeFormatPayload) :
    Option (List (List UInt8)) :=
  slices payload.parameterSetData (payload.usedSizes.map UInt32.toNat) 0

end SetDecodeFormatPayload

namespace VtRealBackend

theorem cutParameterSets_eq (sizes : List UInt32) (data : List UInt8) :
    cutParameterSets sizes data = (sizes.map UInt32.toNat).splitLengths data := by
  induction sizes generalizing data with
  | nil => rfl
  | cons size sizes induction =>
    rw [cutParameterSets, List.map_cons, List.splitLengths_cons, induction]

theorem parameterSetSlices_eq {source : List UInt8}
    (long : SetDecodeFormatPayload.size ≤ source.length)
    (fits : (SetDecodeFormatPayload.read source).TableFits) :
    (SetDecodeFormatPayload.read source).parameterSetSlices =
      some (SetDecodeFormatPayload.read source).description.parameterSets := by
  have length : (SetDecodeFormatPayload.read source).parameterSetData.length =
      maxParameterSetBytes := by
    simp only [SetDecodeFormatPayload.read, List.length_take, List.length_drop]
    rw [SetDecodeFormatPayload.size] at long
    omega
  have inside := fits.2.1
  rw [← length] at inside
  rw [SetDecodeFormatPayload.parameterSetSlices, slices_eq_some (by omega),
    List.drop_zero, SetDecodeFormatPayload.description, cutParameterSets_eq]

/-! ## Formats and decompression sessions -/

section Change

variable {host : HostCalls} {source : List UInt8} {backend : VtRealBackend}
  {surfaces : Surfaces} {session : VtRealDecodeSession}

/-- What a request needs to reach the host's decoder. -/
structure Describes (host : HostCalls) (source : List UInt8) : Prop where
  long : SetDecodeFormatPayload.size ≤ source.length
  fits : (SetDecodeFormatPayload.read source).TableFits
  codec : (SetDecodeFormatPayload.read source).codec = Codec.avc1 ∨
    (SetDecodeFormatPayload.read source).codec = Codec.hvc1
  made : host.createFormat = true

/-- The session keeps its decoder under a new description. -/
def Keeps (host : HostCalls) (session : VtRealDecodeSession) : Prop :=
  session.vtSession ≠ none ∧ host.acceptFormat = true

/-- A session's decoder refuses the new description, and no other is made. -/
structure Displaces (host : HostCalls) (source : List UInt8)
    (session : VtRealDecodeSession) : Prop where
  describes : Describes host source
  decoding : session.vtSession ≠ none
  refuses : host.acceptFormat = false
  alone : host.createDecompression = false

/-- What becomes of the session a request names. -/
inductive FormatChange (host : HostCalls) (source : List UInt8)
    (session : VtRealDecodeSession) : VtRealDecodeSession → UInt32 → Prop
  /-- The request is refused, or the first decoder cannot be made. -/
  | refused {status : UInt32} (failed : status ≠ Status.ok)
      (undisplaced : ¬ Displaces host source session)
      (unmet : ¬ Describes host source ∨ host.createDecompression = false) :
      FormatChange host source session session status
  | displaced (displaces : Displaces host source session) :
      FormatChange host source session { session with vtSession := none }
        Status.unsupportedCodecOrFormat
  | kept (describes : Describes host source) (keeps : Keeps host session) :
      FormatChange host source session
        { session with
          formatDescription :=
            some (SetDecodeFormatPayload.read source).description }
        Status.ok
  | created (describes : Describes host source)
      (created : host.createDecompression = true) :
      FormatChange host source session
        { session with
          vtSession := some (SetDecodeFormatPayload.read source).description
          formatDescription :=
            some (SetDecodeFormatPayload.read source).description }
        Status.ok

theorem Describes.not_refused (describes : Describes host source) :
    ¬ source.length < SetDecodeFormatPayload.size ∧
      ¬ (SetDecodeFormatPayload.read source).parameterSetCount.toNat > maxParameterSets ∧
      ¬ ((SetDecodeFormatPayload.read source).usedSizes.map
        UInt32.toNat).sum > maxParameterSetBytes ∧
      ¬ (SetDecodeFormatPayload.read source).parameterSetCount = 0 ∧
      ¬ ((SetDecodeFormatPayload.read source).codec ≠ Codec.avc1 ∧
        (SetDecodeFormatPayload.read source).codec ≠ Codec.hvc1) ∧
      (!host.createFormat) = false := by
  refine ⟨Nat.not_lt.mpr describes.long, Nat.not_lt.mpr describes.fits.1,
    Nat.not_lt.mpr describes.fits.2.1, describes.fits.2.2, ?_, ?_⟩
  · rintro ⟨notAvc, notHvc⟩
    exact describes.codec.elim notAvc notHvc
  · rw [describes.made]
    rfl

theorem setDecodeFormat_described (describes : Describes host source)
    (known : backend.decodeSessions.lookup
      (SetDecodeFormatPayload.read source).sessionId.toNat = some session) :
    ∃ later status, setDecodeFormat host source backend surfaces =
        .plain { backend with
          decodeSessions := backend.decodeSessions.insert
            (SetDecodeFormatPayload.read source).sessionId.toNat later }
          surfaces status ∧
      FormatChange host source session later status := by
  obtain ⟨long, count, total, some_sets, codec, made⟩ := describes.not_refused
  rw [SetDecodeFormatPayload.usedSizes] at total
  simp only [setDecodeFormat, if_neg long, if_neg count, if_neg total,
    if_neg some_sets, known, if_neg codec, made]
  cases decoder : session.vtSession with
  | none =>
    cases created : host.createDecompression with
    | true => exact ⟨_, _, rfl, .created describes created⟩
    | false =>
      refine ⟨_, _, rfl, ?_⟩
      rw [← decoder]
      refine .refused (by decide) ?_ (.inr created)
      intro displaces
      exact displaces.decoding decoder
  | some existing =>
    have decoding : session.vtSession ≠ none := by
      rw [decoder]
      exact Option.some_ne_none existing
    cases accepts : host.acceptFormat with
    | true =>
      have kept := FormatChange.kept describes ⟨decoding, accepts⟩
      rw [decoder] at kept
      exact ⟨_, _, rfl, kept⟩
    | false =>
      cases created : host.createDecompression with
      | true => exact ⟨_, _, rfl, .created describes created⟩
      | false => exact ⟨_, _, rfl, .displaced ⟨describes, decoding, accepts, created⟩⟩

theorem setDecodeFormat_undescribed (undescribed : ¬ Describes host source)
    (known : backend.decodeSessions.lookup
      (SetDecodeFormatPayload.read source).sessionId.toNat = some session) :
    ∃ status, status ≠ Status.ok ∧ setDecodeFormat host source backend surfaces =
        .plain backend surfaces status := by
  unfold setDecodeFormat
  dsimp only
  split
  · exact ⟨_, by decide, rfl⟩
  split
  · exact ⟨_, by decide, rfl⟩
  split
  · exact ⟨_, by decide, rfl⟩
  split
  · exact ⟨_, by decide, rfl⟩
  · rw [known]
    dsimp only
    split
    · exact ⟨_, by decide, rfl⟩
    split
    · exact ⟨_, by decide, rfl⟩
    next long count total some_sets codec made =>
      apply absurd _ undescribed
      refine ⟨Nat.not_lt.mp long, ⟨Nat.not_lt.mp count, Nat.not_lt.mp total, some_sets⟩, ?_, ?_⟩
      · exact or_iff_not_and_not.mpr codec
      · simpa using made

theorem setDecodeFormat_change (host : HostCalls) (surfaces : Surfaces)
    (known : backend.decodeSessions.lookup
      (SetDecodeFormatPayload.read source).sessionId.toNat = some session) :
    ∃ later, (setDecodeFormat host source backend surfaces).backend.decodeSessions.lookup
          (SetDecodeFormatPayload.read source).sessionId.toNat = some later ∧
      FormatChange host source session later
        (setDecodeFormat host source backend surfaces).status := by
  by_cases describes : Describes host source
  · obtain ⟨later, status, served, change⟩ :=
      setDecodeFormat_described describes known
    rw [served]
    exact ⟨later, by simp [Served.plain], change⟩
  · obtain ⟨status, failed, served⟩ :=
      setDecodeFormat_undescribed describes known
    rw [served]
    refine ⟨session, known, .refused failed ?_ (.inl describes)⟩
    intro displaces
    exact describes displaces.describes

variable {id : Nat}

theorem dispatchDecodeAssembledFrame_congr {before after : VtRealBackend}
    (same : after.decodeSessions.lookup id = before.decodeSessions.lookup id) (bytes : List UInt8)
    (timing : Timing) :
    after.dispatchDecodeAssembledFrame host id bytes timing =
      before.dispatchDecodeAssembledFrame host id bytes timing := by
  unfold dispatchDecodeAssembledFrame
  rw [same]

theorem dispatchDecodeAssembledFrame_undecoded
    (known : backend.decodeSessions.lookup id = some session)
    (undecoded : session.vtSession = none) (bytes : List UInt8) (timing : Timing) :
    backend.dispatchDecodeAssembledFrame host id bytes timing = (Status.invalidState, none) := by
  unfold dispatchDecodeAssembledFrame
  rw [known]
  dsimp only
  rw [undecoded]
  cases session.formatDescription with
  | none => rfl
  | some format => rfl

/-! ## Until a later format is accepted -/

/-- A request, with the host's answers to it and the surfaces it meets. -/
structure LaterRequest where
  host : HostCalls
  request : Request
  response : List UInt8
  surfaces : Surfaces

def LaterRequest.served (later : LaterRequest) (backend : VtRealBackend) : Served :=
  backend.dispatch later.host later.request later.response later.surfaces

def serveLater (backend : VtRealBackend) (later : LaterRequest) : VtRealBackend :=
  (later.served backend).backend

/-- The request is a format for this session, and it is accepted. -/
def AcceptsFormat (id : Nat) (backend : VtRealBackend) (later : LaterRequest) : Prop :=
  Opcode.ofCode? later.request.opcode = some .setDecodeFormat ∧
    (SetDecodeFormatPayload.read later.request.payload).sessionId.toNat = id ∧
    (later.served backend).status = Status.ok

/-- The session has no decoder, if it is still there. -/
def Undecoded (id : Nat) (backend : VtRealBackend) : Prop :=
  ∀ session, backend.decodeSessions.lookup id = some session → session.vtSession = none

theorem Undecoded.of_same {before after : VtRealBackend} (undecoded : before.Undecoded id)
    (same : after.decodeSessions = before.decodeSessions) :
    after.Undecoded id := by
  rw [Undecoded, same]
  exact undecoded

theorem Undecoded.serveLater {later : LaterRequest} (undecoded : backend.Undecoded id)
    (unaccepted : ¬ AcceptsFormat id backend later) :
    (serveLater backend later).Undecoded id := by
  have effect := dispatch_effect later.host later.request later.response backend later.surfaces
  unfold AcceptsFormat at unaccepted
  unfold VtRealBackend.serveLater
  unfold LaterRequest.served at unaccepted ⊢
  generalize dispatch later.host later.request later.response backend later.surfaces = served
    at effect unaccepted ⊢
  generalize Opcode.ofCode? later.request.opcode = opcode at effect unaccepted
  cases effect with
  | decodeOpened =>
    intro session found
    dsimp only [Served.ok] at found
    rw [FiniteMap.lookup_insert_eq] at found
    split at found
    · cases found
      rfl
    · exact undecoded session found
  | decodeDestroyed _ =>
    intro session found
    dsimp only [Served.plain] at found
    rw [FiniteMap.lookup_erase_eq] at found
    split at found
    · cases found
    · exact undecoded session found
  | @configured _ status sessionId before configured _ named known decoder =>
    intro session found
    dsimp only [Served.plain] at found unaccepted
    rw [FiniteMap.lookup_insert_eq] at found
    split at found
    next same =>
      cases found
      subst same
      rcases decoder with kept | dropped | ⟨rfl, accepted⟩
      · exact kept.trans (undecoded before known)
      · exact dropped
      · exact absurd ⟨rfl, Option.some.inj named, accepted⟩ unaccepted
    next => exact undecoded session found
  | entryClaimed _ _ _ _ build => exact undecoded.of_same build.sameSessions.decodeSessions
  | decodedDequeued dequeue =>
    cases dequeue with
    | _ => exact undecoded
  | _ => exact undecoded

/-- A session without a decoder has none until a format for it is accepted. -/
theorem Undecoded.run {requests : List LaterRequest} (undecoded : backend.Undecoded id)
    (unaccepted : Execution.Obeys VtRealBackend.serveLater
      (fun reached later => ¬ AcceptsFormat id reached later) backend requests) :
    (Execution.run VtRealBackend.serveLater backend requests).Undecoded id :=
  Execution.invariant_of_obeys (fun _ _ before allowed => before.serveLater allowed)
    undecoded unaccepted

theorem Undecoded.refuses (undecoded : backend.Undecoded id) (host : HostCalls)
    (bytes : List UInt8) (timing : Timing) :
    backend.dispatchDecodeAssembledFrame host id bytes timing =
      (if (backend.decodeSessions.lookup id).isSome then Status.invalidState
        else Status.invalidHandle, none) := by
  cases known : backend.decodeSessions.lookup id with
  | none =>
    unfold dispatchDecodeAssembledFrame
    rw [known]
    rfl
  | some session =>
    exact dispatchDecodeAssembledFrame_undecoded known (undecoded session known) bytes timing

/-- A failed change leaves the session and what becomes of its frames alone,
unless it displaces the decoder; a displaced decoder leaves the description
and the mode, and frames are refused until a later format for the session is
accepted.  After a successful change the
decoder accepts the description. -/
theorem format_change_settled (accepts : FormatDescription → FormatDescription → Prop)
    (own : ∀ format, accepts format format) (host : HostCalls)
    (source : List UInt8) (backend : VtRealBackend) (surfaces : Surfaces)
    (session : VtRealDecodeSession)
    (known : backend.decodeSessions.lookup
      (SetDecodeFormatPayload.read source).sessionId.toNat = some session)
    (approved : ∀ decoder, session.vtSession = some decoder → host.acceptFormat = true →
        accepts decoder (SetDecodeFormatPayload.read source).description) :
    ∃ later, (setDecodeFormat host source backend surfaces).backend.decodeSessions.lookup
          (SetDecodeFormatPayload.read source).sessionId.toNat = some later ∧
      ((setDecodeFormat host source backend surfaces).status ≠ Status.ok →
        ¬ Displaces host source session → later = session ∧
          ∀ (host' : HostCalls) (bytes : List UInt8) (timing : Timing),
            (setDecodeFormat host source backend
              surfaces).backend.dispatchDecodeAssembledFrame host'
                (SetDecodeFormatPayload.read source).sessionId.toNat bytes
                timing =
              backend.dispatchDecodeAssembledFrame host'
                (SetDecodeFormatPayload.read source).sessionId.toNat bytes
                timing) ∧
      (Displaces host source session →
        (setDecodeFormat host source backend surfaces).status ≠ Status.ok ∧
        later = { session with vtSession := none } ∧
        ∀ (host' : HostCalls) (bytes : List UInt8) (timing : Timing),
          (setDecodeFormat host source backend surfaces).backend.dispatchDecodeAssembledFrame host'
              (SetDecodeFormatPayload.read source).sessionId.toNat bytes
              timing = (Status.invalidState, none)) ∧
      (Displaces host source session → ∀ requests : List LaterRequest,
        Execution.Obeys serveLater
          (fun reached request => ¬ AcceptsFormat
            (SetDecodeFormatPayload.read source).sessionId.toNat reached request)
          (setDecodeFormat host source backend surfaces).backend requests →
        let reached := Execution.run serveLater
          (setDecodeFormat host source backend surfaces).backend requests
        reached.Undecoded (SetDecodeFormatPayload.read source).sessionId.toNat ∧
        ∀ (host' : HostCalls) (bytes : List UInt8) (timing : Timing),
          reached.dispatchDecodeAssembledFrame host'
              (SetDecodeFormatPayload.read source).sessionId.toNat bytes timing =
            (if (reached.decodeSessions.lookup
                (SetDecodeFormatPayload.read source).sessionId.toNat).isSome
              then Status.invalidState else Status.invalidHandle, none)) ∧
      ((setDecodeFormat host source backend surfaces).status = Status.ok →
        ∃ decoder format, later.vtSession = some decoder ∧
          later.formatDescription = some format ∧ accepts decoder format) := by
  obtain ⟨later, found, change⟩ :=
    setDecodeFormat_change host surfaces known
  refine ⟨later, found, ?_⟩
  generalize setDecodeFormat host source backend surfaces = served at found change ⊢
  obtain ⟨after, _, status, _, _, _⟩ := served
  dsimp only at found change ⊢
  cases change with
  | refused failed undisplaced _ =>
    refine ⟨fun _ _ => ⟨rfl, ?_⟩, fun displaces => ?_, fun displaces => ?_, fun succeeded => ?_⟩
    · intro host' bytes timing
      apply dispatchDecodeAssembledFrame_congr
      rw [found, known]
    · exact absurd displaces undisplaced
    · exact absurd displaces undisplaced
    · exact absurd succeeded failed
  | displaced displaces =>
    refine ⟨fun _ undisplaced => absurd displaces undisplaced, fun _ => ⟨by decide, rfl, ?_⟩,
      fun _ => ?_, nofun⟩
    · intro host' bytes timing
      exact dispatchDecodeAssembledFrame_undecoded found rfl bytes timing
    · intro requests unaccepted
      have dropped : after.Undecoded (SetDecodeFormatPayload.read source).sessionId.toNat := by
        intro other same
        rw [found] at same
        cases same
        rfl
      exact ⟨dropped.run unaccepted, (dropped.run unaccepted).refuses⟩
  | kept describes keeps =>
    have undisplaced : ¬ Displaces host source session := by
      intro displaces
      have refuses := displaces.refuses
      rw [keeps.2] at refuses
      cases refuses
    refine ⟨fun failed => absurd rfl failed, fun displaces => absurd displaces undisplaced,
      fun displaces => absurd displaces undisplaced, fun _ => ?_⟩
    obtain ⟨decoder, decoding⟩ := Option.ne_none_iff_exists'.mp keeps.1
    exact ⟨decoder, _, decoding, rfl, approved decoder decoding keeps.2⟩
  | created describes created =>
    have undisplaced : ¬ Displaces host source session := by
      intro displaces
      have alone := displaces.alone
      rw [created] at alone
      cases alone
    exact ⟨fun failed => absurd rfl failed, fun displaces => absurd displaces undisplaced,
      fun displaces => absurd displaces undisplaced, fun _ => ⟨_, _, rfl, rfl, own _⟩⟩

end Change

/-! ## A change of codec -/

def decodingBackend : VtRealBackend :=
  { VtRealBackend.fresh with
    decodeSessions := (∅ : FiniteMap Nat VtRealDecodeSession).insert 1
      { formatDescription := some ⟨Codec.avc1, [[103], [104]], 4⟩
        vtSession := some ⟨Codec.avc1, [[103], [104]], 4⟩
        chunkedOutput := false } }

def hevcRequest : List UInt8 :=
  LittleEndian.u64Bytes 1 ++ (LittleEndian.u32Bytes Codec.hvc1 ++
    (List.replicate 8 0 ++ (LittleEndian.u32Bytes 4 ++
      (LittleEndian.u32Bytes 1 ++ (List.replicate 4 0 ++
        (LittleEndian.u32Bytes 1 ++ (List.replicate 12 0 ++ (64 :: List.replicate 127 0))))))))

def hevcServed (host : HostCalls) : Served :=
  setDecodeFormat host hevcRequest decodingBackend ⟨⟨[]⟩, fun _ _ => 0⟩

/-- A host whose decoder refuses the new format, and that gives no other. -/
def refusingHost : HostCalls :=
  { acceptFormat := false, createDecompression := false }

/-- The decoder is gone after the failed change, and a frame that would have
been decoded is refused. -/
theorem failed_change_loses_decoder :
    (hevcServed refusingHost).status = Status.unsupportedCodecOrFormat ∧
    ((hevcServed refusingHost).backend.decodeSessions.lookup 1).map (·.vtSession) = some none ∧
    (decodingBackend.dispatchDecodeAssembledFrame {} 1 [1, 2] ⟨0, 1, 0, 1⟩).1 = Status.ok ∧
    ((hevcServed refusingHost).backend.dispatchDecodeAssembledFrame {} 1 [1, 2]
      ⟨0, 1, 0, 1⟩).1 = Status.invalidState := by
  decide +kernel

theorem hevcRequest_named : (SetDecodeFormatPayload.read hevcRequest).sessionId.toNat = 1 := by
  decide +kernel

/-- A host that cannot make the description keeps the decoder at work. -/
theorem failed_description_keeps_decoder :
    (hevcServed { createFormat := false }).status ≠ Status.ok ∧
    ((hevcServed { createFormat := false }).backend.dispatchDecodeAssembledFrame
      {} 1 [1, 2] ⟨0, 1, 0, 1⟩).1 = Status.ok := by
  have known : decodingBackend.decodeSessions.lookup
      (SetDecodeFormatPayload.read hevcRequest).sessionId.toNat =
        some ⟨some ⟨Codec.avc1, [[103], [104]], 4⟩,
          some ⟨Codec.avc1, [[103], [104]], 4⟩, false⟩ := by
    decide +kernel
  have failed : (hevcServed { createFormat := false }).status ≠ Status.ok := by
    decide +kernel
  obtain ⟨later, -, kept, -⟩ := format_change_settled (fun _ _ => True)
    (fun _ => trivial) { createFormat := false } hevcRequest decodingBackend
    ⟨⟨[]⟩, fun _ _ => 0⟩ _ known fun _ _ _ => trivial
  obtain ⟨-, same⟩ := kept failed fun displaces => by
    cases displaces.describes.made
  have dispatched := same {} [1, 2] ⟨0, 1, 0, 1⟩
  rw [hevcRequest_named] at dispatched
  refine ⟨failed, ?_⟩
  rw [hevcServed, dispatched]
  decide +kernel

end VtRealBackend

end VtFerry
