import VtFerry.Shim.DecodeSession
import VtFerry.Worker.DecodeFormats

/-!
# Parameter sets between guest and worker

Parameter sets cross the wire in both directions behind a table of four sizes,
in 128 bytes of inline data.  Towards the decoder the guest refuses a list
that does not fit, and what it sends is cut into the same list again.  Towards
the client the worker sends the sets that fit and says nothing of the others:
the guest's format description then has a proper part of the list.
-/

namespace VtFerry

open LittleEndian SizeTable

namespace Shim

def wireSizes (sets : List (List UInt8)) : List UInt32 :=
  sets.map fun set => UInt32.ofNat set.length

@[simp] theorem length_wireSizes (sets : List (List UInt8)) :
    (wireSizes sets).length = sets.length :=
  List.length_map _

theorem toNat_wireSizes {sets : List (List UInt8)} (small : (sizes sets).sum < 2 ^ 32) :
    (wireSizes sets).map UInt32.toNat = sizes sets := by
  induction sets with
  | nil => rfl
  | cons set sets induction =>
    rw [sizes_cons, List.sum_cons] at small
    rw [wireSizes, List.map_cons, List.map_cons, sizes_cons,
      UInt32.toNat_ofNat_of_lt' (by rw [UInt32.size]; omega)]
    exact congrArg _ (induction (by omega))

theorem cutParameterSets_packed {sets : List (List UInt8)}
    (small : ∀ set ∈ sets, set.length < 2 ^ 32)
    (some_bytes : ∀ set ∈ sets, set ≠ []) (rest : List UInt8) :
    cutParameterSets (wireSizes sets) (sets.flatten ++ rest) = sets := by
  induction sets with
  | nil => rfl
  | cons set sets induction =>
    obtain ⟨small_set, small_sets⟩ := List.forall_mem_cons.mp small
    obtain ⟨some_set, some_sets⟩ := List.forall_mem_cons.mp some_bytes
    have size : (UInt32.ofNat set.length).toNat = set.length :=
      UInt32.toNat_ofNat_of_lt' small_set
    have positive : UInt32.ofNat set.length ≠ 0 := by
      intro zero
      rw [zero] at size
      exact some_set (List.length_eq_zero_iff.mp size.symm)
    have enough : ¬ ((set :: sets).flatten ++ rest).length < (UInt32.ofNat set.length).toNat := by
      rw [size, List.flatten_cons, List.append_assoc, List.length_append]
      omega
    rw [wireSizes, List.map_cons, cutParameterSets,
      if_neg (not_or.mpr ⟨positive, enough⟩), size, List.flatten_cons,
      List.append_assoc, List.take_left, List.drop_left]
    exact congrArg _ (induction small_sets some_sets)

/-! ## From the guest to the decoder -/

section ToDecoder

variable {sets : List (List UInt8)} {packed : List UInt8}

theorem packParameterSets_fits (fits : packed.length + (sizes sets).sum ≤ maxParameterSetBytes) :
    packParameterSets sets packed =
      .ok (wireSizes sets, packed ++ sets.flatten) := by
  induction sets generalizing packed with
  | nil => rw [packParameterSets, List.flatten_nil, List.append_nil]; rfl
  | cons set sets induction =>
    rw [sizes_cons, List.sum_cons] at fits
    have room : ¬ packed.length + set.length > maxParameterSetBytes := by
      omega
    have rest : (packed ++ set).length + (sizes sets).sum ≤
        maxParameterSetBytes := by
      rw [List.length_append]
      omega
    rw [packParameterSets, if_neg room, induction rest, List.flatten_cons, List.append_assoc]
    rfl

theorem packParameterSets_large (large : maxParameterSetBytes < packed.length + (sizes sets).sum)
    (started : packed.length ≤ maxParameterSetBytes) :
    packParameterSets sets packed = .error (-12902) := by
  induction sets generalizing packed with
  | nil =>
    rw [sizes_nil, List.sum_nil] at large
    omega
  | cons set sets induction =>
    rw [sizes_cons, List.sum_cons] at large
    rw [packParameterSets]
    split
    · rfl
    next room =>
      rw [induction]
      · rw [List.length_append]
        omega
      · rw [List.length_append]
        omega

/-- The list has a place in the table and in the inline data. -/
def Fits (sets : List (List UInt8)) : Prop :=
  1 ≤ sets.length ∧ sets.length ≤ maxParameterSets ∧ (sizes sets).sum ≤ maxParameterSetBytes

def packedPayload (sessionId : UInt64) (format : VideoFormat) :
    SetDecodeFormatPayload where
  sessionId := sessionId
  codec := format.codecType
  nalHeaderLength := format.nalHeaderLength.toUInt32
  parameterSetCount := UInt32.ofNat format.parameterSets.length
  parameterSetSizes := wireSizes format.parameterSets ++
    List.replicate (maxParameterSets - format.parameterSets.length) 0
  parameterSetData := format.parameterSets.flatten ++ List.replicate
      (maxParameterSetBytes - format.parameterSets.flatten.length) 0

/-- The codecs whose descriptions carry parameter sets. -/
def CarriesSets (codec : UInt32) : Prop :=
  codec = Codec.avc1 ∨ codec = Codec.hvc1

theorem expected_codec {codec : UInt32} (carries : CarriesSets codec) :
    ¬ codec ≠ if codec = Codec.hvc1 then Codec.hvc1 else Codec.avc1 := by
  rcases carries with rfl | rfl
  · decide
  · decide

variable {format : VideoFormat}

theorem pack_of_fits {sessionId : UInt64}
    (carries : CarriesSets format.codecType) (fits : Fits format.parameterSets)
    :
    vtfPackDecodeFormatPayload sessionId format.codecType format =
      .ok (packedPayload sessionId format) := by
  obtain ⟨some_sets, count, total⟩ := fits
  unfold vtfPackDecodeFormatPayload
  dsimp only
  rw [if_neg (expected_codec carries), if_neg (by omega), if_neg (by omega),
    packParameterSets_fits (by simpa using total)]
  dsimp only
  rw [length_wireSizes, List.nil_append]
  rfl

theorem fits_of_pack {sessionId : UInt64} {payload : SetDecodeFormatPayload}
    (carries : CarriesSets format.codecType)
    (packed : vtfPackDecodeFormatPayload sessionId format.codecType format =
      .ok payload) : Fits format.parameterSets := by
  unfold vtfPackDecodeFormatPayload at packed
  dsimp only at packed
  rw [if_neg (expected_codec carries)] at packed
  split at packed
  · cases packed
  split at packed
  · cases packed
  next some_sets count =>
    refine ⟨by omega, by omega, ?_⟩
    by_contra large
    rw [packParameterSets_large (by simpa using large) (Nat.zero_le _)] at packed
    cases packed

/-- The fields before the table, and the worker's view of the bytes. -/
def decodeFormatHead (payload : SetDecodeFormatPayload) (width height : UInt32) : List UInt8 :=
  u64Bytes payload.sessionId ++ (u32Bytes payload.codec ++
    (u32Bytes width ++ (u32Bytes height ++ (u32Bytes payload.nalHeaderLength ++
        (u32Bytes payload.parameterSetCount ++ u32Bytes 0)))))

theorem length_decodeFormatHead (payload : SetDecodeFormatPayload) (width height : UInt32) :
    (decodeFormatHead payload width height).length = 32 := by
  simp [decodeFormatHead, u64Bytes, u32Bytes]

theorem decodeFormatBytes_eq (payload : SetDecodeFormatPayload) (width height : UInt32) :
    decodeFormatBytes payload width height = decodeFormatHead payload width height ++
        (payload.parameterSetSizes.flatMap u32Bytes ++ payload.parameterSetData) := by
  simp only [decodeFormatBytes, decodeFormatHead, List.append_assoc]

theorem length_words (words : List UInt32) :
    (words.flatMap u32Bytes).length = words.length * 4 := by
  rw [List.length_flatMap]
  have sized : words.map (fun word => (u32Bytes word).length) = List.replicate words.length 4 := by
    simp [u32Bytes]
  rw [sized, List.sum_replicate_nat]

theorem read_decodeFormatBytes {payload : SetDecodeFormatPayload}
    (table : payload.parameterSetSizes.length = maxParameterSets)
    (data : payload.parameterSetData.length = maxParameterSetBytes)
    (width height : UInt32) :
    SetDecodeFormatPayload.read (decodeFormatBytes payload width height) =
      payload := by
  have sizes_read := u32At_table (decodeFormatHead payload width height)
    payload.parameterSetSizes payload.parameterSetData
  rw [← decodeFormatBytes_eq, length_decodeFormatHead, table] at sizes_read
  have data_read : (decodeFormatBytes payload width height).drop 48 =
      payload.parameterSetData := by
    rw [decodeFormatBytes_eq, ← List.append_assoc]
    apply List.drop_left'
    rw [List.length_append, length_decodeFormatHead, length_words, table]
    rfl
  have session_read : u64At (decodeFormatBytes payload width height) 0 =
      payload.sessionId :=
    u64At_append payload.sessionId _
  have codec_read : u32At (decodeFormatBytes payload width height) 8 =
      payload.codec := by
    simp only [decodeFormatBytes, u64Bytes, u32At]
    rw [word_skip _ _ _ (by decide)]
    exact u32At_append payload.codec _
  have nal_read : u32At (decodeFormatBytes payload width height) 20 =
      payload.nalHeaderLength := by
    simp only [decodeFormatBytes, u64Bytes, u32Bytes, u32At]
    rw [word_skip _ _ _ (by decide), word_skip _ _ _ (by decide),
      word_skip _ _ _ (by decide), word_skip _ _ _ (by decide)]
    exact u32At_append payload.nalHeaderLength _
  have count_read : u32At (decodeFormatBytes payload width height) 24 =
      payload.parameterSetCount := by
    simp only [decodeFormatBytes, u64Bytes, u32Bytes, u32At]
    rw [word_skip _ _ _ (by decide), word_skip _ _ _ (by decide),
      word_skip _ _ _ (by decide), word_skip _ _ _ (by decide),
      word_skip _ _ _ (by decide)]
    exact u32At_append payload.parameterSetCount _
  unfold SetDecodeFormatPayload.read
  rw [session_read, codec_read, nal_read, count_read, data_read, sizes_read,
    ← data, List.take_length]

section Packed

variable {format : VideoFormat} (fits : Fits format.parameterSets)
  (sessionId : UInt64)
include fits

theorem count_packedPayload :
    (packedPayload sessionId format).parameterSetCount.toNat =
      format.parameterSets.length := by
  have few := fits.2.1
  rw [maxParameterSets] at few
  exact UInt32.toNat_ofNat_of_lt' (by rw [UInt32.size]; omega)

theorem usedSizes_packedPayload :
    (packedPayload sessionId format).usedSizes =
      wireSizes format.parameterSets := by
  rw [SetDecodeFormatPayload.usedSizes, count_packedPayload fits]
  exact List.take_left' (length_wireSizes _)

theorem small_total : (sizes format.parameterSets).sum < 2 ^ 32 :=
  Nat.lt_of_le_of_lt fits.2.2 (by decide)

theorem tableFits_packedPayload : (packedPayload sessionId format).TableFits := by
  refine ⟨?_, ?_, ?_⟩
  · rw [count_packedPayload fits]
    exact fits.2.1
  · rw [usedSizes_packedPayload fits, toNat_wireSizes (small_total fits)]
    exact fits.2.2
  · intro zero
    have some_sets := fits.1
    rw [← count_packedPayload fits sessionId, zero] at some_sets
    exact absurd some_sets (by decide)

theorem description_packedPayload :
    (packedPayload sessionId format).description =
      { codec := format.codecType
        parameterSets := format.parameterSets
        nalHeaderLength := format.nalHeaderLength } := by
  have sets : VtRealBackend.cutParameterSets (packedPayload sessionId format).usedSizes
      (packedPayload sessionId format).parameterSetData =
        format.parameterSets := by
    rw [usedSizes_packedPayload fits, VtRealBackend.cutParameterSets_eq,
      toNat_wireSizes (small_total fits)]
    exact splitLengths_flatten format.parameterSets _
  rw [SetDecodeFormatPayload.description, sets]
  rfl

theorem read_packedPayload (width height : UInt32) :
    SetDecodeFormatPayload.read (decodeFormatBytes (packedPayload sessionId format) width height) =
        packedPayload sessionId format := by
  obtain ⟨-, count, total⟩ := fits
  rw [sum_sizes] at total
  apply read_decodeFormatBytes
  · simp only [packedPayload, List.length_append, length_wireSizes, List.length_replicate]
    omega
  · simp only [packedPayload, List.length_append, List.length_replicate]
    omega

theorem length_packedPayload (width height : UInt32) :
    (decodeFormatBytes (packedPayload sessionId format) width height).length =
      SetDecodeFormatPayload.size := by
  obtain ⟨-, count, total⟩ := fits
  rw [sum_sizes] at total
  rw [decodeFormatBytes_eq, List.length_append, List.length_append,
    length_decodeFormatHead, length_words, SetDecodeFormatPayload.size]
  simp only [packedPayload, List.length_append, length_wireSizes, List.length_replicate]
  rw [maxParameterSets] at count ⊢
  omega

/-- The handler stores the description of the guest, if the host makes it
and a decoder takes it. -/
theorem setDecodeFormat_packed (carries : CarriesSets format.codecType)
    {host : HostCalls} (made : host.createFormat = true)
    (decodes : host.createDecompression = true) (width height : UInt32)
    {backend : VtRealBackend} (surfaces : Surfaces)
    {session : VtRealDecodeSession}
    (known : backend.decodeSessions.lookup sessionId.toNat = some session) :
    ∃ later, (VtRealBackend.setDecodeFormat host (decodeFormatBytes
        (packedPayload sessionId format) width height) backend surfaces).status = Status.ok ∧
      (VtRealBackend.setDecodeFormat host (decodeFormatBytes
        (packedPayload sessionId format) width height) backend
          surfaces).backend.decodeSessions.lookup sessionId.toNat = some later ∧
      later.formatDescription = some
        { codec := format.codecType
          parameterSets := format.parameterSets
          nalHeaderLength := format.nalHeaderLength } := by
  have read := read_packedPayload fits sessionId width height
  have describes : VtRealBackend.Describes host (decodeFormatBytes
      (packedPayload sessionId format) width height) := by
    refine ⟨Nat.le_of_eq (length_packedPayload fits sessionId width height).symm, ?_, ?_, made⟩
    · rw [read]
      exact tableFits_packedPayload fits sessionId
    · rw [read]
      exact carries
  have named : backend.decodeSessions.lookup (SetDecodeFormatPayload.read
      (decodeFormatBytes (packedPayload sessionId format) width
        height)).sessionId.toNat = some session := by
    rw [read]
    exact known
  obtain ⟨later, found, change⟩ :=
    VtRealBackend.setDecodeFormat_change host surfaces named
  rw [read] at found
  have described := description_packedPayload fits sessionId
  generalize VtRealBackend.setDecodeFormat host (decodeFormatBytes
    (packedPayload sessionId format) width height) backend surfaces = served at found change ⊢
  obtain ⟨after, _, status, _, _, _⟩ := served
  dsimp only at found change ⊢
  cases change with
  | refused failed undisplaced unmet =>
    rcases unmet with undescribed | alone
    · exact absurd describes undescribed
    · rw [decodes] at alone
      cases alone
  | displaced displaces =>
    have alone := displaces.alone
    rw [decodes] at alone
    cases alone
  | kept describes keeps | created describes created =>
    exact ⟨_, rfl, found, by rw [read, described]⟩

end Packed

theorem explicit_sets {codec : UInt32} {nalUnitHeaderLength : Int32}
    (made : vtfFormatDescriptionFromParameterSets codec sets nalUnitHeaderLength = .ok format) :
    format.codecType = codec ∧ format.parameterSets = sets ∧
      format.nalHeaderLength = nalUnitHeaderLength := by
  unfold vtfFormatDescriptionFromParameterSets at made
  split at made
  · cases made
  split at made
  · cases made
  next count sound =>
    cases made
    simp only [List.any_eq_true, not_exists, not_and, Bool.or_eq_true,
      beq_iff_eq, decide_eq_true_eq, not_or] at sound
    have whole : min sets.length 4 = sets.length := by omega
    refine ⟨rfl, ?_, rfl⟩
    rw [vtfCreateVideoFormatDescription, whole, List.take_of_length_le]
    · rw [← List.append_nil sets.flatten]
      apply cutParameterSets_packed
      · intro set member
        have bounds := sound set member
        omega
      · intro set member empty
        exact (sound set member).1 (List.length_eq_zero_iff.mpr empty)
    · rw [List.length_map]

/-- Parameter sets reach the decoder as they are or not at all.  A list is
packed exactly if it fits; the worker then accepts its table, cuts it into the
same list with the same length of a NAL header and hands that to the host;
and whatever it is sent, it cuts inside the inline data. -/
theorem decode_sets_transferred :
    (∀ (codec : UInt32) (sets : List (List UInt8)) (nalHeaderLength : Int32) (format : VideoFormat),
      vtfFormatDescriptionFromParameterSets codec sets nalHeaderLength = .ok format →
      format.codecType = codec ∧ format.parameterSets = sets ∧
        format.nalHeaderLength = nalHeaderLength) ∧
    (∀ (format : VideoFormat) (sessionId : UInt64),
      format.codecType = Codec.avc1 ∨ format.codecType = Codec.hvc1 →
      ((∃ payload, vtfPackDecodeFormatPayload sessionId format.codecType format = .ok payload) ↔
        1 ≤ format.parameterSets.length ∧ format.parameterSets.length ≤ 4 ∧
          (format.parameterSets.map List.length).sum ≤ 128) ∧
      ∀ payload, vtfPackDecodeFormatPayload sessionId format.codecType format = .ok payload →
        ∀ width height : UInt32, SetDecodeFormatPayload.size ≤
            (decodeFormatBytes payload width height).length ∧
          (SetDecodeFormatPayload.read (decodeFormatBytes payload width height)).TableFits ∧
          (SetDecodeFormatPayload.read (decodeFormatBytes payload width
            height)).parameterSetSlices = some format.parameterSets ∧
          ∀ (host : HostCalls) (backend : VtRealBackend)
              (surfaces : Surfaces) (session : VtRealDecodeSession),
            host.createFormat = true → host.createDecompression = true →
            backend.decodeSessions.lookup sessionId.toNat = some session →
            ∃ later, (VtRealBackend.setDecodeFormat host (decodeFormatBytes payload
                width height) backend surfaces).status = Status.ok ∧
              (VtRealBackend.setDecodeFormat host (decodeFormatBytes payload width height) backend
                  surfaces).backend.decodeSessions.lookup sessionId.toNat = some later ∧
              later.formatDescription = some
                { codec := format.codecType
                  parameterSets := format.parameterSets
                  nalHeaderLength := format.nalHeaderLength }) ∧
    ∀ source : List UInt8, SetDecodeFormatPayload.size ≤ source.length →
      (SetDecodeFormatPayload.read source).TableFits →
      (SetDecodeFormatPayload.read source).parameterSetSlices = some
          (SetDecodeFormatPayload.read source).description.parameterSets := by
  refine ⟨fun _ _ _ _ => explicit_sets, fun format sessionId carries =>
    ⟨⟨?_, fun fits => ⟨_, pack_of_fits carries fits⟩⟩, ?_⟩,
    fun _ => VtRealBackend.parameterSetSlices_eq⟩
  · rintro ⟨payload, packed⟩
    exact fits_of_pack carries packed
  · intro payload packed width height
    have fits := fits_of_pack carries packed
    rw [pack_of_fits carries fits] at packed
    cases packed
    have length := length_packedPayload fits sessionId width height
    have read := read_packedPayload fits sessionId width height
    have table : (SetDecodeFormatPayload.read (decodeFormatBytes
        (packedPayload sessionId format) width height)).TableFits := by
      rw [read]
      exact tableFits_packedPayload fits sessionId
    refine ⟨Nat.le_of_eq length.symm, table, ?_, ?_⟩
    · rw [VtRealBackend.parameterSetSlices_eq (Nat.le_of_eq length.symm) table,
        read, description_packedPayload fits]
    · intro host backend surfaces session made decodes known
      exact setDecodeFormat_packed fits sessionId carries made decodes width height surfaces known

/-- Two sets from a configuration record, for a session of the worker. -/
theorem record_sets_transferred :
    ∃ payload, vtfPackDecodeFormatPayload 1 Codec.avc1
        (videoFormatDescriptionCreate Codec.avc1 16 16
          (some ([[0x67, 1, 2], [0x68, 4]], 4))) = .ok payload ∧
      (SetDecodeFormatPayload.read (decodeFormatBytes payload 16 16)).parameterSetSlices =
          some [[0x67, 1, 2], [0x68, 4]] := by
  have transferred := decode_sets_transferred.2.1 (videoFormatDescriptionCreate Codec.avc1 16 16
      (some ([[0x67, 1, 2], [0x68, 4]], 4))) 1 (.inl rfl)
  obtain ⟨payload, packed⟩ := transferred.1.mpr (by decide)
  exact ⟨payload, packed, (transferred.2 payload packed 16 16).2.2.1⟩

end ToDecoder

/-! ## From the encoder to the client -/

/-- The sets that are fetched before the first failure. -/
def leading : List (Option (List UInt8)) → List (List UInt8)
  | some set :: slots => set :: leading slots
  | _ => []

theorem leading_take (slots : List (Option (List UInt8))) (count : Nat) :
    leading (slots.take count) = (leading slots).take count := by
  induction slots generalizing count with
  | nil => simp [leading]
  | cons slot slots induction =>
    cases count with
    | zero => simp [leading]
    | succ count =>
      cases slot with
      | none => rfl
      | some set =>
        rw [List.take_succ_cons, leading, leading, List.take_succ_cons, induction]

theorem head?_leading (slots : List (Option (List UInt8))) (set : List UInt8) :
    (leading slots).head? = some set ↔ slots.head? = some (some set) := by
  cases slots with
  | nil => exact ⟨nofun, nofun⟩
  | cons slot slots =>
    cases slot with
    | none => exact ⟨nofun, nofun⟩
    | some first => simp [leading]

/-- The worker's loop packs the fetched sets that fit. -/
theorem packParameterSets_eq (slots : List (Option (List UInt8)))
    (table : List UInt32) {data : List UInt8}
    (started : data.length ≤ maxParameterSetBytes) :
    VtFerry.packParameterSets slots table data =
      (table ++ wireSizes (within (maxParameterSetBytes - data.length) (leading slots)),
        data ++ (within (maxParameterSetBytes - data.length) (leading slots)).flatten) := by
  induction slots generalizing table data with
  | nil => simp [VtFerry.packParameterSets, leading, within, wireSizes]
  | cons slot slots induction =>
    cases slot with
    | none => simp [VtFerry.packParameterSets, leading, within, wireSizes]
    | some set =>
      rw [VtFerry.packParameterSets, leading, within]
      by_cases fits : set.length ≤ maxParameterSetBytes - data.length
      · have room : ¬ data.length + set.length > maxParameterSetBytes := by
          omega
        have more : (data ++ set).length ≤ maxParameterSetBytes := by
          rw [List.length_append]
          omega
        rw [if_neg room, if_pos fits, induction _ more, List.length_append,
          Nat.sub_add_eq, List.flatten_cons, List.append_assoc,
          List.append_assoc]
        rfl
      · have large : data.length + set.length > maxParameterSetBytes := by
          omega
        rw [if_pos large, if_neg fits]
        simp [wireSizes]

/-- The fields of a reply before the count of its sets. -/
def outputHead (reply : DequeueOutputReply) : List UInt8 :=
  idBytes reply.sessionId ++ idBytes reply.outputId ++ u32Bytes reply.codec ++
    u32Bytes reply.width ++ u32Bytes reply.height ++
    u32Bytes reply.pixelFormat ++ i64Bytes reply.timing.ptsValue ++
    i32Bytes reply.timing.ptsTimescale ++
    i32Bytes reply.timing.durationTimescale ++
    i64Bytes reply.timing.durationValue ++ u32Bytes reply.sampleSize ++
    u32Bytes reply.sampleFlags

theorem length_outputHead (reply : DequeueOutputReply) : (outputHead reply).length = 64 := by
  simp [outputHead, u32Bytes, i32Bytes, u64Bytes, i64Bytes]

theorem zero_words (count : Nat) :
    (List.replicate count (0 : UInt32)).flatMap u32Bytes =
      List.replicate (count * 4) 0 := by
  induction count with
  | zero => rfl
  | succ count induction =>
    rw [List.replicate_succ, List.flatMap_cons, induction, Nat.succ_mul,
      Nat.add_comm, List.replicate_add]
    rfl

theorem table_bytes {words : List UInt32} (count : words.length ≤ maxParameterSets) :
    arrayBytes (4 * maxParameterSets) (words.flatMap u32Bytes) =
      (words ++ List.replicate (maxParameterSets - words.length) 0).flatMap
        u32Bytes := by
  rw [List.flatMap_append, zero_words, arrayBytes, length_words, List.take_of_length_le]
  · congr 2
    omega
  · rw [length_words]
    omega

section FromEncoder

variable {reply : DequeueOutputReply} {sets : List (List UInt8)}

theorem bytes_of_sets (table : reply.parameterSetSizes = wireSizes sets)
    (count : sets.length ≤ maxParameterSets) (later : List UInt8) :
    reply.bytes ++ later = (outputHead reply ++ sizeBytes sets.length ++
        u32Bytes reply.nalHeaderLength) ++
      ((wireSizes sets ++ List.replicate (maxParameterSets - sets.length) 0).flatMap u32Bytes ++
          (arrayBytes maxParameterSetBytes reply.parameterSetData ++
            (unusedBytes 16 ++ later))) := by
  have words : arrayBytes (4 * maxParameterSets) ((wireSizes sets).flatMap u32Bytes) =
        (wireSizes sets ++ List.replicate (maxParameterSets -
          (wireSizes sets).length) 0).flatMap u32Bytes :=
    table_bytes (by simpa using count)
  rw [length_wireSizes] at words
  rw [← words, DequeueOutputReply.bytes, table, length_wireSizes]
  simp only [outputHead, List.append_assoc]

/-- The description the guest builds for an output, from its reply and what
follows it in a batch. -/
def deliveredFormat (reply : DequeueOutputReply) (codecType : UInt32)
    (later : List UInt8) : VideoFormat :=
  (DequeuedOutput.read (reply.bytes ++ later)).format codecType

/-- The guest's description has the sets a reply carries. -/
theorem format_of_sets (reply : DequeueOutputReply)
    (table : reply.parameterSetSizes = wireSizes sets)
    (data : reply.parameterSetData = sets.flatten)
    (count : sets.length ≤ maxParameterSets)
    (total : (sizes sets).sum ≤ maxParameterSetBytes)
    (some_bytes : ∀ set ∈ sets, set ≠ []) (codecType : UInt32)
    (later : List UInt8) :
    (deliveredFormat reply codecType later).parameterSets = sets := by
  have bytes := bytes_of_sets table count later
  have head : (outputHead reply ++ sizeBytes sets.length ++
      u32Bytes reply.nalHeaderLength).length = 72 := by
    simp [length_outputHead, u32Bytes]
  have sizes_read := u32At_table (outputHead reply ++ sizeBytes sets.length ++
    u32Bytes reply.nalHeaderLength) (wireSizes sets ++
      List.replicate (maxParameterSets - sets.length) 0)
    (arrayBytes maxParameterSetBytes reply.parameterSetData ++ (unusedBytes 16 ++ later))
  have width : (wireSizes sets ++
      List.replicate (maxParameterSets - sets.length) (0 : UInt32)).length =
        maxParameterSets := by
    rw [List.length_append, length_wireSizes, List.length_replicate]
    omega
  rw [← bytes, head, width] at sizes_read
  have count_read : (u32At (reply.bytes ++ later) 64).toNat =
      sets.length := by
    rw [maxParameterSets] at count
    rw [bytes, List.append_assoc, List.append_assoc, u32At,
      ← length_outputHead reply, ← Nat.add_zero (outputHead reply).length,
      word_append_right, sizeBytes, word_encode_append, UInt32.toNat_ofNat']
    omega
  have data_read : ((reply.bytes ++ later).drop 88).take maxParameterSetBytes =
      sets.flatten ++ List.replicate (maxParameterSetBytes - sets.flatten.length) 0 := by
    rw [sum_sizes] at total
    rw [bytes, ← List.append_assoc, List.drop_left', List.take_left', data,
      arrayBytes, List.take_of_length_le total]
    · exact length_arrayBytes _ _
    · rw [List.length_append, head, length_words, width]
      rfl
  have few : min sets.length 4 = sets.length := Nat.min_eq_left count
  unfold deliveredFormat DequeuedOutput.format DequeuedOutput.read
  dsimp only
  rw [sizes_read, count_read, few, data_read, List.take_left' (length_wireSizes sets)]
  apply cutParameterSets_packed
  · intro set member
    have part := Nat.le_trans (length_le_sum member) total
    exact Nat.lt_of_le_of_lt part (by decide)
  · exact some_bytes

/-- What the worker's reply carries of a sample's parameter sets. -/
theorem compressionOutput_sets {context : SessionCallbackContext}
    {frame : FrameContext} {sample : EncodedSample} {output : VtRealOutput}
    {format : FormatParameterSets}
    (made : compressionOutput context frame sample = some output)
    (carries : CarriesSets context.codec)
    (described : sample.format = some format) :
    ∃ sets, output.reply.parameterSetSizes = wireSizes sets ∧
      output.reply.parameterSetData = sets.flatten ∧
      sets = if format.probeStatus = 0 then
        within maxParameterSetBytes ((leading format.sets).take maxParameterSets) else [] := by
  have bound : ([] : List UInt8).length ≤ maxParameterSetBytes :=
    Nat.zero_le _
  have packed := packParameterSets_eq (format.sets.take maxParameterSets) [] bound
  rw [leading_take, List.nil_append, List.nil_append, List.length_nil, Nat.sub_zero] at packed
  unfold compressionOutput at made
  split at made
  · cases made
  split at made
  · cases made
  split at made
  · cases made
  · have codec : context.codec = Codec.avc1 ∨ context.codec = Codec.hvc1 := carries
    rw [if_pos codec, described] at made
    by_cases probed : format.probeStatus = 0
    · rw [Option.filter_some_pos (by simpa using probed)] at made
      cases made
      dsimp only
      rw [packed, if_pos probed]
      exact ⟨_, rfl, rfl, rfl⟩
    · rw [Option.filter_some_neg (by simpa using probed)] at made
      cases made
      rw [if_neg probed]
      exact ⟨[], rfl, rfl, rfl⟩

/-- What the host answers when it is asked for each of the sets: the set, or
a failure. -/
def Answers (slots : List (Option (List UInt8))) (sets : List (List UInt8)) : Prop :=
  List.Forall₂ (fun slot set => slot = none ∨ slot = some set) slots sets

variable {slots : List (Option (List UInt8))}

theorem Answers.leading_isPrefix (answers : Answers slots sets) : leading slots <+: sets := by
  induction answers with
  | nil => exact List.prefix_rfl
  | cons answer _ induction =>
    rcases answer with rfl | rfl
    · exact List.nil_prefix
    · exact List.cons_prefix_cons.mpr ⟨rfl, induction⟩

theorem Answers.leading_eq (answers : Answers slots sets) :
    leading slots = sets ↔ slots = sets.map some := by
  induction answers with
  | nil => exact ⟨fun _ => rfl, fun _ => rfl⟩
  | cons answer _ induction =>
    rcases answer with rfl | rfl
    · exact ⟨nofun, nofun⟩
    · rw [leading, List.map_cons, List.cons_inj_right, List.cons_inj_right, induction]

theorem packed_whole_iff (answers : Answers slots sets) :
    (within maxParameterSetBytes ((leading slots).take maxParameterSets) = sets ∨
        within maxParameterSetBytes ((leading slots).take maxParameterSets) = []) ↔
      (slots = sets.map some ∧ sets.length ≤ maxParameterSets ∧
          (sizes sets).sum ≤ maxParameterSetBytes) ∨
        ∀ set, slots.head? = some (some set) → maxParameterSetBytes < set.length := by
  apply or_congr
  · constructor
    · intro whole
      have fits := within_isPrefix maxParameterSetBytes ((leading slots).take maxParameterSets)
      rw [whole] at fits
      have taken := List.take_prefix maxParameterSets (leading slots)
      have fetched : leading slots = sets :=
        answers.leading_isPrefix.eq_of_length_le (fits.trans taken).length_le
      have few := fits.length_le
      rw [fetched, List.length_take] at few
      have count : sets.length ≤ maxParameterSets := by omega
      rw [fetched, List.take_of_length_le count, within_eq_self] at whole
      exact ⟨answers.leading_eq.mp fetched, count, whole⟩
    · rintro ⟨fetched, count, total⟩
      rw [answers.leading_eq.mpr fetched, List.take_of_length_le count]
      exact within_eq_self.mpr total
  · rw [within_eq_nil]
    apply forall_congr'
    intro set
    rw [List.head?_take, if_neg (by decide), head?_leading]

/-- The client gets all parameter sets of a sample or none, exactly if the
host answers for all of them and they fit, or the first one is already missing
or too large. -/
theorem delivered_sets_whole_iff {context : SessionCallbackContext}
    {frame : FrameContext} {sample : EncodedSample} {output : VtRealOutput}
    {format : FormatParameterSets} {sets : List (List UInt8)}
    (made : compressionOutput context frame sample = some output)
    (carries : context.codec = Codec.avc1 ∨ context.codec = Codec.hvc1)
    (described : sample.format = some format)
    (answers : Answers format.sets sets) (some_bytes : ∀ set ∈ sets, set ≠ [])
    (outputId : Nat) (codecType : UInt32) (later : List UInt8) :
    ((deliveredFormat { output.reply with outputId := outputId } codecType
          later).parameterSets = sets ∨
        (deliveredFormat { output.reply with outputId := outputId } codecType
          later).parameterSets = []) ↔
      format.probeStatus ≠ 0 ∨ (format.sets = sets.map some ∧ sets.length ≤ 4 ∧
          (sets.map List.length).sum ≤ 128) ∨
        ∀ set, format.sets.head? = some (some set) → 128 < set.length := by
  obtain ⟨carried, table, data, carried_eq⟩ :=
    compressionOutput_sets made carries described
  have prefix_of : carried <+: sets := by
    rw [carried_eq]
    split
    · have taken := List.take_prefix maxParameterSets (leading format.sets)
      exact (within_isPrefix _ _).trans (taken.trans answers.leading_isPrefix)
    · exact List.nil_prefix
  have fits : carried.length ≤ maxParameterSets ∧ (sizes carried).sum ≤ maxParameterSetBytes := by
    rw [carried_eq]
    split
    · have part := (within_isPrefix maxParameterSetBytes
        ((leading format.sets).take maxParameterSets)).length_le
      rw [List.length_take] at part
      exact ⟨by omega, sum_within_le _ _⟩
    · exact ⟨Nat.zero_le _, Nat.zero_le _⟩
  have delivered : (deliveredFormat { output.reply with
      outputId := outputId } codecType later).parameterSets = carried :=
    format_of_sets { output.reply with outputId := outputId } table data
      fits.1 fits.2 (fun set member => some_bytes set (prefix_of.subset member)) codecType
      later
  rw [delivered, carried_eq]
  by_cases probed : format.probeStatus = 0
  · rw [if_pos probed, packed_whole_iff answers]
    constructor
    · exact .inr
    · exact fun whole => whole.resolve_left (not_not.mpr probed)
  · rw [if_neg probed]
    exact ⟨fun _ => .inl probed, fun _ => .inr rfl⟩

def hevcContext : SessionCallbackContext where
  sessionId := 1
  codec := Codec.hvc1
  width := 16
  height := 16
  pixelFormat := PixelFormat.bgra

def describedSample (sets : List (Option (List UInt8))) : EncodedSample where
  status := 0
  data := some [1]
  timing := ⟨0, 1, 0, 1⟩
  format := some ⟨0, 4, sets⟩
  sync := true

/-- Three sets that fit are delivered. -/
theorem three_sets_delivered :
    ∃ output, compressionOutput hevcContext ⟨1, 1⟩
        (describedSample [some [64], some [66], some [68]]) = some output ∧
      ((deliveredFormat { output.reply with outputId := 5 } 0
          []).parameterSets = [[64], [66], [68]] ∨
        (deliveredFormat { output.reply with outputId := 5 } 0 []).parameterSets = []) := by
  have answers : Answers [some [64], some [66], some [68]] [[64], [66], [68]] :=
    .cons (.inr rfl) (.cons (.inr rfl) (.cons (.inr rfl) .nil))
  have described : (describedSample [some [64], some [66],
      some [68]]).format = some ⟨0, 4, [some [64], some [66], some [68]]⟩ :=
    rfl
  refine ⟨_, rfl, (delivered_sets_whole_iff rfl (.inr rfl) described answers
    (by decide) 5 0 []).mpr ?_⟩
  exact .inr (.inl ⟨rfl, by decide, by decide⟩)

/-- Of a small set, a large one and a small one, the first is delivered. -/
theorem large_set_truncates_list :
    ∃ output, compressionOutput hevcContext ⟨1, 1⟩
        (describedSample [some [64], some (List.replicate 128 66), some [68]]) = some output ∧
      (deliveredFormat { output.reply with outputId := 5 } 0 []).parameterSets = [[64]] :=
  ⟨_, rfl, by decide +kernel⟩

end FromEncoder

end Shim

end VtFerry
