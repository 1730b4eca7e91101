import JLinkMcp.CodecBytes
import JLinkMcp.CodecCrc
import JLinkMcp.HostCobs

namespace JLinkMcp.Host

open Codec

def maxBridgePayload : Nat := 64 * 1024
def maxApplicationPayload : Nat := 64000
def maxTransportFrame : Nat := 4096
def bridgeWireVersion : Int := 1

def magic : Bytes := [0x4A, 0x4C, 0x50, 0x42]
def headerWithoutCrcSize : Nat := 16
def headerSize : Nat := 20
def maxSegmentPayload : Nat := maxTransportFrame - headerSize
def maxCobsFrame : Nat := maxTransportFrame + maxTransportFrame / 254 + 2

inductive MessageType where
  | request
  | response
  | error
  deriving DecidableEq, Repr

def MessageType.value : MessageType → Nat
  | .request => 1
  | .response => 2
  | .error => 3

/-- `MessageType(value)`; `none` is its `ValueError`. -/
def MessageType.ofValue? : Nat → Option MessageType
  | 1 => some .request
  | 2 => some .response
  | 3 => some .error
  | _ => none

structure WireFrame where
  messageType : MessageType
  requestId : Int
  segmentIndex : Int
  segmentCount : Int
  payload : Bytes
  wireVersion : Int := bridgeWireVersion
  deriving DecidableEq, Repr

/-- `zlib.crc32`: the reflected CRC-32 of polynomial 0xEDB88320. -/
def crc32 (data : Bytes) : Nat := (crcFrom 0xEDB88320 0 data).toNat

/-- `struct.Struct("<4sBBIHHH").pack`, on values its formats can hold -/
def packHeaderWithoutCrc (version messageType requestId segmentIndex segmentCount
    payloadLength : Nat) : Bytes :=
  magic ++ leBytes 1 version ++ leBytes 1 messageType ++ leBytes 4 requestId ++
    leBytes 2 segmentIndex ++ leBytes 2 segmentCount ++ leBytes 2 payloadLength

/-- The frame before stuffing: header, check and payload. -/
def rawFrame (frame : WireFrame) : Bytes :=
  let pre := packHeaderWithoutCrc frame.wireVersion.toNat frame.messageType.value
    frame.requestId.toNat frame.segmentIndex.toNat frame.segmentCount.toNat frame.payload.length
  pre ++ leBytes 4 (crc32 (pre ++ frame.payload)) ++ frame.payload

def encodeFrame (frame : WireFrame) : Except PyError Bytes :=
  if frame.wireVersion ≠ bridgeWireVersion then
    .error (.bridgeWire "unsupported bridge wire version")
  else if ¬(0 ≤ frame.requestId ∧ frame.requestId ≤ 0xFFFFFFFF) then
    .error (.bridgeWire "request ID is outside uint32")
  else if ¬(0 ≤ frame.segmentIndex ∧ frame.segmentIndex < frame.segmentCount ∧
      frame.segmentCount ≤ 0xFFFF) then
    .error (.bridgeSequence "invalid segment index/count")
  else if frame.payload.length > maxSegmentPayload then
    .error (.bridgeWire "segment exceeds decoded transport frame limit")
  else if (rawFrame frame).length > maxTransportFrame then
    .error (.bridgeWire "decoded frame exceeds transport limit")
  else .ok (cobsEncode (rawFrame frame) ++ [0])

/-- `_HEADER.unpack_from` on at least 20 bytes -/
structure UnpackedHeader where
  magic : Bytes
  version : Nat
  messageType : Nat
  requestId : Nat
  segmentIndex : Nat
  segmentCount : Nat
  payloadLength : Nat
  expectedCrc : Nat
  deriving DecidableEq, Repr

def unpackHeader (decoded : Bytes) : UnpackedHeader where
  magic := decoded.take 4
  version := leNat ((decoded.drop 4).take 1)
  messageType := leNat ((decoded.drop 5).take 1)
  requestId := leNat ((decoded.drop 6).take 4)
  segmentIndex := leNat ((decoded.drop 10).take 2)
  segmentCount := leNat ((decoded.drop 12).take 2)
  payloadLength := leNat ((decoded.drop 14).take 2)
  expectedCrc := leNat ((decoded.drop 16).take 4)

/-- What `decode_frame` does with the unstuffed bytes. -/
def decodeRawFrame (decoded : Bytes) : Except PyError WireFrame :=
  if decoded.length < headerSize then
    .error (.bridgeWire "decoded frame is shorter than its header")
  else
    let header := unpackHeader decoded
    let payload := decoded.drop headerSize
    let actualCrc := crc32 (decoded.take headerWithoutCrcSize ++ payload)
    if header.magic ≠ magic then .error (.bridgeWire "bridge frame magic mismatch")
    else if (header.version : Int) ≠ bridgeWireVersion then
      .error (.bridgeWire s!"unsupported bridge wire version: {header.version}")
    else if decoded.length ≠ headerSize + header.payloadLength then
      .error (.bridgeWire "bridge payload length mismatch")
    else if ¬(0 ≤ header.segmentIndex ∧ header.segmentIndex < header.segmentCount) then
      .error (.bridgeSequence "invalid segment index/count")
    else if actualCrc ≠ header.expectedCrc then
      .error (.bridgeCrc ("bridge CRC mismatch: expected 0x" ++ hex8 header.expectedCrc ++
        ", got 0x" ++ hex8 actualCrc))
    else
      match MessageType.ofValue? header.messageType with
      | none => .error (.bridgeWire s!"unknown bridge message type: {header.messageType}")
      | some kind => .ok
          { messageType := kind
            requestId := header.requestId
            segmentIndex := header.segmentIndex
            segmentCount := header.segmentCount
            payload := payload
            wireVersion := header.version }

def decodeFrame (encoded : Bytes) : Except PyError WireFrame :=
  let encoded := if encoded.getLast? = some 0 then encoded.dropLast else encoded
  if encoded.length > maxCobsFrame then
    .error (.bridgeWire "encoded frame exceeds transport limit")
  else (cobsDecode encoded).bind decodeRawFrame

/-- The frames `encode_frame` accepts. -/
structure WireFrame.Encodable (frame : WireFrame) : Prop where
  version : frame.wireVersion = bridgeWireVersion
  id_nonneg : 0 ≤ frame.requestId
  id_le : frame.requestId ≤ 0xFFFFFFFF
  index_nonneg : 0 ≤ frame.segmentIndex
  index_lt : frame.segmentIndex < frame.segmentCount
  count_le : frame.segmentCount ≤ 0xFFFF
  payload_le : frame.payload.length ≤ maxSegmentPayload

@[simp] theorem packHeaderWithoutCrc_length (version messageType requestId segmentIndex
    segmentCount payloadLength : Nat) :
    (packHeaderWithoutCrc version messageType requestId segmentIndex segmentCount
      payloadLength).length = headerWithoutCrcSize := by
  simp [packHeaderWithoutCrc, magic, headerWithoutCrcSize]

theorem rawFrame_length (frame : WireFrame) :
    (rawFrame frame).length = headerSize + frame.payload.length := by
  simp only [rawFrame, headerWithoutCrcSize, headerSize, packHeaderWithoutCrc_length,
    List.length_append, leBytes_length]

theorem encodeFrame_of_encodable {frame : WireFrame} (h : frame.Encodable) :
    encodeFrame frame = .ok (stuff (rawFrame frame) ++ [0]) := by
  have hp := h.payload_le
  have hl : (rawFrame frame).length ≤ maxTransportFrame := by
    rw [rawFrame_length]
    simp only [maxSegmentPayload, maxTransportFrame, headerSize] at *
    omega
  simp only [encodeFrame, h.version, h.id_nonneg, h.id_le, h.index_nonneg, h.index_lt, h.count_le,
    cobsEncode_eq_stuff, ne_eq, not_true_eq_false, if_false, and_self]
  rw [if_neg (by omega), if_neg (by omega)]

theorem encodeFrame_ok {frame : WireFrame} {bytes : Bytes} (h : encodeFrame frame = .ok bytes) :
    frame.Encodable ∧ bytes = stuff (rawFrame frame) ++ [0] := by
  have he : frame.Encodable := by
    unfold encodeFrame at h
    split at h
    next => simp at h
    next hv =>
      split at h
      next => simp at h
      next hid =>
        split at h
        next => simp at h
        next hseg =>
          split at h
          next => simp at h
          next hp =>
            simp only [Classical.not_not, ne_eq, Nat.not_lt, gt_iff_lt] at *
            exact ⟨hv, hid.1, hid.2, hseg.1, hseg.2.1, hseg.2.2, hp⟩
  rw [encodeFrame_of_encodable he] at h
  exact ⟨he, (Except.ok.inj h).symm⟩

theorem crc32_lt (data : Bytes) : crc32 data < 256 ^ 4 := (crcFrom 0xEDB88320 0 data).toNat_lt

theorem MessageType.value_lt (t : MessageType) : t.value < 256 := by
  cases t <;> decide

@[simp] theorem MessageType.ofValue?_value (t : MessageType) : ofValue? t.value = some t := by
  cases t <;> rfl

/-- Reading a packed header back, field by field. -/
theorem unpackHeader_pack {version messageType requestId segmentIndex segmentCount payloadLength
    crc : Nat} (hv : version < 256) (ht : messageType < 256) (hr : requestId < 256 ^ 4)
    (hi : segmentIndex < 256 ^ 2) (hc : segmentCount < 256 ^ 2) (hp : payloadLength < 256 ^ 2)
    (hk : crc < 256 ^ 4) (payload : Bytes) :
    unpackHeader (packHeaderWithoutCrc version messageType requestId segmentIndex segmentCount
      payloadLength ++ leBytes 4 crc ++ payload) =
      ⟨magic, version, messageType, requestId, segmentIndex, segmentCount, payloadLength, crc⟩ := by
  have hv' := @leNat_leBytes_of_lt 1 _ (by simpa using hv)
  have ht' := @leNat_leBytes_of_lt 1 _ (by simpa using ht)
  have hr' := @leNat_leBytes_of_lt 4 _ hr
  have hi' := @leNat_leBytes_of_lt 2 _ hi
  have hc' := @leNat_leBytes_of_lt 2 _ hc
  have hp' := @leNat_leBytes_of_lt 2 _ hp
  have hk' := @leNat_leBytes_of_lt 4 _ hk
  simp only [leBytes] at hv' ht' hr' hi' hc' hp' hk'
  simp [unpackHeader, packHeaderWithoutCrc, magic, leBytes, hv', ht', hr', hi', hc', hp', hk']

/-- The frames whose fields the header can hold. -/
structure WireFrame.Packable (frame : WireFrame) : Prop where
  version : frame.wireVersion = bridgeWireVersion
  id_nonneg : 0 ≤ frame.requestId
  id_le : frame.requestId ≤ 0xFFFFFFFF
  index_nonneg : 0 ≤ frame.segmentIndex
  index_lt : frame.segmentIndex < frame.segmentCount
  count_le : frame.segmentCount ≤ 0xFFFF
  payload_le : frame.payload.length ≤ 0xFFFF

theorem WireFrame.Encodable.packable {frame : WireFrame} (h : frame.Encodable) : frame.Packable := by
  have hp := h.payload_le
  simp only [maxSegmentPayload, maxTransportFrame, headerSize] at hp
  exact ⟨h.version, h.id_nonneg, h.id_le, h.index_nonneg, h.index_lt, h.count_le, by omega⟩

theorem unpackHeader_of_packable {frame : WireFrame} (h : frame.Packable) :
    unpackHeader (rawFrame frame) =
      ⟨magic, frame.wireVersion.toNat, frame.messageType.value, frame.requestId.toNat,
        frame.segmentIndex.toNat, frame.segmentCount.toNat, frame.payload.length,
        crc32 ((rawFrame frame).take headerWithoutCrcSize ++ frame.payload)⟩ := by
  have hid := h.id_le
  have hi := h.index_lt
  have hc := h.count_le
  have hp := h.payload_le
  have hv := h.version
  simp only [bridgeWireVersion] at hv
  have take : (rawFrame frame).take headerWithoutCrcSize =
      packHeaderWithoutCrc frame.wireVersion.toNat frame.messageType.value frame.requestId.toNat
        frame.segmentIndex.toNat frame.segmentCount.toNat frame.payload.length := by
    rw [rawFrame, List.append_assoc, List.take_left' (by simp)]
  rw [take]
  exact unpackHeader_pack (by omega) frame.messageType.value_lt (by omega) (by omega) (by omega)
    (by omega) (crc32_lt _) _

theorem unpackHeader_rawFrame {frame : WireFrame} (h : frame.Encodable) :
    unpackHeader (rawFrame frame) =
      ⟨magic, frame.wireVersion.toNat, frame.messageType.value, frame.requestId.toNat,
        frame.segmentIndex.toNat, frame.segmentCount.toNat, frame.payload.length,
        crc32 ((rawFrame frame).take headerWithoutCrcSize ++ frame.payload)⟩ :=
  unpackHeader_of_packable h.packable

theorem rawFrame_drop (frame : WireFrame) : (rawFrame frame).drop headerSize = frame.payload := by
  rw [rawFrame, List.drop_left' (by simp [headerWithoutCrcSize, headerSize])]

theorem decodeRawFrame_of_packable {frame : WireFrame} (h : frame.Packable) :
    decodeRawFrame (rawFrame frame) = .ok frame := by
  have hl := rawFrame_length frame
  have hi := h.index_lt
  have hi0 := h.index_nonneg
  have hid0 := h.id_nonneg
  have hv := h.version
  unfold decodeRawFrame
  rw [if_neg (by omega)]
  simp only [unpackHeader_of_packable h, rawFrame_drop]
  have hver : ((frame.wireVersion.toNat : Nat) : Int) = bridgeWireVersion := by
    simp [hv, bridgeWireVersion]
  have hseg : frame.segmentIndex.toNat < frame.segmentCount.toNat := by omega
  simp only [ne_eq, not_true_eq_false, if_false, hver, hl, hseg, Nat.zero_le, and_self,
    MessageType.ofValue?_value]
  obtain ⟨t, r, i, c, p, v⟩ := frame
  simp only at *
  simp [Int.toNat_of_nonneg hid0, Int.toNat_of_nonneg hi0,
    Int.toNat_of_nonneg (show 0 ≤ c by omega), hv]

theorem decodeRawFrame_rawFrame {frame : WireFrame} (h : frame.Encodable) :
    decodeRawFrame (rawFrame frame) = .ok frame := decodeRawFrame_of_packable h.packable

theorem stuff_rawFrame_length_le {frame : WireFrame} (h : frame.Encodable) :
    (stuff (rawFrame frame)).length ≤ maxTransportFrame + maxTransportFrame / 254 + 1 := by
  have hs := stuff_length_le (rawFrame frame)
  have hp := h.payload_le
  rw [rawFrame_length] at hs
  simp only [maxSegmentPayload, maxTransportFrame, headerSize] at *
  omega

/-- Every frame that can be encoded is decoded to itself. -/
theorem decodeFrame_stuff {frame : WireFrame} (h : frame.Encodable) :
    decodeFrame (stuff (rawFrame frame)) = .ok frame := by
  have free := zero_not_mem_stuff (rawFrame frame)
  have last : (stuff (rawFrame frame)).getLast? ≠ some 0 :=
    fun hl => free (List.mem_of_getLast? hl)
  have hlen := stuff_rawFrame_length_le h
  have hd := cobsDecode_cobsEncode (rawFrame frame)
  rw [cobsEncode_eq_stuff] at hd
  unfold decodeFrame
  rw [if_neg last, if_neg (by simp only [maxCobsFrame]; omega), hd, Except.ok_bind,
    decodeRawFrame_rawFrame h]

end JLinkMcp.Host
