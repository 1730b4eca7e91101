import JLinkMcp.FirmwareDelivery

namespace JLinkMcp.Host

open Codec

section raw

variable {decoded : Bytes} {frame : WireFrame} {i : Nat} {value : UInt8}

/-- What the check of a frame covers: the header before it, and the payload. -/
def checkedBytes (decoded : Bytes) : Bytes := decoded.take headerWithoutCrcSize ++ decoded.drop headerSize

/-- What `decode_frame` has checked of the bytes of a frame. -/
structure Decodes (decoded : Bytes) (frame : WireFrame) : Prop where
  long : headerSize ≤ decoded.length
  magic : (unpackHeader decoded).magic = Host.magic
  version : ((unpackHeader decoded).version : Int) = bridgeWireVersion
  length : decoded.length = headerSize + (unpackHeader decoded).payloadLength
  index : (unpackHeader decoded).segmentIndex < (unpackHeader decoded).segmentCount
  crc : crc32 (checkedBytes decoded) = (unpackHeader decoded).expectedCrc
  kind : MessageType.ofValue? (unpackHeader decoded).messageType = some frame.messageType
  requestId : frame.requestId = (unpackHeader decoded).requestId
  segmentIndex : frame.segmentIndex = (unpackHeader decoded).segmentIndex
  segmentCount : frame.segmentCount = (unpackHeader decoded).segmentCount
  payload : frame.payload = decoded.drop headerSize
  wireVersion : frame.wireVersion = bridgeWireVersion

theorem decodes_of_decodeRawFrame (h : decodeRawFrame decoded = .ok frame) : Decodes decoded frame := by
  rw [decodeRawFrame] at h
  split at h
  next => cases h
  next hlong =>
    dsimp only at h
    split at h
    next => cases h
    next hmagic =>
      split at h
      next => cases h
      next hversion =>
        split at h
        next => cases h
        next hlength =>
          split at h
          next => cases h
          next hindex =>
            split at h
            next => cases h
            next hcrc =>
              split at h
              next => cases h
              next kind hkind =>
                cases Except.ok.inj h
                exact ⟨Nat.le_of_not_lt hlong, Classical.not_not.mp hmagic, Classical.not_not.mp hversion,
                  Classical.not_not.mp hlength, (Classical.not_not.mp hindex).2, Classical.not_not.mp hcrc, hkind,
                  rfl, rfl, rfl, rfl, Classical.not_not.mp hversion⟩

theorem isWire_of_decodeRawFrame {error : PyError} (h : decodeRawFrame decoded = .error error) :
    error.isWire = true := by
  rw [decodeRawFrame] at h
  split at h
  next =>
    cases Except.error.inj h
    rfl
  next =>
    dsimp only at h
    repeat' split at h
    all_goals
      cases h
      try rfl

theorem leNat_inj {xs ys : Bytes} (hlength : xs.length = ys.length) (h : leNat xs = leNat ys) : xs = ys := by
  rw [← leBytes_leNat xs, ← leBytes_leNat ys, hlength, h]

theorem crc32_set_ne {bytes : Bytes} (changed : bytes.set i value ≠ bytes) :
    crc32 (bytes.set i value) ≠ crc32 bytes := by
  intro h
  have htop : (0xEDB88320 : UInt32).toNat.testBit 31 = true := by decide
  exact crcFrom_set_ne htop changed (UInt32.toNat_inj.mp h)

/-- A change in one place is a change of one part. -/
theorem set_append_cases {first second : Bytes} (changed : (first ++ second).set i value ≠ first ++ second) :
    (first.set i value ≠ first ∧ (first ++ second).set i value = first.set i value ++ second) ∨
      ∃ j, second.set j value ≠ second ∧ (first ++ second).set i value = first ++ second.set j value := by
  rw [List.set_append] at changed ⊢
  split at changed
  next hfirst =>
    rw [if_pos hfirst]
    exact Or.inl ⟨fun h => changed (by rw [h]), rfl⟩
  next hsecond =>
    rw [if_neg hsecond]
    exact Or.inr ⟨_, fun h => changed (by rw [h]), rfl⟩

/-- The bytes of a frame in the parts that its check tells apart. -/
theorem checkedBytes_parts {head check : Bytes} (payload : Bytes) (hhead : head.length = 16)
    (hcheck : check.length = 4) :
    checkedBytes (head ++ (check ++ payload)) = head ++ payload ∧
      (unpackHeader (head ++ (check ++ payload))).expectedCrc = leNat check := by
  have hdrop : (head ++ (check ++ payload)).drop 16 = check ++ payload := List.drop_left' hhead
  constructor
  · have hpayload : (head ++ (check ++ payload)).drop 20 = payload := by
      have hstep : (head ++ (check ++ payload)).drop 20 = ((head ++ (check ++ payload)).drop 16).drop 4 := by
        rw [List.drop_drop]
      rw [hstep, hdrop]
      exact List.drop_left' hcheck
    rw [checkedBytes, headerWithoutCrcSize, headerSize, hpayload, List.take_left' hhead]
  · have hfield : (unpackHeader (head ++ (check ++ payload))).expectedCrc =
        leNat (((head ++ (check ++ payload)).drop 16).take 4) := rfl
    rw [hfield, hdrop, List.take_left' hcheck]

/-- After a change of one byte the check is that of other bytes, or it is another one. -/
theorem crc_set_ne (long : headerSize ≤ decoded.length)
    (h : crc32 (checkedBytes decoded) = (unpackHeader decoded).expectedCrc)
    (changed : decoded.set i value ≠ decoded) :
    crc32 (checkedBytes (decoded.set i value)) ≠ (unpackHeader (decoded.set i value)).expectedCrc := by
  obtain ⟨head, check, payload, rfl, hhead, hcheck⟩ : ∃ head check payload, decoded = head ++ (check ++ payload) ∧
      head.length = 16 ∧ check.length = 4 := by
    refine ⟨decoded.take 16, (decoded.drop 16).take 4, (decoded.drop 16).drop 4, ?_, ?_, ?_⟩
    · rw [List.take_append_drop, List.take_append_drop]
    · exact List.length_take_of_le (Nat.le_trans (by decide) long)
    · rw [List.length_take, List.length_drop]
      simp only [headerSize] at long
      omega
  obtain ⟨hbytes, hfield⟩ := checkedBytes_parts payload hhead hcheck
  rw [hbytes, hfield] at h
  rcases set_append_cases changed with ⟨hchanged, hset⟩ | ⟨j, hchanged, hset⟩
  · -- in the header before the check
    have hlength : (head.set i value).length = 16 := List.length_set.trans hhead
    obtain ⟨hbytes', hfield'⟩ := checkedBytes_parts payload hlength hcheck
    rw [hset, hbytes', hfield', ← h]
    have hwhole : head.set i value ++ payload = (head ++ payload).set i value :=
      (List.set_append_left i value (lt_length_of_set_ne hchanged)).symm
    rw [hwhole]
    refine crc32_set_ne fun hsame => hchanged ?_
    rw [← hwhole] at hsame
    exact List.append_cancel_right hsame
  · rcases set_append_cases hchanged with ⟨hcheck', hset'⟩ | ⟨k, hpayload, hset'⟩
    · -- in the check itself
      have hlength : (check.set j value).length = 4 := List.length_set.trans hcheck
      obtain ⟨hbytes', hfield'⟩ := checkedBytes_parts payload hhead hlength
      rw [hset, hset', hbytes', hfield', h]
      intro hsame
      exact hcheck' (leNat_inj List.length_set hsame.symm)
    · -- in the payload
      obtain ⟨hbytes', hfield'⟩ := checkedBytes_parts (payload.set k value) hhead hcheck
      rw [hset, hset', hbytes', hfield', ← h]
      have hwhole : head ++ payload.set k value = (head ++ payload).set (head.length + k) value := by
        rw [List.set_append_right _ _ (Nat.le_add_right _ _), Nat.add_sub_cancel_left]
      rw [hwhole]
      refine crc32_set_ne fun hsame => hpayload ?_
      rw [← hwhole] at hsame
      exact List.append_cancel_left hsame

/-- Without its delimiter a frame that is not too long is unstuffed. -/
theorem decodeFrame_of_stuff (short : decoded.length ≤ maxTransportFrame) :
    decodeFrame (stuff decoded ++ [0]) = decodeRawFrame decoded ∧
      decodeFrame (stuff decoded) = decodeRawFrame decoded := by
  have hlength := stuff_length_le decoded
  have hlast : (stuff decoded).getLast? ≠ some 0 := fun h => zero_not_mem_stuff decoded (List.mem_of_getLast? h)
  have hunstuffed := cobsDecode_cobsEncode decoded
  rw [cobsEncode_eq_stuff] at hunstuffed
  have hfits : ¬(stuff decoded).length > maxCobsFrame := by
    simp only [maxTransportFrame] at short
    simp only [maxCobsFrame, maxTransportFrame]
    omega
  constructor
  · rw [decodeFrame, List.getLast?_concat, if_pos rfl, List.dropLast_concat]
    rw [if_neg hfits, hunstuffed, Except.ok_bind]
  · rw [decodeFrame, if_neg hlast]
    rw [if_neg hfits, hunstuffed, Except.ok_bind]

end raw

end JLinkMcp.Host

namespace JLinkMcp.Firmware

open Codec

variable {decoded : Bytes} {rx : Receiver}

/-- The header that was read is packed again to the bytes it was read from. -/
theorem bytesBeforeCrc_ofBytes (long : sizeofFrameHeader ≤ decoded.length) :
    (FrameHeader.ofBytes decoded).bytesBeforeCrc = decoded.take Host.headerWithoutCrcSize := by
  have hfield (start width : Nat) (h : start + width ≤ 20) :
      leBytes width (leNat ((decoded.drop start).take width)) = (decoded.drop start).take width := by
    have hwidth : ((decoded.drop start).take width).length = width := by
      simp only [sizeofFrameHeader] at long
      rw [List.length_take, List.length_drop]
      omega
    have hread := leBytes_leNat ((decoded.drop start).take width)
    rwa [hwidth] at hread
  have hnext (start width : Nat) : decoded.take start ++ (decoded.drop start).take width =
      decoded.take (start + width) := List.take_add.symm
  rw [FrameHeader.bytesBeforeCrc, FrameHeader.ofBytes]
  dsimp only
  rw [hfield 4 1 (by decide), hfield 5 1 (by decide), hfield 6 4 (by decide), hfield 10 2 (by decide),
    hfield 12 2 (by decide), hfield 14 2 (by decide), hnext, hnext, hnext, hnext, hnext, hnext]
  rfl

/-- A valid header has the check of the bytes before it and of the payload. -/
theorem crc_of_validHeader (long : sizeofFrameHeader ≤ decoded.length) (h : validHeader decoded = true) :
    Host.crc32 (Host.checkedBytes decoded) = (Host.unpackHeader decoded).expectedCrc := by
  simp only [validHeader, Bool.and_eq_true, decide_eq_true_eq] at h
  obtain ⟨⟨-, hlength⟩, hcrc⟩ := h
  rw [frameCrc_eq_crcFrom, bytesBeforeCrc_ofBytes long, hlength, ← List.length_drop, List.take_length] at hcrc
  exact hcrc

theorem decoded_of_stuff (short : decoded.length ≤ kMaxDecodedFrame) :
    cobsDecode (stuff decoded) kMaxDecodedFrame = decoded := by
  rw [cobsDecode_eq_fitted, unstuff_stuff, Option.elim_some, fitted_of_le short]

end JLinkMcp.Firmware

namespace JLinkMcp

open Codec

/-- The host's decoder raises on a frame of which one byte was replaced, and the firmware answers that the frame
is invalid and keeps nothing of it. -/
theorem corruptedFrame_rejected {frame : Host.WireFrame} {decoded : Host.Bytes}
    (encoded : Host.encodeFrame frame = .ok (Host.cobsEncode decoded ++ [0])) {i : Nat} {value : UInt8}
    (inside : i < decoded.length) (different : decoded[i] ≠ value) (rx : Firmware.Receiver) :
    (∃ error, Host.decodeFrame (Host.cobsEncode (decoded.set i value) ++ [0]) = .error error ∧
      error.isWire = true) ∧
    (∃ error, Host.decodeFrame (Host.cobsEncode (decoded.set i value)) = .error error ∧ error.isWire = true) ∧
    Firmware.consumeFrame { rx with encodedInput := Host.cobsEncode (decoded.set i value) } =
      (Firmware.clearAssembly { rx with encodedInput := [] },
        [.consumed (Host.cobsEncode (decoded.set i value)),
          .rejected (Firmware.FrameHeader.ofBytes (decoded.set i value)).requestId "invalid bridge frame"]) := by
  obtain ⟨encodable, hstuff⟩ := Host.encodeFrame_ok encoded
  rw [Host.cobsEncode_eq_stuff] at hstuff
  obtain rfl : decoded = Host.rawFrame frame := stuff_inj (List.append_cancel_right hstuff)
  have hdecodes := Host.decodes_of_decodeRawFrame (Host.decodeRawFrame_rawFrame encodable)
  have hlength := Host.rawFrame_length frame
  have hpayload := encodable.payload_le
  simp only [Host.maxSegmentPayload, Host.maxTransportFrame, Host.headerSize] at hpayload hlength
  have changed : (Host.rawFrame frame).set i value ≠ Host.rawFrame frame := by
    intro h
    have hat : (Host.rawFrame frame)[i]? = some value := by
      rw [← h]
      exact List.getElem?_set_self inside
    rw [List.getElem?_eq_getElem inside] at hat
    exact different (Option.some.inj hat)
  have hcrc := Host.crc_set_ne hdecodes.long hdecodes.crc changed
  have hsame : ((Host.rawFrame frame).set i value).length = (Host.rawFrame frame).length := List.length_set
  generalize (Host.rawFrame frame).set i value = corrupted at hcrc hsame ⊢
  rw [Host.cobsEncode_eq_stuff]
  obtain ⟨hdelimited, hbare⟩ := @Host.decodeFrame_of_stuff corrupted (by
    simp only [Host.maxTransportFrame]
    omega)
  have herror : ∃ error, Host.decodeRawFrame corrupted = .error error ∧ error.isWire = true := by
    cases hresult : Host.decodeRawFrame corrupted with
    | error error => exact ⟨error, rfl, Host.isWire_of_decodeRawFrame hresult⟩
    | ok accepted => exact absurd (Host.decodes_of_decodeRawFrame hresult).crc hcrc
  refine ⟨by rwa [hdelimited], by rwa [hbare], ?_⟩
  have hread := @Firmware.decoded_of_stuff corrupted (by
    simp only [Firmware.kMaxDecodedFrame]
    omega)
  have hlong : Firmware.sizeofFrameHeader ≤ corrupted.length := by
    simp only [Firmware.sizeofFrameHeader]
    omega
  have hinvalid : Firmware.validHeader corrupted = false :=
    Bool.eq_false_iff.mpr fun hvalid => hcrc (Firmware.crc_of_validHeader hlong hvalid)
  rw [Firmware.consumeFrame]
  dsimp only
  rw [hread, if_neg (Nat.not_lt.mpr hlong), hinvalid, if_neg Bool.false_ne_true]

def sampleFrame : Host.WireFrame := ⟨.request, 1, 0, 1, [0x41], 1⟩

theorem corruptedFrame_rejected_payload :
    Host.encodeFrame sampleFrame = .ok (Host.cobsEncode (Host.rawFrame sampleFrame) ++ [0]) ∧
      ∃ error, Host.decodeFrame (Host.cobsEncode ((Host.rawFrame sampleFrame).set 20 0x42) ++ [0]) = .error error ∧
        error.isWire = true := by
  have encoded : Host.encodeFrame sampleFrame = .ok (Host.cobsEncode (Host.rawFrame sampleFrame) ++ [0]) := by
    decide +kernel
  exact ⟨encoded, (@corruptedFrame_rejected sampleFrame (Host.rawFrame sampleFrame) encoded 20 0x42 (by decide)
    (by decide) Firmware.Receiver.powerUp).1⟩

end JLinkMcp
