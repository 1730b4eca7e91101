import JLinkMcp.CodecBytes
import JLinkMcp.CodecCobs
import JLinkMcp.CodecCrc

namespace JLinkMcp.Firmware

open Codec

abbrev Bytes := List UInt8

def kWireVersion : Nat := 1
def kMaxDecodedFrame : Nat := 4096
def kMaxMessage : Nat := 64 * 1024
def kMagic : Bytes := [0x4A, 0x4C, 0x50, 0x42]
def kEncodedCapacity : Nat := kMaxDecodedFrame + kMaxDecodedFrame / 254 + 4

/-- `enum MessageType : uint8_t` -/
def REQUEST : Nat := 1
def RESPONSE : Nat := 2
def ERROR_RESPONSE : Nat := 3

/-- The packed `FrameHeader`; the numbers are those its unsigned fields hold. -/
structure FrameHeader where
  magic : Bytes
  wireVersion : Nat
  messageType : Nat
  requestId : Nat
  segmentIndex : Nat
  segmentCount : Nat
  payloadLength : Nat
  crc32 : Nat
  deriving DecidableEq, Repr

def sizeofFrameHeader : Nat := 20

/-- The bytes before `offsetof(FrameHeader, crc32)`. -/
def FrameHeader.bytesBeforeCrc (header : FrameHeader) : Bytes :=
  header.magic ++ leBytes 1 header.wireVersion ++ leBytes 1 header.messageType ++
    leBytes 4 header.requestId ++ leBytes 2 header.segmentIndex ++
    leBytes 2 header.segmentCount ++ leBytes 2 header.payloadLength

def FrameHeader.bytes (header : FrameHeader) : Bytes :=
  header.bytesBeforeCrc ++ leBytes 4 header.crc32

/-- `memcpy(&header, data, sizeof(header))` -/
def FrameHeader.ofBytes (data : Bytes) : FrameHeader where
  magic := data.take 4
  wireVersion := leNat ((data.drop 4).take 1)
  messageType := leNat ((data.drop 5).take 1)
  requestId := leNat ((data.drop 6).take 4)
  segmentIndex := leNat ((data.drop 10).take 2)
  segmentCount := leNat ((data.drop 12).take 2)
  payloadLength := leNat ((data.drop 14).take 2)
  crc32 := leNat ((data.drop 16).take 4)

def crc32Bits : Nat → UInt32 → UInt32
  | 0, crc => crc
  | bits + 1, crc => crc32Bits bits ((crc >>> 1) ^^^ (0xEDB88320 &&& (0 - (crc &&& 1))))

def crc32 (data : Bytes) (seed : UInt32) : UInt32 :=
  ~~~ data.foldl (fun crc byte => crc32Bits 8 (crc ^^^ byte.toUInt32)) (~~~ seed)

def frameCrc (header : FrameHeader) (payload : Bytes) : UInt32 :=
  crc32 (payload.take header.payloadLength) (crc32 header.bytesBeforeCrc 0)

/-- The loop of `cobsEncode`; `output` holds the bytes below `write`, and the empty list is
the return value zero. -/
def cobsEncodeLoop (capacity : Nat) : Bytes → Bytes → Nat → UInt8 → Bytes
  | [], output, codeIndex, code =>
    if codeIndex ≥ capacity then [] else output.set codeIndex code
  | byte :: input, output, codeIndex, code =>
    if byte = 0 then
      if codeIndex ≥ capacity then []
      else cobsEncodeLoop capacity input (output.set codeIndex code ++ [0]) output.length 1
    else if output.length ≥ capacity then []
    else if code + 1 = 0xFF then
      cobsEncodeLoop capacity input ((output ++ [byte]).set codeIndex (code + 1) ++ [0])
        (output.length + 1) 1
    else cobsEncodeLoop capacity input (output ++ [byte]) codeIndex (code + 1)

def cobsEncode (input : Bytes) (capacity : Nat) : Bytes :=
  if capacity = 0 then [] else cobsEncodeLoop capacity input [0] 0 1

/-- The inner loop of `cobsDecode`: `count` bytes from the input to the output. -/
def cobsCopy (capacity : Nat) : Nat → Bytes → Bytes → Option (Bytes × Bytes)
  | 0, input, output => some (input, output)
  | _ + 1, [], _ => none
  | count + 1, byte :: input, output =>
    if output.length ≥ capacity then none else cobsCopy capacity count input (output ++ [byte])

/-- The loop of `cobsDecode` over the unread input; the empty list is the return value zero. -/
def cobsDecodeLoop (capacity : Nat) : Nat → Bytes → Bytes → Bytes
  | _, [], output => output
  | 0, _ :: _, _ => []
  | fuel + 1, code :: input, output =>
    if code = 0 ∨ code.toNat - 1 > input.length then []
    else
      match cobsCopy capacity (code.toNat - 1) input output with
      | none => []
      | some (input, output) =>
        if code ≠ 0xFF ∧ input ≠ [] then
          if output.length ≥ capacity then []
          else cobsDecodeLoop capacity fuel input (output ++ [0])
        else cobsDecodeLoop capacity fuel input output

def cobsDecode (input : Bytes) (capacity : Nat) : Bytes :=
  cobsDecodeLoop capacity input.length input []

theorem crc32Bits_eq_crcShifts (bits : Nat) (crc : UInt32) :
    crc32Bits bits crc = crcShifts 0xEDB88320 bits crc := by
  induction bits generalizing crc with
  | zero => rfl
  | succ bits ih => rw [crc32Bits, crcShifts, crcShift_eq_masked, ih]

theorem crc32_eq_crcFrom (data : Bytes) (seed : UInt32) :
    crc32 data seed = crcFrom 0xEDB88320 seed data := by
  simp only [crc32, crcFrom, crcBytes, crc32Bits_eq_crcShifts]
  rfl

/-- The seeded second call continues the check of the header with the payload. -/
theorem frameCrc_eq_crcFrom (header : FrameHeader) (payload : Bytes) :
    frameCrc header payload =
      crcFrom 0xEDB88320 0 (header.bytesBeforeCrc ++ payload.take header.payloadLength) := by
  rw [frameCrc, crc32_eq_crcFrom, crc32_eq_crcFrom, crcFrom_append]

/-- What a writer leaves in a buffer: everything, or nothing when it does not fit. -/
def fitted (capacity : Nat) (bytes : Bytes) : Bytes := if bytes.length ≤ capacity then bytes else []

theorem fitted_of_le {capacity : Nat} {bytes : Bytes} (h : bytes.length ≤ capacity) :
    fitted capacity bytes = bytes := if_pos h

theorem fitted_of_lt {capacity : Nat} {bytes : Bytes} (h : capacity < bytes.length) :
    fitted capacity bytes = [] := if_neg (by omega)

theorem blockCode_append_eq_max {block : Bytes} (byte : UInt8) (short : block.length < 254) :
    blockCode block + 1 = 0xFF ↔ block.length + 1 = 254 := by
  have hsucc : blockCode block + 1 = blockCode (block ++ [byte]) := by simp [blockCode]
  rw [hsucc]
  constructor
  · intro h
    by_cases hl : block.length + 1 = 254
    · exact hl
    · exact absurd h (blockCode_ne_max (by simp; omega))
  · intro h
    simp [blockCode, show block.length = 253 by omega]

/-- The open block stands behind the finished blocks and the byte reserved for its code; only
that byte may lie past the end of the buffer. -/
theorem cobsEncodeLoop_eq_fitted {capacity : Nat} (input : Bytes) {done block : Bytes}
    (short : block.length < 254)
    (room : block ≠ [] → done.length + 1 + block.length ≤ capacity) :
    cobsEncodeLoop capacity input (done ++ 0 :: block) done.length (blockCode block) =
      fitted capacity (done ++ stuffFrom block input) := by
  induction input generalizing done block with
  | nil =>
    by_cases hc : done.length ≥ capacity
    · rw [cobsEncodeLoop, if_pos hc, fitted_of_lt (by simp [stuffFrom]; omega)]
    · have fits : (done ++ stuffFrom block []).length ≤ capacity := by
        by_cases hb : block = []
        · simp [stuffFrom, hb]; omega
        · have := room hb
          simp [stuffFrom]; omega
      rw [cobsEncodeLoop, if_neg hc, fitted_of_le fits]
      simp [stuffFrom]
  | cons byte input ih =>
    have lower := @stuffFrom_length_ge block (byte :: input)
    simp only [List.length_cons] at lower
    rw [cobsEncodeLoop]
    by_cases hz : byte = 0
    · rw [if_pos hz]
      by_cases hc : done.length ≥ capacity
      · rw [if_pos hc, fitted_of_lt (by simp only [List.length_append]; omega)]
      · have h := @ih (done ++ blockCode block :: block) [] (by simp) (by simp)
        rw [if_neg hc]
        simpa [blockCode, stuffFrom, hz, Nat.add_assoc] using h
    · rw [if_neg hz]
      by_cases hw : (done ++ 0 :: block).length ≥ capacity
      · simp only [List.length_append, List.length_cons] at hw
        rw [if_pos (by simpa using hw), fitted_of_lt (by simp only [List.length_append]; omega)]
      · rw [if_neg hw]
        simp only [List.length_append, List.length_cons, ge_iff_le, Nat.not_le] at hw
        by_cases full : block.length + 1 = 254
        · have hmax := (blockCode_append_eq_max byte short).mpr full
          have h := @ih (done ++ (255 : UInt8) :: (block ++ [byte])) []
            (by simp) (by simp)
          rw [if_pos hmax, hmax]
          simpa [stuffFrom, hz, full, blockCode, Nat.add_assoc] using h
        · have hmax := (not_congr (blockCode_append_eq_max byte short)).mpr full
          have h := @ih done (block ++ [byte]) (by simp; omega)
            (by intro _; simp; omega)
          rw [if_neg hmax]
          simpa [stuffFrom, hz, full, blockCode] using h

/-- The encoder writes the stuffed input, or returns zero because it does not fit. -/
theorem cobsEncode_eq_fitted (input : Bytes) (capacity : Nat) :
    cobsEncode input capacity = fitted capacity (stuff input) := by
  have hpos := List.length_pos_iff.mpr (stuffFrom_ne_nil [] input)
  unfold cobsEncode
  split
  next h => rw [fitted_of_lt (by simp only [stuff]; omega)]
  next =>
    exact @cobsEncodeLoop_eq_fitted capacity input [] [] (by simp) (by simp)

theorem cobsCopy_eq {capacity count : Nat} {input output : Bytes} (enough : count ≤ input.length)
    (fits : output.length ≤ capacity) :
    cobsCopy capacity count input output =
      if output.length + count ≤ capacity then
        some (input.drop count, output ++ input.take count) else none := by
  induction count generalizing input output with
  | zero => simp [cobsCopy, fits]
  | succ count ih =>
    cases input with
    | nil => simp at enough
    | cons byte input =>
      rw [cobsCopy]
      split
      next h => rw [if_neg (by omega)]
      next h =>
        rw [ih (by simpa using enough) (by simp; omega)]
        simp [Nat.add_assoc, Nat.add_comm 1]

theorem cobsDecodeLoop_eq_fitted {capacity fuel : Nat} {input output : Bytes}
    (enough : input.length ≤ fuel) (fits : output.length ≤ capacity) :
    cobsDecodeLoop capacity fuel input output =
      (unstuff input).elim [] fun out => fitted capacity (output ++ out) := by
  induction fuel generalizing input output with
  | zero =>
    have : input = [] := List.length_eq_zero_iff.mp (by omega)
    subst input
    simp [cobsDecodeLoop, unstuff, fitted_of_le fits]
  | succ fuel ih =>
    cases input with
    | nil => simp [cobsDecodeLoop, unstuff, fitted_of_le fits]
    | cons code input =>
      rw [cobsDecodeLoop, unstuff]
      by_cases bad : code = 0 ∨ input.length < code.toNat - 1
      · rw [if_pos bad, if_pos bad]
        rfl
      · have hl : (input.drop (code.toNat - 1)).length ≤ fuel := by
          simp only [List.length_drop, List.length_cons] at *
          omega
        rw [if_neg bad, if_neg bad]
        simp only [not_or, Nat.not_lt] at bad
        have htake : (input.take (code.toNat - 1)).length = code.toNat - 1 := by
          simp only [List.length_take]
          omega
        rw [cobsCopy_eq bad.2 fits]
        by_cases room : output.length + (code.toNat - 1) ≤ capacity
        · have hout : (output ++ input.take (code.toNat - 1)).length ≤ capacity := by
            rw [List.length_append, htake]
            exact room
          simp only [if_pos room]
          by_cases zero : code ≠ 255 ∧ input.drop (code.toNat - 1) ≠ []
          · simp only [if_pos zero]
            by_cases full : (output ++ input.take (code.toNat - 1)).length ≥ capacity
            · rw [if_pos full]
              cases unstuff (input.drop (code.toNat - 1)) with
              | none => rfl
              | some out =>
                have hlong : capacity < (output ++ (input.take (code.toNat - 1) ++ 0 :: out)).length := by
                  simp only [List.length_append, List.length_cons] at full ⊢
                  omega
                simp [fitted_of_lt hlong]
            · have hnext : (output ++ input.take (code.toNat - 1) ++ [0]).length ≤ capacity := by
                simp only [List.length_append, List.length_cons, List.length_nil] at full ⊢
                omega
              rw [if_neg full, ih hl hnext]
              cases unstuff (input.drop (code.toNat - 1)) <;> simp
          · simp only [if_neg zero]
            rw [ih hl hout]
            cases unstuff (input.drop (code.toNat - 1)) <;> simp
        · simp only [if_neg room]
          cases unstuff (input.drop (code.toNat - 1)) with
          | none => rfl
          | some out =>
            simp only [Option.map_some, Option.elim_some]
            rw [fitted_of_lt]
            simp only [List.length_append, htake]
            omega

/-- The decoder writes the unstuffed input, or returns zero. -/
theorem cobsDecode_eq_fitted (input : Bytes) (capacity : Nat) :
    cobsDecode input capacity = (unstuff input).elim [] (fitted capacity) := by
  simpa [cobsDecode] using
    @cobsDecodeLoop_eq_fitted capacity _ _ [] (Nat.le_refl input.length) (by simp)

end JLinkMcp.Firmware
