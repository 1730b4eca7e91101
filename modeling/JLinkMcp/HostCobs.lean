import JLinkMcp.CodecCobs
import JLinkMcp.HostBase

namespace JLinkMcp.Host

/-- The loop of `cobs_encode`; `codeIndex` is where the open block's code goes. -/
def cobsEncodeLoop : Bytes → Bytes → Nat → Nat → Bytes
  | [], output, codeIndex, code => output.set codeIndex (UInt8.ofNat code)
  | value :: data, output, codeIndex, code =>
    if value = 0 then
      cobsEncodeLoop data (output.set codeIndex (UInt8.ofNat code) ++ [0]) output.length 1
    else if code + 1 = 0xFF then
      cobsEncodeLoop data ((output ++ [value]).set codeIndex (UInt8.ofNat (code + 1)) ++ [0])
        (output.length + 1) 1
    else cobsEncodeLoop data (output ++ [value]) codeIndex (code + 1)

def cobsEncode (data : Bytes) : Bytes := cobsEncodeLoop data [0] 0 1

/-- The loop of `cobs_decode` over `data[index:]`. Every round consumes a code byte, so the
length of the data is fuel enough (`cobsDecodeLoop_eq_unstuff`). -/
def cobsDecodeLoop : Nat → Bytes → Bytes → Except PyError Bytes
  | _, [], output => .ok output
  | 0, _ :: _, _ => .error (.runtimeError "fuel")
  | fuel + 1, code :: rest, output =>
    if code = 0 then .error (.bridgeWire "COBS code byte cannot be zero")
    else if rest.length < code.toNat - 1 then
      .error (.bridgeWire "COBS code exceeds encoded frame")
    else
      let output := output ++ rest.take (code.toNat - 1)
      let rest := rest.drop (code.toNat - 1)
      cobsDecodeLoop fuel rest (if code ≠ 0xFF ∧ rest ≠ [] then output ++ [0] else output)

def cobsDecode (data : Bytes) : Except PyError Bytes :=
  if data = [] ∨ (0 : UInt8) ∈ data then
    .error (.bridgeWire "COBS frame is empty or contains a delimiter")
  else cobsDecodeLoop data.length data []

/-- The open block stands behind the finished blocks and the byte reserved for its code. -/
theorem cobsEncodeLoop_eq_stuffFrom (data : Bytes) {done block : Bytes}
    (short : block.length < 254) :
    cobsEncodeLoop data (done ++ 0 :: block) done.length (block.length + 1) =
      done ++ Codec.stuffFrom block data := by
  induction data generalizing done block with
  | nil => simp [cobsEncodeLoop, Codec.stuffFrom, Codec.blockCode]
  | cons value data ih =>
    simp only [cobsEncodeLoop, Codec.stuffFrom]
    split
    next =>
      have h := @ih (done ++ Codec.blockCode block :: block) [] (by simp)
      simpa [Codec.blockCode, Nat.add_assoc] using h
    next =>
      split
      next full =>
        have hc : Codec.blockCode (block ++ [value]) = 255 := by
          simp [Codec.blockCode, show block.length = 253 by omega]
        have h := @ih (done ++ (255 : UInt8) :: (block ++ [value])) [] (by simp)
        rw [if_pos (by omega)]
        simpa [show block.length = 253 by omega, Nat.add_assoc] using h
      next =>
        rw [if_neg (by omega)]
        have h := @ih done (block ++ [value]) (by simp; omega)
        simpa using h

theorem cobsEncode_eq_stuff (data : Bytes) : cobsEncode data = Codec.stuff data := by
  simpa [cobsEncode, Codec.stuff] using
    @cobsEncodeLoop_eq_stuffFrom data [] [] (by simp)

theorem cobsDecodeLoop_eq_unstuff {fuel : Nat} {data output out : Bytes}
    (enough : data.length ≤ fuel) (h : Codec.unstuff data = some out) :
    cobsDecodeLoop fuel data output = .ok (output ++ out) := by
  induction fuel generalizing data output out with
  | zero =>
    have : data = [] := List.length_eq_zero_iff.mp (by omega)
    subst data
    simp only [Codec.unstuff, Option.some.injEq] at h
    simp [cobsDecodeLoop, ← h]
  | succ fuel ih =>
    cases data with
    | nil =>
      simp only [Codec.unstuff, Option.some.injEq] at h
      simp [cobsDecodeLoop, ← h]
    | cons code rest =>
      rw [Codec.unstuff] at h
      split at h
      next => simp at h
      next ok =>
        obtain ⟨tail, ht, rfl⟩ := Option.map_eq_some_iff.mp h
        simp only [not_or, Nat.not_lt] at ok
        have hl : (rest.drop (code.toNat - 1)).length ≤ fuel := by
          simp only [List.length_drop, List.length_cons] at *
          omega
        rw [cobsDecodeLoop, if_neg ok.1, if_neg (by omega), ih hl ht]
        split <;> simp

theorem cobsDecodeLoop_error {fuel : Nat} {data output : Bytes} (enough : data.length ≤ fuel)
    (h : Codec.unstuff data = none) :
    ∃ message, cobsDecodeLoop fuel data output = .error (.bridgeWire message) := by
  induction fuel generalizing data output with
  | zero =>
    have hnil : data = [] := List.length_eq_zero_iff.mp (by omega)
    rw [hnil, Codec.unstuff] at h
    cases h
  | succ fuel ih =>
    cases data with
    | nil => rw [Codec.unstuff] at h; cases h
    | cons code rest =>
      rw [cobsDecodeLoop]
      by_cases hzero : code = 0
      · exact ⟨_, if_pos hzero⟩
      · rw [if_neg hzero]
        by_cases hshort : rest.length < code.toNat - 1
        · exact ⟨_, if_pos hshort⟩
        · have hl : (rest.drop (code.toNat - 1)).length ≤ fuel := by
            simp only [List.length_drop, List.length_cons] at *
            omega
          rw [Codec.unstuff, if_neg (not_or.mpr ⟨hzero, hshort⟩), Option.map_eq_none_iff] at h
          rw [if_neg hshort]
          exact ih hl h

/-- On data that is not empty and has no delimiter the decoder reads the blocks back, or raises. -/
theorem cobsDecode_cases {data : Bytes} (nonempty : data ≠ []) (free : (0 : UInt8) ∉ data) :
    (∃ out, Codec.unstuff data = some out ∧ cobsDecode data = .ok out) ∨
      Codec.unstuff data = none ∧ ∃ message, cobsDecode data = .error (.bridgeWire message) := by
  rw [cobsDecode, if_neg (not_or.mpr ⟨nonempty, free⟩)]
  cases h : Codec.unstuff data with
  | some out =>
    have hloop := @cobsDecodeLoop_eq_unstuff _ _ [] _ (Nat.le_refl data.length) h
    exact Or.inl ⟨out, rfl, hloop⟩
  | none => exact Or.inr ⟨rfl, cobsDecodeLoop_error (Nat.le_refl data.length) h⟩

/-- Decoding undoes encoding, whatever the data. -/
theorem cobsDecode_cobsEncode (data : Bytes) : cobsDecode (cobsEncode data) = .ok data := by
  have free := Codec.zero_not_mem_stuff data
  have hne : Codec.stuff data ≠ [] := Codec.stuffFrom_ne_nil [] data
  rw [cobsEncode_eq_stuff, cobsDecode, if_neg (by simp [free, hne])]
  simpa using @cobsDecodeLoop_eq_unstuff _ _ [] _ (Nat.le_refl _) (Codec.unstuff_stuff data)

end JLinkMcp.Host
