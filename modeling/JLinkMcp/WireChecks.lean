import JLinkMcp.BridgeBackend
import JLinkMcp.FrameLimits
import JLinkMcp.JsonLimits
import JLinkMcp.RequestEncoding

namespace JLinkMcp.Host

section texts

theorem PyStr.ofString_append (s t : String) : PyStr.ofString (s ++ t) = PyStr.ofString s ++ PyStr.ofString t := by
  rw [PyStr.ofString, String.toList_append, List.map_append]
  rfl

theorem PyStr.ofString_number (n : Nat) : PyStr.ofString (toString n) = decimalText n := by
  rw [PyStr.ofString, decimalText]
  change (String.ofList (Nat.toDigits 10 n)).toList.map _ = _
  rw [String.toList_ofList]

/-- A number ends where a text that begins with no digit goes on. -/
theorem decimalText_append_inj {n n' : Nat} {rest rest' : PyStr}
    (ends : ∀ c ∈ rest.head?, isAsciiDigit c = false) (ends' : ∀ c ∈ rest'.head?, isAsciiDigit c = false)
    (h : decimalText n ++ rest = decimalText n' ++ rest') : n = n' ∧ rest = rest' := by
  have takes : ∀ (n : Nat) {rest : PyStr}, (∀ c ∈ rest.head?, isAsciiDigit c = false) →
      (decimalText n ++ rest).takeWhile isAsciiDigit = decimalText n := by
    intro n rest ends
    rw [List.takeWhile_append_of_pos (decimalText_digits n)]
    cases rest with
    | nil => rw [List.takeWhile_nil, List.append_nil]
    | cons c rest => rw [List.takeWhile_cons_of_neg (by rw [ends c rfl]; decide), List.append_nil]
  have hnumber := congrArg (List.takeWhile isAsciiDigit) h
  rw [takes n ends, takes n' ends'] at hnumber
  have hvalue := decimalText_value n
  rw [hnumber, decimalText_value n'] at hvalue
  rw [hnumber] at h
  exact ⟨hvalue.symm, List.append_cancel_left h⟩

theorem hex8_length (n : Nat) : (PyStr.ofString (hex8 n)).length = 8 := by
  rw [PyStr.ofString, hex8, String.toList_ofList, List.length_map, List.length_map, List.length_range]

theorem hexDigit_inj : ∀ n < 16, ∀ n' < 16, hexDigit n = hexDigit n' → n = n' := by decide

/-- A number below a power of 16 is given by its digits, from the last one on. -/
theorem eq_of_hexDigits : ∀ (k : Nat) {n n' : Nat}, n < 16 ^ k → n' < 16 ^ k →
    (∀ i < k, n / 16 ^ i % 16 = n' / 16 ^ i % 16) → n = n'
  | 0, _, _, lt, lt', _ => (Nat.lt_one_iff.mp lt).trans (Nat.lt_one_iff.mp lt').symm
  | k + 1, n, n', lt, lt', h => by
    have hlast : n % 16 = n' % 16 := by simpa only [Nat.pow_zero, Nat.div_one] using h 0 k.succ_pos
    have hfirst : n / 16 = n' / 16 := by
      rw [Nat.pow_succ] at lt lt'
      refine eq_of_hexDigits k (Nat.div_lt_of_lt_mul (Nat.mul_comm .. ▸ lt))
        (Nat.div_lt_of_lt_mul (Nat.mul_comm .. ▸ lt')) fun i hi => ?_
      rw [Nat.div_div_eq_div_mul, Nat.div_div_eq_div_mul, Nat.mul_comm, ← Nat.pow_succ]
      exact h (i + 1) (Nat.succ_lt_succ hi)
    rw [← Nat.div_add_mod n 16, ← Nat.div_add_mod n' 16, hfirst, hlast]

theorem hex8_inj {n n' : Nat} (lt : n < 2 ^ 32) (lt' : n' < 2 ^ 32) (h : hex8 n = hex8 n') : n = n' := by
  rw [hex8, hex8] at h
  have hdigits := List.map_inj_left.mp (String.ofList_inj.mp h)
  refine eq_of_hexDigits 8 lt lt' fun i hi => ?_
  -- the text begins with the highest digit
  have hdigit := hdigits (7 - i) (List.mem_range.mpr (by omega))
  rw [show 7 - (7 - i) = i by omega] at hdigit
  exact hexDigit_inj _ (Nat.mod_lt _ (by decide)) _ (Nat.mod_lt _ (by decide)) hdigit

end texts

end JLinkMcp.Host

namespace JLinkMcp.Bridge

open Codec Host

/-- The errors of decoding whose message is always the same. -/
def plainErrors : List PyError :=
  ["bridge response ended with a partial COBS frame", "bridge response contained no delimited frame",
    "encoded frame exceeds transport limit", "COBS frame is empty or contains a delimiter",
    "COBS code byte cannot be zero", "COBS code exceeds encoded frame",
    "decoded frame is shorter than its header", "bridge frame magic mismatch",
    "bridge payload length mismatch", "unexpected bridge response type: REQUEST", "truncated TLV header",
    "truncated TLV value", "response has no status TLV", "response status is not uint16",
    "response metadata must be a JSON object", "response metadata is not valid UTF-8 JSON",
    "firmware error text is not UTF-8", "QUEUE_DEPTH has an invalid width",
    "OVERFLOW_COUNT has an invalid width", "TIMESTAMP_US has an invalid width"].map .bridgeWire ++
  ["invalid segment index/count", "stale, mismatched, or out-of-order response",
    "assembled response exceeds 64 KiB"].map .bridgeSequence

/-- What stands before the number in the messages that show one. -/
def numberLabels : List String :=
  ["unsupported bridge wire version: ", "unknown bridge message type: ", "duplicate TLV type: ",
    "unknown TLV type: "]

/-- The errors of decoding, each with the numbers that its message shows. -/
inductive Told : PyError → List Nat → Prop
  | plain {error : PyError} : error ∈ plainErrors → Told error []
  | number {label : String} (n : Nat) : label ∈ numberLabels → Told (.bridgeWire s!"{label}{n}") [n]
  | crc {expected actual : Nat} : expected < 2 ^ 32 → actual < 2 ^ 32 →
    Told (.bridgeCrc ("bridge CRC mismatch: expected 0x" ++ hex8 expected ++ ", got 0x" ++ hex8 actual))
      [expected, actual]
  | segments (count required : Nat) :
    Told (.bridgeSequence s!"response has {count} of {required} required segments") [count, required]

section told

variable {error error' : PyError} {numbers numbers' : List Nat}

theorem decodingCheck_number {label : String} (hlabel : label ∈ numberLabels) (n : Nat) :
    decodingCheck (.bridgeWire s!"{label}{n}") = (PyStr.ofString "BridgeWireError", PyStr.ofString label) := by
  have hfree : ∀ label ∈ numberLabels, (PyStr.ofString label).all (!isAsciiDigit ·) = true := by decide +kernel
  obtain ⟨c, text, htext, hdigit⟩ := decimalText_cons n
  refine Prod.ext rfl ?_
  change (PyStr.ofString (label ++ toString n)).takeWhile _ = PyStr.ofString label
  rw [PyStr.ofString_append, PyStr.ofString_number,
    List.takeWhile_append_of_pos (List.all_eq_true.mp (hfree label hlabel)), htext,
    List.takeWhile_cons_of_neg (by rw [hdigit]; decide), List.append_nil]

theorem decodingCheck_crc (expected actual : Nat) : decodingCheck
    (.bridgeCrc ("bridge CRC mismatch: expected 0x" ++ hex8 expected ++ ", got 0x" ++ hex8 actual)) =
      (PyStr.ofString "BridgeCrcError", PyStr.ofString "bridge CRC mismatch: expected ") := by
  refine Prod.ext rfl ?_
  change (PyStr.ofString _).takeWhile _ = _
  rw [PyStr.ofString_append, PyStr.ofString_append, PyStr.ofString_append, List.append_assoc, List.append_assoc]
  rfl

theorem decodingCheck_segments (count required : Nat) :
    decodingCheck (.bridgeSequence s!"response has {count} of {required} required segments") =
      (PyStr.ofString "BridgeSequenceError", PyStr.ofString "response has ") := by
  have hfree : (PyStr.ofString "response has ").all (!isAsciiDigit ·) = true := by decide +kernel
  obtain ⟨c, text, htext, hdigit⟩ := decimalText_cons count
  refine Prod.ext rfl ?_
  change (PyStr.ofString ("response has " ++ toString count ++ " of " ++ toString required ++
    " required segments")).takeWhile _ = _
  rw [PyStr.ofString_append, PyStr.ofString_append, PyStr.ofString_append, PyStr.ofString_append,
    PyStr.ofString_number, htext, List.append_assoc, List.append_assoc, List.append_assoc,
    List.takeWhile_append_of_pos (List.all_eq_true.mp hfree), List.cons_append,
    List.takeWhile_cons_of_neg (by rw [hdigit]; decide), List.append_nil]

/-- The checks of decoding, those whose message shows numbers last, have messages of their own. -/
theorem checks_nodup : (plainErrors.map decodingCheck ++
    (numberLabels.map fun label => (PyStr.ofString "BridgeWireError", PyStr.ofString label)) ++
    [(PyStr.ofString "BridgeCrcError", PyStr.ofString "bridge CRC mismatch: expected "),
      (PyStr.ofString "BridgeSequenceError", PyStr.ofString "response has ")]).Nodup := by
  decide +kernel

theorem plainErrors_checks : (plainErrors.map decodingCheck).Nodup :=
  checks_nodup.of_append_left.of_append_left

/-- No error with numbers comes from the check of an error without. -/
theorem plainErrors_numberless : ∀ error ∈ plainErrors,
    decodingCheck error ∉ (numberLabels.map fun label =>
      (PyStr.ofString "BridgeWireError", PyStr.ofString label)) ++
      [(PyStr.ofString "BridgeCrcError", PyStr.ofString "bridge CRC mismatch: expected "),
        (PyStr.ofString "BridgeSequenceError", PyStr.ofString "response has ")] := by
  have hdisjoint := checks_nodup
  rw [List.append_assoc] at hdisjoint
  exact fun error h => List.disjoint_of_nodup_append hdisjoint (List.mem_map_of_mem h)

theorem number_inj {label : String} {n m : Nat}
    (h : PyStr.ofString s!"{label}{n}" = PyStr.ofString s!"{label}{m}") : n = m := by
  change PyStr.ofString (label ++ toString n) = PyStr.ofString (label ++ toString m) at h
  rw [PyStr.ofString_append, PyStr.ofString_append, PyStr.ofString_number, PyStr.ofString_number] at h
  have h := List.append_cancel_left h
  have hnone : ∀ c ∈ ([] : PyStr).head?, isAsciiDigit c = false := fun c hc => by cases hc
  rw [← List.append_nil (decimalText n), ← List.append_nil (decimalText m)] at h
  exact (decimalText_append_inj hnone hnone h).1

theorem crc_inj {expected actual expected' actual' : Nat} (hexpected : expected < 2 ^ 32)
    (hactual : actual < 2 ^ 32) (hexpected' : expected' < 2 ^ 32) (hactual' : actual' < 2 ^ 32)
    (h : PyStr.ofString ("bridge CRC mismatch: expected 0x" ++ hex8 expected ++ ", got 0x" ++ hex8 actual) =
      PyStr.ofString ("bridge CRC mismatch: expected 0x" ++ hex8 expected' ++ ", got 0x" ++ hex8 actual')) :
    expected = expected' ∧ actual = actual' := by
  simp only [PyStr.ofString_append, List.append_assoc] at h
  have hsame := List.append_cancel_left h
  obtain ⟨hfirst, hrest⟩ := List.append_inj hsame (by rw [hex8_length, hex8_length])
  have hsecond := List.append_cancel_left hrest
  exact ⟨hex8_inj hexpected hexpected' (PyStr.ofString_inj.mp hfirst),
    hex8_inj hactual hactual' (PyStr.ofString_inj.mp hsecond)⟩

theorem segments_inj {count required counted needed : Nat}
    (h : PyStr.ofString s!"response has {count} of {required} required segments" =
      PyStr.ofString s!"response has {counted} of {needed} required segments") :
    count = counted ∧ required = needed := by
  change PyStr.ofString ("response has " ++ toString count ++ " of " ++ toString required ++
      " required segments") = PyStr.ofString ("response has " ++ toString counted ++ " of " ++
      toString needed ++ " required segments") at h
  simp only [PyStr.ofString_append, PyStr.ofString_number, List.append_assoc] at h
  have hof : ∀ rest : PyStr, ∀ c ∈ (PyStr.ofString " of " ++ rest).head?, isAsciiDigit c = false := by
    intro rest c hc
    cases hc
    rfl
  have hend : ∀ c ∈ (PyStr.ofString " required segments").head?, isAsciiDigit c = false := by
    intro c hc
    cases hc
    rfl
  obtain ⟨hcount, hrest⟩ := decimalText_append_inj (hof _) (hof _) (List.append_cancel_left h)
  exact ⟨hcount, (decimalText_append_inj hend hend (List.append_cancel_left hrest)).1⟩

theorem plainErrors_isWire : ∀ error ∈ plainErrors, error.isWire = true := by decide

theorem Told.isWire (told : Told error numbers) : error.isWire = true := by
  cases told with
  | plain h => exact plainErrors_isWire _ h
  | _ => rfl

/-- An error with numbers does not come from the check of an error without. -/
theorem Told.plain_of_check (told : Told error' numbers') (h : error ∈ plainErrors)
    (check : decodingCheck error = decodingCheck error') : error' ∈ plainErrors ∧ numbers' = [] := by
  have hnumberless := plainErrors_numberless error h
  rw [check] at hnumberless
  cases told with
  | plain hplain => exact ⟨hplain, rfl⟩
  | number n hlabel =>
    rw [decodingCheck_number hlabel] at hnumberless
    exact absurd (List.mem_append_left _ (List.mem_map_of_mem hlabel)) hnumberless
  | crc _ _ =>
    rw [decodingCheck_crc] at hnumberless
    exact absurd (List.mem_append_right _ List.mem_cons_self) hnumberless
  | segments _ _ =>
    rw [decodingCheck_segments] at hnumberless
    exact absurd (List.mem_append_right _ (List.mem_cons_of_mem _ List.mem_cons_self)) hnumberless

/-- Two errors of one check have the same message exactly where they show the same numbers. -/
theorem told_iff (told : Told error numbers) (told' : Told error' numbers')
    (check : decodingCheck error = decodingCheck error') :
    wireMessage error = wireMessage error' ↔ numbers = numbers' := by
  have typeNames : PyStr.ofString "BridgeWireError" ≠ PyStr.ofString "BridgeCrcError" ∧
      PyStr.ofString "BridgeWireError" ≠ PyStr.ofString "BridgeSequenceError" ∧
      PyStr.ofString "BridgeCrcError" ≠ PyStr.ofString "BridgeSequenceError" := by decide +kernel
  by_cases hplain : error ∈ plainErrors ∨ error' ∈ plainErrors
  · obtain ⟨⟨h, rfl⟩, h', rfl⟩ : (error ∈ plainErrors ∧ numbers = []) ∧ error' ∈ plainErrors ∧ numbers' = [] := by
      rcases hplain with h | h'
      · have h' := told'.plain_of_check h check
        exact ⟨told.plain_of_check h'.1 check.symm, h'⟩
      · have h := told.plain_of_check h' check.symm
        exact ⟨h, told'.plain_of_check h.1 check⟩
    rw [List.inj_on_of_nodup_map plainErrors_checks h h' check]
    exact iff_of_true rfl rfl
  · rw [not_or] at hplain
    cases told with
    | plain h => exact absurd h hplain.1
    | @number label n hlabel =>
      rw [decodingCheck_number hlabel] at check
      cases told' with
      | plain h' => exact absurd h' hplain.2
      | @number label' n' hlabel' =>
        rw [decodingCheck_number hlabel'] at check
        obtain rfl := PyStr.ofString_inj.mp (congrArg Prod.snd check)
        constructor
        · exact fun h => congrArg (fun n => [n]) (number_inj h)
        · exact fun h => by rw [List.singleton_inj.mp h]
      | crc _ _ =>
        rw [decodingCheck_crc] at check
        exact absurd (congrArg Prod.fst check) typeNames.1
      | segments _ _ =>
        rw [decodingCheck_segments] at check
        exact absurd (congrArg Prod.fst check) typeNames.2.1
    | @crc expected actual hexpected hactual =>
      rw [decodingCheck_crc] at check
      cases told' with
      | plain h' => exact absurd h' hplain.2
      | number _ hlabel' =>
        rw [decodingCheck_number hlabel'] at check
        exact absurd (congrArg Prod.fst check).symm typeNames.1
      | @crc expected' actual' hexpected' hactual' =>
        constructor
        · intro h
          obtain ⟨rfl, rfl⟩ := crc_inj hexpected hactual hexpected' hactual' h
          rfl
        · intro h
          cases h
          rfl
      | segments _ _ =>
        rw [decodingCheck_segments] at check
        exact absurd (congrArg Prod.fst check) typeNames.2.2
    | segments count required =>
      rw [decodingCheck_segments] at check
      cases told' with
      | plain h' => exact absurd h' hplain.2
      | number _ hlabel' =>
        rw [decodingCheck_number hlabel'] at check
        exact absurd (congrArg Prod.fst check).symm typeNames.2.1
      | crc _ _ =>
        rw [decodingCheck_crc] at check
        exact absurd (congrArg Prod.fst check).symm typeNames.2.2
      | segments count' required' =>
        constructor
        · intro h
          obtain ⟨rfl, rfl⟩ := segments_inj h
          rfl
        · intro h
          cases h
          rfl

end told

section frames

variable {error : PyError} {decoded part : Bytes}

/-- The numbers of an unstuffed frame that the check which refuses it names. -/
def frameNumbers (decoded : Bytes) : List Nat :=
  let header := unpackHeader decoded
  let crc := crc32 (checkedBytes decoded)
  if decoded.length < headerSize ∨ header.magic ≠ magic then []
  else if header.version ≠ 1 then [header.version]
  else if decoded.length ≠ headerSize + header.payloadLength ∨ header.segmentCount ≤ header.segmentIndex then []
  else if crc ≠ header.expectedCrc then [header.expectedCrc, crc]
  else if MessageType.ofValue? header.messageType = none then [header.messageType] else []

theorem told_decodeRawFrame (h : decodeRawFrame decoded = .error error) : Told error (frameNumbers decoded) := by
  unfold decodeRawFrame at h
  unfold frameNumbers
  dsimp only at h ⊢
  by_cases hshort : decoded.length < headerSize
  · rw [if_pos hshort] at h
    rw [if_pos (Or.inl hshort)]
    cases h
    exact .plain (by simp [plainErrors])
  rw [if_neg hshort] at h
  by_cases hmagic : (unpackHeader decoded).magic = magic
  swap
  · rw [if_pos hmagic] at h
    rw [if_pos (Or.inr hmagic)]
    cases h
    exact .plain (by simp [plainErrors])
  rw [if_neg (not_not.mpr hmagic)] at h
  rw [if_neg (not_or.mpr ⟨hshort, not_not.mpr hmagic⟩)]
  by_cases hversion : (unpackHeader decoded).version = 1
  swap
  · rw [if_pos (by simp only [bridgeWireVersion]; omega)] at h
    rw [if_pos hversion]
    cases h
    exact .number _ (by simp [numberLabels])
  rw [if_neg (by simp only [bridgeWireVersion]; omega)] at h
  rw [if_neg (not_not.mpr hversion)]
  by_cases hlength : decoded.length = headerSize + (unpackHeader decoded).payloadLength
  swap
  · rw [if_pos hlength] at h
    rw [if_pos (Or.inl hlength)]
    cases h
    exact .plain (by simp [plainErrors])
  rw [if_neg (not_not.mpr hlength)] at h
  by_cases hindex : (unpackHeader decoded).segmentCount ≤ (unpackHeader decoded).segmentIndex
  · rw [if_pos (by omega)] at h
    rw [if_pos (Or.inr hindex)]
    cases h
    exact .plain (by simp [plainErrors])
  rw [if_neg (by omega)] at h
  rw [if_neg (not_or.mpr ⟨not_not.mpr hlength, hindex⟩)]
  change (if crc32 (checkedBytes decoded) ≠ _ then _ else _) = _ at h
  by_cases hcrc : crc32 (checkedBytes decoded) = (unpackHeader decoded).expectedCrc
  swap
  · rw [if_pos hcrc] at h
    rw [if_pos hcrc]
    cases h
    exact .crc (leNat_take_lt 4 _) (crc32_lt _)
  rw [if_neg (not_not.mpr hcrc)] at h
  rw [if_neg (not_not.mpr hcrc)]
  cases hkind : MessageType.ofValue? (unpackHeader decoded).messageType with
  | none =>
    rw [hkind] at h
    rw [if_pos rfl]
    cases h
    exact .number _ (by simp [numberLabels])
  | some kind =>
    rw [hkind] at h
    cases h

theorem cobsDecodeLoop_plain {fuel : Nat} {data output : Bytes} (enough : data.length ≤ fuel)
    (h : cobsDecodeLoop fuel data output = .error error) : error ∈ plainErrors := by
  induction fuel generalizing data output with
  | zero =>
    rw [List.length_eq_zero_iff.mp (Nat.le_zero.mp enough)] at h
    cases h
  | succ fuel ih =>
    cases data with
    | nil => cases h
    | cons code rest =>
      rw [cobsDecodeLoop] at h
      split at h
      next =>
        cases h
        simp [plainErrors]
      next =>
        split at h
        next =>
          cases h
          simp [plainErrors]
        next =>
          refine ih ?_ h
          rw [List.length_drop]
          rw [List.length_cons] at enough
          omega

theorem cobsDecode_plain {data : Bytes} (h : cobsDecode data = .error error) : error ∈ plainErrors := by
  unfold cobsDecode at h
  split at h
  next =>
    cases h
    simp [plainErrors]
  next => exact cobsDecodeLoop_plain (Nat.le_refl _) h

/-- The bytes of a frame without the stuffing; nothing where it is no COBS frame. -/
def unstuffed (part : Bytes) : Bytes := ((cobsDecode (undelimited part)).toOption).getD []

/-- The numbers of a frame that the check which refuses it names. -/
def refusedNumbers (part : Bytes) : List Nat :=
  if (undelimited part).length > maxCobsFrame then [] else frameNumbers (unstuffed part)

theorem frameNumbers_nil : frameNumbers [] = [] := by
  rw [frameNumbers]
  exact if_pos (Or.inl (by decide))

theorem told_decodeFrame (h : decodeFrame part = .error error) : Told error (refusedNumbers part) := by
  have hdecode : decodeFrame part =
      if (undelimited part).length > maxCobsFrame then
        .error (.bridgeWire "encoded frame exceeds transport limit")
      else (cobsDecode (undelimited part)).bind decodeRawFrame := rfl
  rw [hdecode] at h
  unfold refusedNumbers
  split at h
  next hlong =>
    rw [if_pos hlong]
    cases h
    exact .plain (by simp [plainErrors])
  next hlong =>
    rw [if_neg hlong, unstuffed]
    cases hdecoded : cobsDecode (undelimited part) with
    | error refused =>
      rw [hdecoded] at h
      obtain rfl : refused = error := Except.error.inj h
      have hplain := Told.plain (cobsDecode_plain hdecoded)
      rw [← frameNumbers_nil] at hplain
      exact hplain
    | ok decoded =>
      rw [hdecoded] at h
      exact told_decodeRawFrame h

end frames

section streams

variable {error : PyError} {raw : Bytes} {frames : List WireFrame} {requestId : Int}

/-- The frames of the received bytes, still stuffed. -/
def receivedFrames (raw : Bytes) : List Bytes := (raw.splitOn 0).filter (· ≠ [])

/-- The frame that the decoding of the received bytes stops at. -/
def refusedFrame (raw : Bytes) : Option Bytes :=
  (receivedFrames raw).find? fun part => !(decodeFrame part).toBool

theorem refused_of_mapM {parts : List Bytes} (h : parts.mapM decodeFrame = .error error) :
    ∃ part, parts.find? (fun part => !(decodeFrame part).toBool) = some part ∧
      decodeFrame part = .error error := by
  induction parts with
  | nil => cases h
  | cons part parts ih =>
    rw [List.mapM_cons] at h
    cases hpart : decodeFrame part with
    | error refused =>
      rw [hpart] at h
      obtain rfl : refused = error := Except.error.inj h
      exact ⟨part, List.find?_cons_of_pos (by rw [hpart]; rfl), hpart⟩
    | ok frame =>
      rw [hpart, Except.ok_then] at h
      cases hrest : parts.mapM decodeFrame with
      | ok frames =>
        rw [hrest] at h
        cases h
      | error refused =>
        rw [hrest] at h
        obtain rfl : refused = error := Except.error.inj h
        obtain ⟨found, hfound, herror⟩ := ih hrest
        exact ⟨found, by rw [List.find?_cons_of_neg (by rw [hpart]; exact Bool.false_ne_true), hfound], herror⟩

theorem accepted_of_mapM {parts : List Bytes} (h : parts.mapM decodeFrame = .ok frames) :
    parts.find? (fun part => !(decodeFrame part).toBool) = none ∧
      List.Forall₂ (fun part frame => decodeFrame part = .ok frame) parts frames := by
  induction parts generalizing frames with
  | nil =>
    cases h
    exact ⟨rfl, .nil⟩
  | cons part parts ih =>
    rw [List.mapM_cons] at h
    obtain ⟨frame, hframe, h⟩ := Except.then_ok h
    obtain ⟨rest, hrest, h⟩ := Except.then_ok h
    cases h
    obtain ⟨hnone, hall⟩ := ih hrest
    exact ⟨by rw [List.find?_cons_of_neg (by rw [hframe]; exact Bool.false_ne_true), hnone], .cons hframe hall⟩

/-- What an accepted frame says stands in its bytes. -/
theorem decodes_unstuffed {part : Bytes} {frame : WireFrame} (h : decodeFrame part = .ok frame) :
    Decodes (unstuffed part) frame := by
  obtain ⟨decoded, hdecoded, hdecodes, -⟩ := decodes_of_decodeFrame h
  rw [unstuffed, hdecoded]
  exact hdecodes

theorem checkFrames_plain {expectedRequest count : Int} {expectedType : MessageType} {index : Nat}
    (h : checkFrames expectedRequest expectedType count index frames = .error error) : error ∈ plainErrors := by
  induction frames generalizing index with
  | nil => cases h
  | cons frame frames ih =>
    rw [checkFrames] at h
    split at h
    next =>
      cases h
      simp [plainErrors]
    next => exact ih h

/-- Frames that do not reassemble are of another number than the first one says, or no number is named. -/
theorem told_reassembleFrames {first : WireFrame} {rest : List WireFrame} {required : Nat}
    (count : first.segmentCount = required) {messageType : Option MessageType}
    (h : reassembleFrames (first :: rest) (some requestId) messageType = .error error) :
    Told error (if rest.length + 1 ≠ required then [rest.length + 1, required] else []) := by
  unfold reassembleFrames at h
  dsimp only at h
  rw [List.length_cons, count] at h
  by_cases hcount : rest.length + 1 = required
  swap
  · rw [if_pos (by omega)] at h
    rw [if_pos hcount]
    cases h
    exact .segments _ _
  rw [if_neg (by omega)] at h
  rw [if_neg (not_not.mpr hcount)]
  cases hcheck : checkFrames ((some requestId).getD first.requestId) (messageType.getD first.messageType)
      required 0 (first :: rest) with
  | error refused =>
    rw [hcheck] at h
    obtain rfl : refused = error := Except.error.inj h
    exact .plain (checkFrames_plain hcheck)
  | ok _ =>
    rw [hcheck, Except.ok_bind] at h
    split at h
    next =>
      cases h
      exact .plain (by simp [plainErrors])
    next => cases h

end streams

section bodies

variable {depth : Nat} {error : PyError} {payload : Bytes} {values : List Tlv}

/-- The type of a TLV that was there before or that no response has. -/
def refusedKind (seen : List Nat) (payload : Bytes) : Option Nat :=
  if payload.length < 4 then none
  else
    let kind := leNat (payload.take 2)
    let length := leNat ((payload.drop 2).take 2)
    let rest := payload.drop 4
    if length > rest.length then none
    else if kind ∈ seen ∨ kind ∉ responseFields then some kind
    else refusedKind (seen ++ [kind]) (rest.drop length)
  termination_by payload.length
  decreasing_by
    simp only [List.length_drop]
    omega

/-- The types of a body that is taken apart are all known and differ; else the type that stops it is named. -/
def KindsTold (payload : Bytes) (seen : List Nat) : Except PyError (List Tlv) → Prop
  | .ok _ => refusedKind seen payload = none
  | .error error => Told error (refusedKind seen payload).toList

theorem kindsTold_decodeTlvsFrom (result : List Tlv) (payload : Bytes) :
    KindsTold payload (result.map Prod.fst) (decodeTlvsFrom (some responseFields) result payload) := by
  induction hlen : payload.length using Nat.strong_induction_on generalizing result payload with
  | h length ih =>
    rw [decodeTlvsFrom]
    dsimp only
    split
    next hnil =>
      rw [KindsTold, refusedKind, if_pos (by rw [hnil]; decide)]
    next =>
      split
      next hshort =>
        rw [KindsTold, refusedKind, if_pos hshort]
        exact .plain (by simp [plainErrors])
      next hshort =>
        split
        next hvalue =>
          rw [KindsTold, refusedKind, if_neg hshort]
          dsimp only
          rw [if_pos hvalue]
          exact .plain (by simp [plainErrors])
        next hvalue =>
          split
          next hseen =>
            rw [KindsTold, refusedKind, if_neg hshort]
            dsimp only
            rw [if_neg hvalue, if_pos (Or.inl hseen)]
            exact .number _ (by simp [numberLabels])
          next hseen =>
            split
            next hknown =>
              rw [KindsTold, refusedKind, if_neg hshort]
              dsimp only
              rw [if_neg hvalue, if_pos (Or.inr (by simpa using hknown))]
              exact .number _ (by simp [numberLabels])
            next hknown =>
              have hrest := ih _ (by simp only [List.length_drop]; omega)
                (result ++ [(leNat (payload.take 2), (payload.drop 4).take (leNat ((payload.drop 2).take 2)))])
                ((payload.drop 4).drop (leNat ((payload.drop 2).take 2))) rfl
              rw [List.map_append, List.map_singleton] at hrest
              have hkind : refusedKind (result.map Prod.fst) payload =
                  refusedKind (result.map Prod.fst ++ [leNat (payload.take 2)])
                    ((payload.drop 4).drop (leNat ((payload.drop 2).take 2))) := by
                conv => lhs; rw [refusedKind]
                rw [if_neg hshort]
                dsimp only
                rw [if_neg hvalue, if_neg (not_or.mpr ⟨hseen, by simpa using hknown⟩)]
              unfold KindsTold at hrest ⊢
              rw [hkind]
              exact hrest

theorem responseStatus_plain (h : responseStatus values = .error error) : error ∈ plainErrors := by
  unfold responseStatus at h
  split at h
  next =>
    cases h
    simp [plainErrors]
  next =>
    split at h
    next =>
      cases h
      simp [plainErrors]
    next => cases h

theorem responseError_plain {raw : Bytes} (h : responseError raw = .error error) : error ∈ plainErrors := by
  unfold responseError at h
  split at h
  next => cases h
  next =>
    cases h
    simp [plainErrors]

theorem responseInteger_plain {kind : FieldId} {name : String} {width : Nat}
    (hname : PyError.bridgeWire s!"{name} has an invalid width" ∈ plainErrors)
    (h : responseInteger values kind name width = .error error) : error ∈ plainErrors := by
  unfold responseInteger at h
  split at h
  next => cases h
  next =>
    split at h
    next =>
      cases h
      exact hname
    next => cases h

theorem responseMetadata_plain {raw : Bytes} (h : responseMetadata depth raw = .error error)
    (wire : error.isWire = true) : error ∈ plainErrors := by
  unfold responseMetadata at h
  split at h
  next => cases h
  next =>
    cases h
    simp [plainErrors]
  next =>
    cases h
    simp [plainErrors]
  next =>
    cases h
    simp [plainErrors]
  next other hunicode hsyntax hother =>
    obtain rfl : other = error := Except.error.inj h
    cases htext : decodeUtf8 raw with
    | error refused =>
      rw [htext] at hother
      exact absurd ((Except.error.inj hother).symm.trans (decodeUtf8_error htext)) hunicode
    | ok text =>
      rw [htext, Except.ok_bind] at hother
      rcases loads_error hother with rfl | hlimit
      · exact absurd rfl hsyntax
      · rw [not_isWire_of_isLimit hlimit] at wire
        cases wire

/-- A body that is refused with a wire error names the type of a TLV, or no number. -/
theorem told_decodeResponseBody (h : decodeResponseBody depth payload = .error error)
    (wire : error.isWire = true) : Told error (refusedKind [] payload).toList := by
  have hkinds := kindsTold_decodeTlvsFrom [] payload
  unfold decodeResponseBody at h
  rw [decodeTlvs] at h
  cases hvalues : decodeTlvsFrom (some responseFields) [] payload with
  | error refused =>
    rw [hvalues] at h hkinds
    obtain rfl : refused = error := Except.error.inj h
    exact hkinds
  | ok values =>
    rw [hvalues] at h hkinds
    have hnone : refusedKind [] payload = none := hkinds
    rw [hnone]
    refine .plain ?_
    rw [Except.ok_then] at h
    rcases then_error h with h | ⟨status, -, h⟩
    · exact responseStatus_plain h
    rcases then_error h with h | ⟨metadata, -, h⟩
    · exact responseMetadata_plain h wire
    rcases then_error h with h | ⟨text, -, h⟩
    · exact responseError_plain h
    rcases then_error h with h | ⟨queueDepth, -, h⟩
    · exact responseInteger_plain (by decide) h
    rcases then_error h with h | ⟨overflowCount, -, h⟩
    · exact responseInteger_plain (by decide) h
    rcases then_error h with h | ⟨timestampUs, -, h⟩
    · exact responseInteger_plain (by decide) h
    cases h

end bodies

section answers

variable {depth : Nat} {requestId : Int} {raw : Bytes} {error : PyError} {answer : Answer}

/-- The header of a frame that is no COBS frame, too. -/
def headerOf (part : Bytes) : UnpackedHeader := unpackHeader (unstuffed part)

def payloadOf (part : Bytes) : Bytes := (unstuffed part).drop headerSize

/-- The received frames make up one message. -/
def assembles (requestId : Int) (raw : Bytes) : Bool :=
  ((decodeStream raw).bind fun frames => reassembleFrames frames (some requestId) none).toBool

/-- The numbers of the received bytes that are shown: those that the check which refuses them names, or else
the type of the message. -/
def shownNumbers (depth : Nat) (requestId : Int) (raw : Bytes) : List Nat :=
  if raw ≠ [] ∧ raw.getLast? ≠ some 0 then []
  else match refusedFrame raw, receivedFrames raw with
    | some part, _ => refusedNumbers part
    | none, [] => []
    | none, first :: rest =>
      let header := headerOf first
      if header.messageType = MessageType.request.value then []
      else if rest.length + 1 ≠ header.segmentCount then [rest.length + 1, header.segmentCount]
      else if !assembles requestId raw then []
      else if (decodeAnswer depth requestId raw).toBool then [header.messageType]
      else (refusedKind [] ((first :: rest).flatMap payloadOf)).toList

theorem payloads_of_accepted {parts : List Bytes} {frames : List WireFrame}
    (h : List.Forall₂ (fun part frame => decodeFrame part = .ok frame) parts frames) :
    frames.flatMap WireFrame.payload = parts.flatMap payloadOf := by
  induction h with
  | nil => rfl
  | cons hframe _ ih => rw [List.flatMap_cons, List.flatMap_cons, ih, (decodes_unstuffed hframe).payload, payloadOf]

theorem value_of_accepted {part : Bytes} {frame : WireFrame} (h : decodeFrame part = .ok frame) :
    frame.messageType.value = (headerOf part).messageType :=
  value_of_ofValue? (decodes_unstuffed h).kind

theorem shownNumbers_of_empty (h : decodeStream raw = .ok []) : shownNumbers depth requestId raw = [] := by
  unfold decodeStream at h
  split at h
  next => cases h
  next hpartial =>
    obtain ⟨hnone, hall⟩ := accepted_of_mapM h
    have hrefused : refusedFrame raw = none := hnone
    have hparts : receivedFrames raw = [] := List.forall₂_nil_right_iff.mp hall
    rw [shownNumbers, if_neg hpartial, hrefused, hparts]

/-- Where every frame is accepted, the numbers are those of the decoded frames. -/
theorem shownNumbers_of_stream {first : WireFrame} {rest : List WireFrame}
    (h : decodeStream raw = .ok (first :: rest)) : ∃ required : Nat, first.segmentCount = required ∧
      shownNumbers depth requestId raw =
        if first.messageType = .request then []
        else if rest.length + 1 ≠ required then [rest.length + 1, required]
        else if !(reassembleFrames (first :: rest) (some requestId) (some first.messageType)).toBool then []
        else if (decodeAnswer depth requestId raw).toBool then [first.messageType.value]
        else (refusedKind [] ((first :: rest).flatMap WireFrame.payload)).toList := by
  have hassembles : assembles requestId raw =
      (reassembleFrames (first :: rest) (some requestId) (some first.messageType)).toBool := by
    rw [assembles, h]
    rfl
  unfold decodeStream at h
  split at h
  next => cases h
  next hpartial =>
    obtain ⟨hnone, hall⟩ := accepted_of_mapM h
    have hrefused : refusedFrame raw = none := hnone
    have hpayloads := payloads_of_accepted hall
    cases hparts : receivedFrames raw with
    | nil =>
      change List.Forall₂ _ (receivedFrames raw) _ at hall
      rw [hparts] at hall
      cases hall
    | cons part parts =>
      change List.Forall₂ _ (receivedFrames raw) _ at hall
      change _ = (receivedFrames raw).flatMap payloadOf at hpayloads
      rw [hparts] at hall hpayloads
      obtain ⟨hfirst, hrest⟩ := List.forall₂_cons.mp hall
      have htype := value_of_accepted hfirst
      have hrequest : (headerOf part).messageType = MessageType.request.value ↔ first.messageType = .request := by
        rw [← htype]
        cases first.messageType <;> decide
      refine ⟨(headerOf part).segmentCount, (decodes_unstuffed hfirst).segmentCount, ?_⟩
      rw [shownNumbers, if_neg hpartial, hrefused, hparts]
      dsimp only
      simp only [hrequest, hassembles, hrest.length_eq, htype, hpayloads]

/-- An error that reports the received bytes shows the numbers that stand in them at that place. -/
theorem told_decodeAnswer (h : decodeAnswer depth requestId raw = .error error) (wire : error.isWire = true) :
    Told error (shownNumbers depth requestId raw) := by
  have hanswer := h
  unfold decodeAnswer at h
  rcases then_error h with hstream | ⟨frames, hstream, h⟩
  · unfold decodeStream at hstream
    rw [shownNumbers]
    split at hstream
    next hpartial =>
      rw [if_pos hpartial]
      cases hstream
      exact .plain (by simp [plainErrors])
    next hpartial =>
      obtain ⟨part, hpart, herror⟩ := refused_of_mapM hstream
      have hrefused : refusedFrame raw = some part := hpart
      rw [if_neg hpartial, hrefused]
      exact told_decodeFrame herror
  · cases frames with
    | nil =>
      cases h
      have hnone := @shownNumbers_of_empty depth requestId raw hstream
      rw [hnone]
      exact .plain (by simp [plainErrors])
    | cons first rest =>
      obtain ⟨required, hcount, hshown⟩ :=
        @shownNumbers_of_stream depth requestId raw first rest hstream
      rw [hshown]
      dsimp only at h
      by_cases hrequest : first.messageType = .request
      · rw [if_pos hrequest] at h ⊢
        cases h
        exact .plain (by simp [plainErrors])
      rw [if_neg hrequest] at h ⊢
      rcases then_error h with h | ⟨responseBody, hbody, h⟩
      · have htold := told_reassembleFrames hcount h
        rw [h]
        exact htold
      · obtain ⟨hpayload, -, hframes⟩ := reassembleFrames_ok hbody
        have hlength := (hframes 0 first rfl).2.2.1
        rw [hcount, List.length_cons] at hlength
        rw [if_neg (not_not.mpr (by omega)), hbody, hanswer]
        rcases then_error h with h | ⟨response, -, h⟩
        · have htold := told_decodeResponseBody h wire
          rw [hpayload] at htold
          exact htold
        · cases h

/-- Of an answer that is decoded the type is shown. -/
theorem shownNumbers_of_ok (h : decodeAnswer depth requestId raw = .ok answer) :
    shownNumbers depth requestId raw = [answer.first.messageType.value] := by
  have hanswer := h
  unfold decodeAnswer at h
  obtain ⟨frames, hstream, h⟩ := Except.then_ok h
  cases frames with
  | nil => cases h
  | cons first rest =>
    obtain ⟨required, hcount, hshown⟩ := @shownNumbers_of_stream depth requestId raw first rest hstream
    dsimp only at h
    split at h
    next => cases h
    next hrequest =>
      obtain ⟨responseBody, hbody, h⟩ := Except.then_ok h
      obtain ⟨response, -, h⟩ := Except.then_ok h
      cases h
      obtain ⟨-, -, hframes⟩ := reassembleFrames_ok hbody
      have hlength := (hframes 0 first rfl).2.2.1
      rw [hcount, List.length_cons] at hlength
      rw [hshown, if_neg hrequest, if_neg (not_not.mpr (by omega)), hbody, hanswer]
      rfl

end answers

end JLinkMcp.Bridge
