import JLinkMcp.HostMessage

namespace JLinkMcp.Host

open Codec

theorem checkFrames_ok_iff {r : Int} {t : MessageType} {count : Int} {index : Nat}
    {frames : List WireFrame} :
    checkFrames r t count index frames = .ok () ↔
      ∀ (i : Nat) (frame : WireFrame), frames[i]? = some frame →
        frame.requestId = r ∧ frame.messageType = t ∧ frame.segmentCount = count ∧
          frame.segmentIndex = ((index + i : Nat) : Int) := by
  induction frames generalizing index with
  | nil => simp [checkFrames]
  | cons frame frames ih =>
    rw [checkFrames]
    split
    next bad =>
      simp only [reduceCtorEq, false_iff]
      intro all
      obtain ⟨hr, ht, hc, hi⟩ := all 0 frame rfl
      simp [hr, ht, hc, hi] at bad
    next good =>
      simp only [ne_eq, not_or, Classical.not_not] at good
      rw [ih]
      constructor
      · intro all i f hf
        cases i with
        | zero =>
          have : frame = f := by simpa using hf
          subst this
          simpa using good
        | succ i =>
          have h := all i f (by simpa using hf)
          rwa [show index + (i + 1) = index + 1 + i by omega]
      · intro all i f hf
        have h := all (i + 1) f (by simpa using hf)
        rwa [show index + (i + 1) = index + 1 + i by omega] at h

theorem checkFrames_error {r : Int} {t : MessageType} {count : Int} {index : Nat}
    {frames : List WireFrame} {e : PyError} (h : checkFrames r t count index frames = .error e) :
    e.isSequence := by
  induction frames generalizing index with
  | nil => simp [checkFrames] at h
  | cons frame frames ih =>
    rw [checkFrames] at h
    split at h
    next => cases Except.error.inj h; rfl
    next => exact ih h

/-- Reassembly fails with a `BridgeSequenceError` only. -/
theorem reassembleFrames_error {frames : List WireFrame} {r : Option Int} {t : Option MessageType}
    {e : PyError} (h : reassembleFrames frames r t = .error e) : e.isSequence := by
  cases frames with
  | nil => cases Except.error.inj h; rfl
  | cons first rest =>
    simp only [reassembleFrames] at h
    split at h
    next => cases Except.error.inj h; rfl
    next =>
      cases hc : checkFrames (r.getD first.requestId) (t.getD first.messageType) first.segmentCount
          0 (first :: rest) with
      | error e' =>
        rw [hc] at h
        cases Except.error.inj h
        exact checkFrames_error hc
      | ok u =>
        rw [hc, Except.ok_bind] at h
        split at h
        next => cases Except.error.inj h; rfl
        next => simp at h

theorem reassembleFrames_ok {frames : List WireFrame} {r : Int} {t : MessageType} {p : Bytes}
    (h : reassembleFrames frames (some r) (some t) = .ok p) :
    p = frames.flatMap WireFrame.payload ∧ frames ≠ [] ∧
      ∀ (i : Nat) (frame : WireFrame), frames[i]? = some frame →
        frame.requestId = r ∧ frame.messageType = t ∧ frame.segmentCount = frames.length ∧
          frame.segmentIndex = i := by
  cases frames with
  | nil => simp [reassembleFrames] at h
  | cons first rest =>
    simp only [reassembleFrames, Option.getD_some] at h
    split at h
    next => simp at h
    next hcount =>
      simp only [ne_eq, Classical.not_not] at hcount
      cases hc : checkFrames r t first.segmentCount 0 (first :: rest) with
      | error e' => simp [hc, Except.bind] at h
      | ok u =>
        rw [hc, Except.ok_bind] at h
        split at h
        next => simp at h
        next =>
          refine ⟨(Except.ok.inj h).symm, by simp, ?_⟩
          rw [hcount]
          simpa using checkFrames_ok_iff.mp hc

section roundtrip

variable {payload : Bytes} (short : payload.length ≤ maxBridgePayload) (t : MessageType) {r : Int}

include short in
theorem reassembleFrames_messageFrames :
    reassembleFrames (messageFrames payload t r) (some r) (some t) = .ok payload := by
  have hp := messageFrames_payload payload t r
  have hl := messageFrames_length payload t r
  have hn := messageChunks_length payload
  have hc : checkFrames r t (messageChunks payload).length 0 (messageFrames payload t r) =
      .ok () := by
    apply checkFrames_ok_iff.mpr
    intro i frame hf
    obtain ⟨chunk, _, rfl⟩ := messageFrames_getElem? hf
    simp
  cases hf : messageFrames payload t r with
  | nil =>
    rw [hf] at hl
    simp at hl
    omega
  | cons first rest =>
    obtain ⟨chunk, _, hfirst⟩ := messageFrames_getElem? (show
      (messageFrames payload t r)[0]? = some first by rw [hf]; rfl)
    rw [hf] at hc hp hl
    have hcount : first.segmentCount = (messageChunks payload).length := by rw [hfirst]
    simp only [reassembleFrames, Option.getD_some, hcount, hl, hc, hp, Except.ok_bind, ne_eq,
      not_true_eq_false, if_false]
    rw [if_neg (by omega)]

/-- Frames of this message alone reassemble only when they are exactly its frames. -/
theorem eq_messageFrames_of_reassembled {frames : List WireFrame} {p : Bytes}
    (known : ∀ f ∈ frames, f ∈ messageFrames payload t r ∨ f.requestId ≠ r ∨ f.messageType ≠ t)
    (h : reassembleFrames frames (some r) (some t) = .ok p) : frames = messageFrames payload t r := by
  obtain ⟨_, hne, all⟩ := reassembleFrames_ok h
  have own : ∀ (i : Nat) (frame : WireFrame), frames[i]? = some frame →
      (messageFrames payload t r)[i]? = some frame ∧ frame.segmentCount = (messageChunks payload).length := by
    intro i frame hf
    obtain ⟨hr, ht, _, hi⟩ := all i frame hf
    have hm : frame ∈ messageFrames payload t r := by
      rcases known frame (List.mem_of_getElem? hf) with hm | hr' | ht'
      · exact hm
      · exact absurd hr hr'
      · exact absurd ht ht'
    obtain ⟨j, hj⟩ := List.mem_iff_getElem?.mp hm
    obtain ⟨chunk, _, rfl⟩ := messageFrames_getElem? hj
    have hij : j = i := by
      simp only at hi
      omega
    exact ⟨hij ▸ hj, rfl⟩
  obtain ⟨first, hf⟩ : ∃ first, frames[0]? = some first := by
    have := List.length_pos_iff.mpr hne
    exact ⟨frames[0], List.getElem?_eq_getElem this⟩
  have hlen : frames.length = (messageFrames payload t r).length := by
    have hcount := (all 0 first hf).2.2.1
    rw [(own 0 first hf).2] at hcount
    rw [messageFrames_length]
    omega
  apply List.ext_getElem?
  intro i
  cases hi : frames[i]? with
  | some frame => exact (own i frame hi).1.symm
  | none =>
    rw [List.getElem?_eq_none_iff] at hi
    exact (List.getElem?_eq_none_iff.mpr (by omega)).symm

end roundtrip

/-- A message survives the wire, and no other list of its frames and of foreign frames
reassembles to anything. -/
theorem encodeMessage_roundtrip_no_wrong_assembly (payload : Bytes)
    (short : payload.length ≤ maxBridgePayload) (t : MessageType) (r : Int)
    (id_nonneg : 0 ≤ r) (id_le : r ≤ 0xFFFFFFFF) :
    ∃ stream frames, encodeMessage payload t r = .ok stream ∧ decodeStream stream = .ok frames ∧
      frames.length = max 1 ((payload.length + 4076 - 1) / 4076) ∧
      reassembleFrames frames (some r) (some t) = .ok payload ∧
      ∀ others : List WireFrame,
        (∀ f ∈ others, f ∈ frames ∨ f.requestId ≠ r ∨ f.messageType ≠ t) →
        (others = frames ∧ reassembleFrames others (some r) (some t) = .ok payload) ∨
        (others ≠ frames ∧ ∃ e, reassembleFrames others (some r) (some t) = .error e ∧
          e.isSequence) := by
  have hs := encodeMessage_eq_terminated short t id_nonneg id_le
  refine ⟨_, messageFrames payload t r, hs, decodeStream_encodeMessage short t id_nonneg id_le hs,
    ?_, reassembleFrames_messageFrames short t, ?_⟩
  · rw [messageFrames_length, messageChunks_length]
    rfl
  · intro others known
    by_cases heq : others = messageFrames payload t r
    · exact Or.inl ⟨heq, heq ▸ reassembleFrames_messageFrames short t⟩
    · refine Or.inr ⟨heq, ?_⟩
      cases h : reassembleFrames others (some r) (some t) with
      | ok p => exact absurd (eq_messageFrames_of_reassembled t known h) heq
      | error e => exact ⟨e, rfl, reassembleFrames_error h⟩

theorem encodeMessage_roundtrip_two_bytes :
    ∃ stream frames, encodeMessage [0, 7] .request 5 = .ok stream ∧
      decodeStream stream = .ok frames ∧ frames.length = 1 ∧
      reassembleFrames frames (some 5) (some .request) = .ok [0, 7] := by
  obtain ⟨stream, frames, hs, hd, hl, hr, _⟩ :=
    encodeMessage_roundtrip_no_wrong_assembly [0, 7] (by decide) .request 5 (by decide) (by decide)
  exact ⟨stream, frames, hs, hd, hl, hr⟩

end JLinkMcp.Host
