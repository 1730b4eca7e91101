import JLinkMcp.FirmwareDelivery

namespace JLinkMcp.Firmware

open Codec

/-- The maximal zero-free runs of the stream that a zero terminates. -/
def terminatedRuns (stream : Bytes) : List Bytes := (stream.splitOn 0).dropLast

/-- The frames of a stream: its non-empty terminated runs that fit the input buffer. -/
def framesOf (stream : Bytes) : List Bytes :=
  (terminatedRuns stream).filter fun run => run ≠ [] ∧ run.length ≤ kEncodedCapacity

theorem terminatedRuns_terminated {runs : List Bytes} {tail : Bytes}
    (free : ∀ run ∈ runs, (0 : UInt8) ∉ run) (tailFree : (0 : UInt8) ∉ tail) :
    terminatedRuns (terminated 0 runs ++ tail) = runs := by
  rw [terminatedRuns, splitOn_terminated free tailFree, List.dropLast_concat]

/-- The frames handed over on any stream: what is kept of each terminated run, when not empty. -/
theorem consumedFrames_receiveCalls (calls : List Bytes) :
    consumedFrames (receiveCalls Receiver.powerUp calls).2 =
      ((terminatedRuns calls.flatten).map keptOf).filter (· ≠ []) := by
  obtain ⟨runs, tail, hstream, free, tailFree⟩ := exists_terminated (0 : UInt8) calls.flatten
  have hruns := @consumedFrames_receive_terminated runs free Receiver.powerUp rfl
  have htail := @receive_zero_free tail tailFree (receive Receiver.powerUp (terminated 0 runs)).1 [] hruns.1
  rw [receiveCalls_eq_receive, hstream, terminatedRuns_terminated free tailFree, receive_append]
  simp only [htail.2, List.append_nil, hruns.2]

theorem keptOf_eq_nil_iff (run : Bytes) :
    keptOf run = [] ↔ run.length % (kEncodedCapacity + 1) = 0 := by
  rw [← List.length_eq_zero_iff, keptOf_length]

theorem keptOf_ne_nil_iff {run : Bytes}
    (h : run.length ≤ kEncodedCapacity ∨ run.length % (kEncodedCapacity + 1) = 0) :
    keptOf run ≠ [] ↔ run ≠ [] ∧ run.length ≤ kEncodedCapacity := by
  by_cases hle : run.length ≤ kEncodedCapacity
  · simp [keptOf_eq_self hle, hle]
  · have hnil := (keptOf_eq_nil_iff run).mpr (h.resolve_left hle)
    simp [hnil, hle]

/-- Two filters of which one passes more, with the same number passed, pass the same. -/
theorem countP_eq_iff_of_imp {α : Type} {p q : α → Bool} {xs : List α}
    (himp : ∀ x ∈ xs, p x = true → q x = true) :
    xs.countP p = xs.countP q ↔ ∀ x ∈ xs, q x = true → p x = true := by
  induction xs with
  | nil => simp
  | cons x xs ih =>
    have hle := List.countP_mono_left fun y hy => himp y (List.mem_cons_of_mem x hy)
    have ih := ih fun y hy => himp y (List.mem_cons_of_mem x hy)
    have hx := himp x List.mem_cons_self
    simp only [List.countP_cons, List.mem_cons, forall_eq_or_imp, ← ih]
    by_cases hp : p x = true <;> by_cases hq : q x = true <;> simp_all
    omega

/-- Exactly on the streams whose over-long terminated runs all have a multiple of 4117 bytes, the
frames handed over are the frames of the stream. -/
theorem consumedFrames_eq_framesOf_iff (calls : List Bytes) :
    consumedFrames (receiveCalls Receiver.powerUp calls).2 = framesOf calls.flatten ↔
      ∀ run ∈ terminatedRuns calls.flatten,
        run.length ≤ kEncodedCapacity ∨ run.length % (kEncodedCapacity + 1) = 0 := by
  rw [consumedFrames_receiveCalls, framesOf]
  generalize terminatedRuns calls.flatten = runs
  constructor
  · intro heq run hrun
    have hcount := congrArg List.length heq.symm
    rw [← List.countP_eq_length_filter, ← List.countP_eq_length_filter, List.countP_map,
      countP_eq_iff_of_imp] at hcount
    · have hkept := hcount run hrun
      by_cases hz : run.length % (kEncodedCapacity + 1) = 0
      · exact Or.inr hz
      · have hne : keptOf run ≠ [] := fun h => hz ((keptOf_eq_nil_iff run).mp h)
        have h := hkept (by simpa using hne)
        simp only [decide_eq_true_eq] at h
        exact Or.inl h.2
    · intro other _ h
      simp only [decide_eq_true_eq] at h
      simpa [keptOf_eq_self h.2] using h.1
  · intro h
    induction runs with
    | nil => rfl
    | cons run runs ih =>
      have ih := ih fun r hr => h r (List.mem_cons_of_mem run hr)
      have hhead := keptOf_ne_nil_iff (h run List.mem_cons_self)
      rw [List.map_cons, List.filter_cons, List.filter_cons, ih]
      by_cases hk : run ≠ [] ∧ run.length ≤ kEncodedCapacity
      · simp [hk.1, hk.2, keptOf_eq_self hk.2]
      · simp only [hhead, hk, decide_false, Bool.false_eq_true, if_false]

theorem consumedFrames_consumed {α : Type} (encoded : α → Bytes) (xs : List α) :
    consumedFrames (xs.map fun x => .consumed (encoded x)) = xs.map encoded := by
  rw [consumedFrames, List.filterMap_map]
  exact congrFun List.filterMap_eq_map xs

theorem dispatchedRequests_consumed {α : Type} (encoded : α → Bytes) (xs : List α) :
    dispatchedRequests (xs.map fun x => .consumed (encoded x)) = [] := by
  rw [dispatchedRequests, List.filterMap_map]
  exact List.filterMap_eq_nil_iff.mpr fun _ _ => rfl

/-- The end of an over-long run is executed when a multiple of 4117 bytes comes before it. -/
theorem dispatched_overlong {filler run payload : Bytes} {r : Nat} (free : (0 : UInt8) ∉ filler)
    (nonempty : filler ≠ []) (full : filler.length % (kEncodedCapacity + 1) = 0)
    (runFree : (0 : UInt8) ∉ run) (short : payload.length ≤ kMaxMessage) (hr : r < 2 ^ 32)
    (encoded : Host.encodeMessage payload .request r = .ok (run ++ [0])) :
    framesOf (filler ++ (run ++ [0])) = [] ∧
      consumedFrames (receive Receiver.powerUp (filler ++ (run ++ [0]))).2 =
        (Host.messageFrames payload .request r).map (fun frame => stuff (Host.rawFrame frame)) ∧
      dispatchedRequests (receive Receiver.powerUp (filler ++ (run ++ [0]))).2 = [(r, payload)] := by
  constructor
  · have hruns : terminatedRuns (filler ++ (run ++ [0])) = [filler ++ run] := by
      have h := @terminatedRuns_terminated [filler ++ run] [] (by simp [free, runFree])
        (by simp)
      simpa using h
    have hlong : ¬(filler ++ run).length ≤ kEncodedCapacity := by
      have := List.length_pos_iff.mpr nonempty
      rw [List.length_append]
      intro hle
      rw [Nat.mod_eq_of_lt (by omega)] at full
      omega
    rw [framesOf, hruns, List.filter_eq_nil_iff]
    intro other hother
    rw [List.mem_singleton.mp hother, decide_eq_true_eq]
    exact fun h => hlong h.2
  · have hfill := @receive_zero_free filler free Receiver.powerUp [] rfl
    have hempty : keptOf ([] ++ filler) = [] := (keptOf_eq_nil_iff _).mpr full
    rw [receive_append, receive_encodeMessage short hr encoded (hfill.1.trans hempty), hfill.2,
      List.nil_append, consumedFrames_append, dispatchedRequests_append]
    rw [consumedFrames_consumed, dispatchedRequests_consumed]
    exact ⟨List.append_nil _, rfl⟩

theorem consumedFrames_overlong :
    let stream : Bytes := List.replicate 4117 1 ++ [8, 74, 76, 80, 66, 1, 1, 9, 1, 1, 1, 1, 2, 1, 2, 6, 6,
      219, 231, 112, 62, 1, 2, 2, 2, 1, 1, 0]
    framesOf stream = [] ∧ consumedFrames (receiveCalls Receiver.powerUp [stream]).2 ≠ framesOf stream ∧
      dispatchedRequests (receiveCalls Receiver.powerUp [stream]).2 = [(9, [1, 0, 2, 0, 1, 0])] := by
  intro stream
  have hfree : (0 : UInt8) ∉ List.replicate 4117 1 := by
    rw [List.mem_replicate]
    decide
  obtain ⟨hframes, hconsumed, hdispatched⟩ := @dispatched_overlong (List.replicate 4117 1)
    [8, 74, 76, 80, 66, 1, 1, 9, 1, 1, 1, 1, 2, 1, 2, 6, 6, 219, 231, 112, 62, 1, 2, 2, 2, 1, 1]
    [1, 0, 2, 0, 1, 0] 9 hfree (List.ne_nil_of_length_pos (by rw [List.length_replicate]; decide))
    (by rw [List.length_replicate]; rfl) (by decide) (by decide) (by decide) (by decide +kernel)
  have hcalls : receiveCalls Receiver.powerUp [stream] = receive Receiver.powerUp stream := by
    rw [receiveCalls_eq_receive, List.flatten_singleton]
  rw [hcalls]
  refine ⟨hframes, ?_, hdispatched⟩
  have hframes : framesOf stream = [] := hframes
  have hconsumed : consumedFrames (receive Receiver.powerUp stream).2 = _ := hconsumed
  rw [hframes, hconsumed]
  decide

end JLinkMcp.Firmware
