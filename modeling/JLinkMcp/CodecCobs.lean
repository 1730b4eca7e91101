/-! Consistent overhead byte stuffing, as a recursion on the message. -/

namespace Codec

/-- The code byte in front of a block that is not full. -/
def blockCode (block : List UInt8) : UInt8 := UInt8.ofNat (block.length + 1)

/-- The code blocks of a message whose current block already holds `block`. -/
def stuffFrom (block : List UInt8) : List UInt8 → List UInt8
  | [] => blockCode block :: block
  | b :: rest =>
    if b = 0 then blockCode block :: (block ++ stuffFrom [] rest)
    else if block.length + 1 = 254 then 255 :: (block ++ b :: stuffFrom [] rest)
    else stuffFrom (block ++ [b]) rest

def stuff (message : List UInt8) : List UInt8 := stuffFrom [] message

/-- Reads code blocks back; `none` when a code is zero or runs past the end. -/
def unstuff : List UInt8 → Option (List UInt8)
  | [] => some []
  | code :: rest =>
    if code = 0 ∨ rest.length < code.toNat - 1 then none
    else
      (unstuff (rest.drop (code.toNat - 1))).map fun out =>
        rest.take (code.toNat - 1) ++
          if code ≠ 255 ∧ rest.drop (code.toNat - 1) ≠ [] then 0 :: out else out
termination_by encoded => encoded.length
decreasing_by exact Nat.lt_succ_of_le (by rw [List.length_drop]; exact Nat.sub_le _ _)

theorem blockCode_toNat {block : List UInt8} (short : block.length < 254) :
    (blockCode block).toNat = block.length + 1 := by
  simp only [blockCode, UInt8.toNat_ofNat']
  omega

theorem blockCode_ne_zero {block : List UInt8} (short : block.length < 254) :
    blockCode block ≠ 0 := by
  intro h
  have := blockCode_toNat short
  simp [h] at this

theorem blockCode_ne_max {block : List UInt8} (short : block.length < 254) :
    blockCode block ≠ 255 := by
  intro h
  have := blockCode_toNat short
  simp only [h, UInt8.reduceToNat] at this
  omega

theorem stuffFrom_ne_nil (block rest : List UInt8) : stuffFrom block rest ≠ [] := by
  induction rest generalizing block with
  | nil => simp [stuffFrom]
  | cons b rest ih =>
    simp only [stuffFrom]
    split
    next => simp
    next =>
      split
      next => simp
      next => exact ih _

/-- The delimiter never occurs inside the encoding. -/
theorem zero_not_mem_stuffFrom {block : List UInt8} (rest : List UInt8)
    (free : 0 ∉ block) (short : block.length < 254) : 0 ∉ stuffFrom block rest := by
  induction rest generalizing block with
  | nil =>
    have hc := blockCode_ne_zero short
    simp only [stuffFrom, List.mem_cons, not_or]
    exact ⟨hc.symm, free⟩
  | cons b rest ih =>
    have hc := blockCode_ne_zero short
    have hnil : (0 : UInt8) ∉ stuffFrom [] rest := ih (by simp) (by simp)
    simp only [stuffFrom]
    split
    next => simp only [List.mem_cons, List.mem_append, not_or]; exact ⟨hc.symm, free, hnil⟩
    next hb =>
      split
      next =>
        simp only [List.mem_cons, List.mem_append, not_or]
        exact ⟨by decide, free, Ne.symm hb, hnil⟩
      next hl =>
        apply ih
        · simp only [List.mem_append, List.mem_singleton, not_or]
          exact ⟨free, Ne.symm hb⟩
        · simp only [List.length_append, List.length_singleton]
          omega

theorem zero_not_mem_stuff (message : List UInt8) : 0 ∉ stuff message :=
  zero_not_mem_stuffFrom message (by simp) (by simp)

/-- Every block of 254 bytes costs one code byte, and the last block one more. -/
theorem stuffFrom_length_le {block : List UInt8} (rest : List UInt8) (short : block.length < 254) :
    (stuffFrom block rest).length ≤
      block.length + rest.length + (block.length + rest.length) / 254 + 1 := by
  induction rest generalizing block with
  | nil => simp [stuffFrom]
  | cons b rest ih =>
    have hnil := @ih [] (by simp)
    simp only [List.length_nil, Nat.zero_add] at hnil
    simp only [stuffFrom]
    split
    next => simp only [List.length_cons, List.length_append]; omega
    next =>
      split
      next => simp only [List.length_cons, List.length_append]; omega
      next =>
        have := @ih (block ++ [b]) (by simp; omega)
        simp only [List.length_cons, List.length_append, List.length_nil] at *
        omega

theorem stuffFrom_length_ge {block : List UInt8} (rest : List UInt8) :
    block.length + rest.length + 1 ≤ (stuffFrom block rest).length := by
  induction rest generalizing block with
  | nil => simp [stuffFrom]
  | cons b rest ih =>
    have hnil := @ih []
    have hnext := @ih (block ++ [b])
    simp only [stuffFrom]
    split
    next => simp only [List.length_cons, List.length_append, List.length_nil] at *; omega
    next =>
      split
      next => simp only [List.length_cons, List.length_append, List.length_nil] at *; omega
      next => simp only [List.length_cons, List.length_append, List.length_nil] at *; omega

theorem stuff_length_le (message : List UInt8) :
    (stuff message).length ≤ message.length + message.length / 254 + 1 := by
  simpa [stuff] using @stuffFrom_length_le [] message (by simp)

/-- One whole block in front of further blocks. -/
theorem unstuff_block {block tail : List UInt8} (short : block.length < 254) :
    unstuff (blockCode block :: (block ++ tail)) =
      (unstuff tail).map fun out => block ++ if tail ≠ [] then 0 :: out else out := by
  have hc := blockCode_ne_zero short
  have hm := blockCode_ne_max short
  have hn : (blockCode block).toNat - 1 = block.length := by simp [blockCode_toNat short]
  rw [unstuff, hn, if_neg (by simp [hc])]
  simp [hm]

theorem unstuff_full_block {block tail : List UInt8} (full : block.length = 254) :
    unstuff (255 :: (block ++ tail)) = (unstuff tail).map fun out => block ++ out := by
  have hn : (255 : UInt8).toNat - 1 = block.length := by simp [full]
  rw [unstuff, hn, if_neg (by simp)]
  simp

theorem unstuff_stuffFrom {block : List UInt8} (rest : List UInt8) (short : block.length < 254) :
    unstuff (stuffFrom block rest) = some (block ++ rest) := by
  induction rest generalizing block with
  | nil =>
    have h := @unstuff_block block [] short
    simpa [stuffFrom, unstuff] using h
  | cons b rest ih =>
    have hnil := @ih [] (by simp)
    simp only [stuffFrom]
    split
    next hb => simp [unstuff_block short, hnil, stuffFrom_ne_nil, hb]
    next =>
      split
      next hl =>
        have h := @unstuff_full_block (block ++ [b]) (stuffFrom [] rest) (by simpa using hl)
        simpa [hnil] using h
      next => simpa using @ih (block ++ [b]) (by simp; omega)

theorem unstuff_stuff (message : List UInt8) : unstuff (stuff message) = some message := by
  simpa [stuff] using @unstuff_stuffFrom [] message (by simp)

/-- Reading blocks back never makes them longer. -/
theorem unstuff_length_le {encoded out : List UInt8} (h : unstuff encoded = some out) :
    out.length ≤ encoded.length := by
  fun_induction unstuff encoded generalizing out with
  | case1 => cases h; exact Nat.le_refl _
  | case2 code rest bad => cases h
  | case3 code rest ok ih =>
    obtain ⟨tail, htail, rfl⟩ := Option.map_eq_some_iff.mp h
    have hle := ih htail
    rw [List.length_drop] at hle
    split
    next hzero =>
      have hpos := List.length_pos_iff.mpr hzero.2
      simp only [List.length_append, List.length_take, List.length_cons, List.length_drop] at hpos ⊢
      omega
    next =>
      simp only [List.length_append, List.length_take, List.length_cons]
      omega

/-- The full blocks that another block follows. -/
def fullBlocks : List UInt8 → Nat
  | [] => 0
  | code :: rest =>
    (if code = 255 ∧ rest.drop (code.toNat - 1) ≠ [] then 1 else 0) + fullBlocks (rest.drop (code.toNat - 1))
termination_by encoded => encoded.length

/-- What was read is shorter by the first code and by those that stand for no zero. -/
theorem unstuff_length {encoded out : List UInt8} (h : unstuff encoded = some out) (nonempty : encoded ≠ []) :
    encoded.length = out.length + 1 + fullBlocks encoded := by
  fun_induction unstuff encoded generalizing out with
  | case1 => exact absurd rfl nonempty
  | case2 code rest bad => cases h
  | case3 code rest ok ih =>
    obtain ⟨tail, htail, rfl⟩ := Option.map_eq_some_iff.mp h
    rw [not_or, Nat.not_lt] at ok
    have hrest : rest.length = (code.toNat - 1) + (rest.drop (code.toNat - 1)).length := by
      rw [List.length_drop]
      omega
    have htake : (rest.take (code.toNat - 1)).length = code.toNat - 1 := List.length_take_of_le ok.2
    rw [fullBlocks, List.length_cons, List.length_append, htake, hrest]
    by_cases hlast : rest.drop (code.toNat - 1) = []
    · rw [hlast, unstuff] at htail
      cases Option.some.inj htail
      simp only [hlast, ne_eq, not_true_eq_false, and_false, if_false, List.length_nil, fullBlocks]
    · have hlength := ih htail hlast
      by_cases hfull : code = 255
      · rw [if_neg (fun h => h.1 hfull), if_pos ⟨hfull, hlast⟩]
        omega
      · rw [if_pos ⟨hfull, hlast⟩, if_neg (fun h => hfull h.1), List.length_cons]
        omega

/-- The full blocks of a message whose current block already holds `held` bytes. -/
def fullRunsFrom : Nat → List UInt8 → Nat
  | _, [] => 0
  | held, b :: rest =>
    if b = 0 then fullRunsFrom 0 rest
    else if held + 1 = 254 then fullRunsFrom 0 rest + 1
    else fullRunsFrom (held + 1) rest

/-- The runs of 254 bytes without a zero. -/
def fullRuns (message : List UInt8) : Nat := fullRunsFrom 0 message

/-- Every full run costs one byte, and the last block one more. -/
theorem stuffFrom_length (block rest : List UInt8) :
    (stuffFrom block rest).length = block.length + rest.length + fullRunsFrom block.length rest + 1 := by
  induction rest generalizing block with
  | nil => rfl
  | cons b rest ih =>
    have hnil := ih []
    have hnext := ih (block ++ [b])
    rw [List.length_append, List.length_singleton] at hnext
    rw [stuffFrom, fullRunsFrom]
    split
    next => simp only [List.length_cons, List.length_append, List.length_nil] at *; omega
    next =>
      split
      next => simp only [List.length_cons, List.length_append, List.length_nil] at *; omega
      next => rw [hnext, List.length_cons]; omega

theorem stuff_length (message : List UInt8) :
    (stuff message).length = message.length + fullRuns message + 1 := by
  rw [stuff, stuffFrom_length, List.length_nil, Nat.zero_add, fullRuns]

theorem stuff_inj {m n : List UInt8} (h : stuff m = stuff n) : m = n := by
  have := congrArg unstuff h
  simpa [unstuff_stuff] using this

end Codec
