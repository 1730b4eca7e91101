/-! Streams of delimiter-free chunks, each closed by one delimiter. -/

namespace Codec

variable {α : Type}

/-- The chunks in a row, each followed by the delimiter. -/
def terminated (delim : α) (chunks : List (List α)) : List α :=
  chunks.flatMap (· ++ [delim])

@[simp] theorem terminated_nil (delim : α) : terminated delim [] = [] := rfl

@[simp] theorem terminated_cons (delim : α) (chunk : List α) (chunks : List (List α)) :
    terminated delim (chunk :: chunks) = chunk ++ delim :: terminated delim chunks := by
  simp [terminated]

theorem terminated_append (delim : α) (xs ys : List (List α)) :
    terminated delim (xs ++ ys) = terminated delim xs ++ terminated delim ys := by
  simp [terminated]

theorem terminated_getLast? (delim : α) {chunks : List (List α)} (h : chunks ≠ []) :
    (terminated delim chunks).getLast? = some delim := by
  rw [← List.dropLast_concat_getLast h, terminated_append]
  simp

theorem terminated_length_le {delim : α} {bound : Nat} {chunks : List (List α)}
    (h : ∀ chunk ∈ chunks, chunk.length ≤ bound) :
    (terminated delim chunks).length ≤ chunks.length * (bound + 1) := by
  induction chunks with
  | nil => exact Nat.zero_le _
  | cons chunk chunks ih =>
    have hchunk := h chunk List.mem_cons_self
    have ih := ih fun c hc => h c (List.mem_cons_of_mem chunk hc)
    rw [terminated_cons, List.length_append, List.length_cons, List.length_cons, Nat.succ_mul]
    omega

/-- Splitting finds the chunks again, and what follows the last delimiter. -/
theorem splitOn_terminated [BEq α] [LawfulBEq α] {delim : α} {chunks : List (List α)}
    {tail : List α} (free : ∀ chunk ∈ chunks, delim ∉ chunk) (tailFree : delim ∉ tail) :
    (terminated delim chunks ++ tail).splitOn delim = chunks ++ [tail] := by
  induction chunks with
  | nil => simpa using List.splitOn_eq_singleton tailFree
  | cons chunk chunks ih =>
    have h := ih fun c hc => free c (by simp [hc])
    rw [terminated_cons, List.append_assoc, List.cons_append,
      List.splitOn_append_cons_self_of_not_mem (free chunk (by simp)), h, List.cons_append]

/-- Where the first chunks are free of the delimiter, they are read off the streams. -/
theorem terminated_cons_inj {delim : α} {chunk chunk' : List α} {chunks chunks' : List (List α)}
    (free : delim ∉ chunk) (free' : delim ∉ chunk') :
    terminated delim (chunk :: chunks) = terminated delim (chunk' :: chunks') ↔
      chunk = chunk' ∧ terminated delim chunks = terminated delim chunks' := by
  rw [terminated_cons, terminated_cons]
  constructor
  · intro h
    rcases List.append_eq_append_iff.mp h with ⟨more, hchunk', hrest⟩ | ⟨more, hchunk, hrest⟩
    all_goals cases more with
    | nil => simp_all
    | cons x more =>
      obtain ⟨rfl, -⟩ := List.cons_eq_cons.mp hrest
      simp_all
  · rintro ⟨rfl, hrest⟩
    rw [hrest]

/-- One chunk that holds delimiters has the stream of many. -/
theorem exists_terminated_single (delim : α) {chunks : List (List α)} (nonempty : chunks ≠ []) :
    ∃ merged, terminated delim [merged] = terminated delim chunks := by
  have hlast := terminated_getLast? delim nonempty
  obtain ⟨merged, hmerged⟩ := List.getLast?_eq_some_iff.mp hlast
  exact ⟨merged, by rw [hmerged, terminated_cons, terminated_nil]⟩

/-- Every stream is a row of terminated chunks and an unterminated tail. -/
theorem exists_terminated [DecidableEq α] (delim : α) (stream : List α) :
    ∃ chunks tail, stream = terminated delim chunks ++ tail ∧
      (∀ chunk ∈ chunks, delim ∉ chunk) ∧ delim ∉ tail := by
  induction stream with
  | nil => exact ⟨[], [], by simp, by simp, by simp⟩
  | cons x stream ih =>
    obtain ⟨chunks, tail, rfl, free, tailFree⟩ := ih
    by_cases hx : x = delim
    · subst hx
      exact ⟨[] :: chunks, tail, by simp, by simpa using free, tailFree⟩
    · cases chunks with
      | nil => exact ⟨[], x :: tail, by simp, by simp, by simp [Ne.symm hx, tailFree]⟩
      | cons chunk chunks =>
        refine ⟨(x :: chunk) :: chunks, tail, by simp, ?_, tailFree⟩
        simp only [List.mem_cons, forall_eq_or_imp, not_or] at free ⊢
        exact ⟨⟨Ne.symm hx, free.1⟩, free.2⟩

end Codec
