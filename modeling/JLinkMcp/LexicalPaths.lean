import Mathlib.Data.List.Basic

/-! Paths of names and parent steps, read lexically. -/

namespace LexicalPaths

variable {α : Type} [DecidableEq α] {up : α} {path start parts : List α} {part : α}

/-- The directory a part leads to from the directory. -/
def walk (up : α) (path : List α) (part : α) : List α := if part = up then path.dropLast else path ++ [part]

/-- The directory that the parts name, from the root; there is nothing above the root. -/
def normalize (up : α) (parts : List α) : List α := parts.foldl (walk up) []

/-- The parent steps that no name before them takes back, and the names behind them. -/
def reduceStep (up : α) (reduced : Nat × List α) (part : α) : Nat × List α :=
  if part = up then
    if reduced.2 = [] then (reduced.1 + 1, []) else (reduced.1, reduced.2.dropLast)
  else (reduced.1, reduced.2 ++ [part])

def reduce (up : α) (parts : List α) : Nat × List α := parts.foldl (reduceStep up) (0, [])

/-- Where a reduced path leads to from a directory. -/
def climb (start : List α) (reduced : Nat × List α) : List α := start.take (start.length - reduced.1) ++ reduced.2

theorem walk_climb {reduced : Nat × List α} :
    walk up (climb start reduced) part = climb start (reduceStep up reduced part) := by
  obtain ⟨ups, names⟩ := reduced
  by_cases hup : part = up
  · rw [walk, if_pos hup, reduceStep, if_pos hup]
    by_cases hnames : names = []
    · subst hnames
      rw [if_pos rfl, climb, climb, List.append_nil, List.append_nil, List.dropLast_eq_take, List.take_take]
      congr 1
      rw [List.length_take]
      omega
    · rw [if_neg hnames, climb, climb, List.dropLast_append_of_ne_nil hnames]
  · rw [walk, if_neg hup, reduceStep, if_neg hup, climb, climb, List.append_assoc]

theorem foldl_walk_climb {reduced : Nat × List α} :
    parts.foldl (walk up) (climb start reduced) = climb start (parts.foldl (reduceStep up) reduced) := by
  induction parts generalizing reduced with
  | nil => rfl
  | cons part parts ih =>
    rw [List.foldl_cons, List.foldl_cons, walk_climb]
    exact ih

/-- A path behind another leads where its reduced form leads to from there. -/
theorem normalize_append : normalize up (start ++ parts) = climb (normalize up start) (reduce up parts) := by
  have hstart : climb (normalize up start) (0, []) = normalize up start := by
    rw [climb, List.append_nil, Nat.sub_zero, List.take_length]
  have hrun : parts.foldl (walk up) (climb (normalize up start) (0, [])) =
      climb (normalize up start) (reduce up parts) := foldl_walk_climb
  rw [hstart] at hrun
  rw [normalize, List.foldl_append]
  exact hrun

/-- A path whose parent steps all take back a name does not leave the directory. -/
theorem prefix_normalize_append (h : (reduce up parts).1 = 0) :
    normalize up start <+: normalize up (start ++ parts) := by
  rw [normalize_append, climb, h, Nat.sub_zero, List.take_length]
  exact List.prefix_append _ _

end LexicalPaths
