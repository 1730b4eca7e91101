import Mathlib.Data.List.Perm.Basic
import Mathlib.Logic.Function.Basic

/-! Cells that were empty when they were filled, and entries at the end of a list, as a log of what was
filled and added takes them away again in whatever order. -/

namespace UndoLog

section cells

variable {Key Value : Type} [DecidableEq Key] {empty value : Value} {before now : Key → Value}
  {keys keys' : List Key} {key : Key}

/-- Empties the cells one after the other. -/
def clearAll (empty : Value) : (Key → Value) → List Key → Key → Value :=
  List.foldl fun cells key => Function.update cells key empty

theorem clearAll_apply (cells : Key → Value) (keys : List Key) (key : Key) :
    clearAll empty cells keys key = if key ∈ keys then empty else cells key := by
  induction keys generalizing cells with
  | nil => rfl
  | cons first rest ih =>
    have hstep : clearAll empty cells (first :: rest) = clearAll empty (Function.update cells first empty) rest :=
      rfl
    rw [hstep, ih]
    by_cases hrest : key ∈ rest
    · rw [if_pos hrest, if_pos (List.mem_cons_of_mem first hrest)]
    · rw [if_neg hrest]
      by_cases hfirst : key = first
      · rw [hfirst, Function.update_self, if_pos List.mem_cons_self]
      · have hnot : key ∉ first :: rest := fun h => (List.mem_cons.mp h).elim hfirst hrest
        rw [Function.update_of_ne hfirst, if_neg hnot]

/-- The cells of the log were empty and are filled, and the others are as they were. -/
structure Filled (empty : Value) (before now : Key → Value) (keys : List Key) : Prop where
  was_empty : ∀ key ∈ keys, before key = empty
  is_filled : ∀ key ∈ keys, now key ≠ empty
  others : ∀ key, key ∉ keys → now key = before key

omit [DecidableEq Key] in
theorem filled_nothing (cells : Key → Value) : Filled empty cells cells [] :=
  ⟨nofun, nofun, fun _ _ => rfl⟩

/-- Filling a cell that is empty. -/
theorem Filled.fill (h : Filled empty before now keys) (free : now key = empty) (hvalue : value ≠ empty) :
    Filled empty before (Function.update now key value) (keys ++ [key]) := by
  have hfresh : key ∉ keys := fun hkey => h.is_filled key hkey free
  constructor
  · intro other hother
    rcases List.mem_append.mp hother with hother | hother
    · exact h.was_empty other hother
    · rw [List.mem_singleton.mp hother, ← h.others key hfresh, free]
  · intro other hother
    by_cases hkey : other = key
    · rw [hkey, Function.update_self]
      exact hvalue
    · rw [Function.update_of_ne hkey]
      rcases List.mem_append.mp hother with hother | hother
      · exact h.is_filled other hother
      · exact absurd (List.mem_singleton.mp hother) hkey
  · intro other hother
    have hkey : other ≠ key := fun hkey =>
      hother (List.mem_append_right keys (List.mem_singleton.mpr hkey))
    rw [Function.update_of_ne hkey]
    exact h.others other fun hmem => hother (List.mem_append_left _ hmem)

/-- Emptying the cells of the log, in whatever order, gives the cells back as they were. -/
theorem Filled.clearAll (h : Filled empty before now keys) (perm : keys'.Perm keys) :
    clearAll empty now keys' = before := by
  funext key
  rw [clearAll_apply]
  by_cases hkey : key ∈ keys'
  · rw [if_pos hkey, h.was_empty key (perm.subset hkey)]
  · rw [if_neg hkey]
    exact h.others key fun hmem => hkey (perm.symm.subset hmem)

omit [DecidableEq Key] in
/-- Cells that are as they were have an empty log. -/
theorem Filled.eq_nil (h : Filled empty before now keys) (same : now = before) : keys = [] := by
  cases keys with
  | nil => rfl
  | cons key rest =>
    have hfilled := h.is_filled key List.mem_cons_self
    rw [same, h.was_empty key List.mem_cons_self] at hfilled
    exact absurd rfl hfilled

omit [DecidableEq Key] in
theorem Filled.eq_before (h : Filled empty before now []) : now = before := funext fun key => h.others key nofun

end cells

section entries

variable {Entry : Type} [BEq Entry] [LawfulBEq Entry] {before added removed : List Entry}

/-- Removing the first equal entry for each that was added gives the list back. -/
def Removable (before now : List Entry) : Prop := now.diff (now.drop before.length) = before

theorem removeAll_eq (perm : removed.Perm added) :
    removed.foldl List.erase (before ++ added) = (before ++ added).diff added := by
  rw [← List.diff_eq_foldl, List.Perm.diff_left _ perm]

theorem removable_iff (perm : removed.Perm added) :
    removed.foldl List.erase (before ++ added) = before ↔ Removable before (before ++ added) := by
  rw [Removable, List.drop_left, removeAll_eq perm]

/-- Entries that the list did not have before are removed where they were added. -/
theorem removable_of_new (new : ∀ entry ∈ added, entry ∉ before) : Removable before (before ++ added) := by
  rw [Removable, List.drop_left]
  induction added with
  | nil => rw [List.append_nil, List.diff_nil]
  | cons entry rest ih =>
    rw [List.diff_cons, List.erase_append_right _ (new entry List.mem_cons_self), List.erase_cons_head]
    exact ih fun other hother => new other (List.mem_cons_of_mem entry hother)

end entries

end UndoLog
