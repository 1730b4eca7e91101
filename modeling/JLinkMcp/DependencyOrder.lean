import Mathlib.Data.List.Chain
import Mathlib.Data.List.Nodup
import Mathlib.Logic.Relation

/-! Orders in which everything comes after what it depends on, and the cycles that exclude them. -/

namespace DependencyOrder

variable {α : Type} {depends : α → α → Prop} {order : List α} {a b : α}

/-- Everything in the list comes after what it depends on, and once. -/
inductive InOrder (depends : α → α → Prop) : List α → Prop
  | nil : InOrder depends []
  | append {order : List α} {a : α} (before : InOrder depends order) (ready : ∀ b, depends a b → b ∈ order)
      (fresh : a ∉ order) : InOrder depends (order ++ [a])

theorem InOrder.closed (h : InOrder depends order) (ha : a ∈ order) (hb : depends a b) : b ∈ order := by
  induction h with
  | nil => cases ha
  | append before ready fresh ih =>
    rcases List.mem_append.mp ha with ha | ha
    · exact List.mem_append_left _ (ih ha)
    · rw [List.mem_singleton.mp ha] at hb
      exact List.mem_append_left _ (ready b hb)

theorem InOrder.reaches (h : InOrder depends order) (ha : a ∈ order) (hb : Relation.ReflTransGen depends a b) :
    b ∈ order := by
  induction hb with
  | refl => exact ha
  | tail _ hstep ih => exact h.closed ih hstep

/-- Nothing in the list depends on itself, however many steps it takes. -/
theorem InOrder.acyclic (h : InOrder depends order) (ha : a ∈ order) : ¬Relation.TransGen depends a a := by
  induction h with
  | nil => cases ha
  | append before ready fresh ih =>
    rcases List.mem_append.mp ha with ha | ha
    · exact ih ha
    · rw [List.mem_singleton.mp ha]
      intro cycle
      obtain ⟨b, hfirst, hrest⟩ := Relation.TransGen.head'_iff.mp cycle
      exact fresh (before.reaches (ready b hfirst) hrest)

theorem InOrder.nodup (h : InOrder depends order) : order.Nodup := by
  induction h with
  | nil => exact List.nodup_nil
  | append before ready fresh ih =>
    refine List.nodup_append.mpr ⟨ih, List.nodup_singleton _, fun a ha b hb hab => ?_⟩
    rw [hab, List.mem_singleton.mp hb] at ha
    exact fresh ha

/-- What something in the list depends on stands before it. -/
theorem InOrder.precedes (h : InOrder depends order) {before after : List α} (horder : order = before ++ a :: after)
    (hb : depends a b) : b ∈ before := by
  induction h generalizing after with
  | nil =>
    have hlength := congrArg List.length horder
    rw [List.length_append, List.length_cons, List.length_nil] at hlength
    omega
  | append first ready fresh ih =>
    rcases List.eq_nil_or_concat after with rfl | ⟨rest, last, rfl⟩
    · obtain ⟨rfl, hlast⟩ := List.append_inj' horder rfl
      cases hlast
      exact ready b hb
    · have hsplit : before ++ a :: (rest ++ [last]) = (before ++ a :: rest) ++ [last] := by
        rw [List.append_assoc, List.cons_append]
      rw [List.concat_eq_append, hsplit] at horder
      exact ih (List.append_inj' horder rfl).1

/-- The two ends of a chain. -/
theorem transGen_of_isChain {between : List α} (h : List.IsChain depends (a :: (between ++ [b]))) :
    Relation.TransGen depends a b := by
  induction between generalizing a with
  | nil => exact Relation.TransGen.single (List.isChain_cons_cons.mp h).1
  | cons first rest ih =>
    obtain ⟨hfirst, hrest⟩ := List.isChain_cons_cons.mp h
    exact Relation.TransGen.head hfirst (ih hrest)

/-- A chain that comes back to something that it has been at. -/
theorem cycle_of_isChain {visiting : List α} (h : List.IsChain depends (visiting ++ [a])) (ha : a ∈ visiting) :
    Relation.TransGen depends a a := by
  obtain ⟨before, after, rfl⟩ := List.append_of_mem ha
  rw [List.append_assoc] at h
  exact transGen_of_isChain (List.isChain_append.mp h).2.1

end DependencyOrder
