import Mathlib.Data.List.Basic

/-! What the events of a history leave to be settled by later ones. -/

namespace Obligations

/-- What an event leaves to be settled, and which events settle it. -/
structure Account (Event Debt : Type) where
  incurs : Event → Option Debt
  settles : Event → Debt → Prop

namespace Account

variable {Event Debt : Type} (account : Account Event Debt)

/-- Every debt of the history is settled by a later event. -/
def Settled (history : List Event) : Prop :=
  ∀ before event after debt, history = before ++ event :: after → account.incurs event = some debt →
    ∃ later ∈ after, account.settles later debt

/-- The debt was incurred, and no event since then settles it. -/
def Owed (history : List Event) (debt : Debt) : Prop :=
  ∃ before event after, history = before ++ event :: after ∧ account.incurs event = some debt ∧
    ∀ later ∈ after, ¬account.settles later debt

variable {account} {history : List Event} {event : Event} {debt : Debt}

theorem settled_iff : account.Settled history ↔ ∀ debt, ¬account.Owed history debt := by
  constructor
  · rintro settled debt ⟨before, event, after, hhistory, incurs, unsettled⟩
    obtain ⟨later, hlater, settles⟩ := settled before event after debt hhistory incurs
    exact unsettled later hlater settles
  · intro none before event after debt hhistory incurs
    by_contra unsettled
    refine none debt ⟨before, event, after, hhistory, incurs, fun later hlater settles => ?_⟩
    exact unsettled ⟨later, hlater, settles⟩

theorem not_owed_nil : ¬account.Owed [] debt := by
  rintro ⟨before, event, after, hhistory, -⟩
  exact List.append_ne_nil_of_right_ne_nil before (List.cons_ne_nil event after) hhistory.symm

/-- One event more incurs its own debt and leaves what it does not settle. -/
theorem owed_concat : account.Owed (history ++ [event]) debt ↔
    account.incurs event = some debt ∨ (account.Owed history debt ∧ ¬account.settles event debt) := by
  constructor
  · rintro ⟨before, first, after, hhistory, incurs, unsettled⟩
    rcases List.eq_nil_or_concat after with rfl | ⟨earlier, last, rfl⟩
    · obtain ⟨-, hlast⟩ := List.append_inj' hhistory rfl
      rw [(List.cons.inj hlast).1]
      exact Or.inl incurs
    · rw [List.concat_eq_append] at hhistory unsettled
      have hsplit : history ++ [event] = (before ++ first :: earlier) ++ [last] := by
        rw [hhistory, List.append_assoc, List.cons_append]
      obtain ⟨hbefore, hlast⟩ := List.append_inj' hsplit rfl
      have hevent : event = last := (List.cons.inj hlast).1
      refine Or.inr ⟨⟨before, first, earlier, hbefore, incurs, fun later hlater => ?_⟩, ?_⟩
      · exact unsettled later (List.mem_append_left _ hlater)
      · rw [hevent]
        exact unsettled last (List.mem_append_right _ (List.mem_singleton.mpr rfl))
  · rintro (incurs | ⟨⟨before, first, after, hhistory, incurs, unsettled⟩, kept⟩)
    · exact ⟨history, event, [], rfl, incurs, List.forall_mem_nil _⟩
    · refine ⟨before, first, after ++ [event], ?_, incurs, fun later hlater => ?_⟩
      · rw [hhistory, List.append_assoc, List.cons_append]
      · rcases List.mem_append.mp hlater with hlater | hlater
        · exact unsettled later hlater
        · rw [List.mem_singleton.mp hlater]
          exact kept

/-- An event that settles nothing leaves what is owed. -/
theorem Owed.concat (owed : account.Owed history debt) (kept : ¬account.settles event debt) :
    account.Owed (history ++ [event]) debt := owed_concat.mpr (Or.inr ⟨owed, kept⟩)

end Account

end Obligations
