import Mathlib.Order.Defs.Unbundled

/-! Programs over a state, and over a part of it. -/

namespace StateProgram

variable {σ τ υ α β : Type}

/-- A part of the state that can be read and replaced. -/
structure Part (σ τ : Type) where
  get : σ → τ
  set : σ → τ → σ
  get_set : ∀ s t, get (set s t) = t
  set_get : ∀ s, set s (get s) = s
  set_set : ∀ s t u, set (set s t) u = set s u

namespace Part

/-- A part of a part. -/
def comp (outer : Part σ τ) (inner : Part τ υ) : Part σ υ where
  get s := inner.get (outer.get s)
  set s u := outer.set s (inner.set (outer.get s) u)
  get_set s u := by rw [outer.get_set, inner.get_set]
  set_get s := by rw [inner.set_get, outer.set_get]
  set_set s t u := by rw [outer.get_set, inner.set_set, outer.set_set]

/-- A program over the part, run in the whole state. -/
def run (part : Part σ τ) (program : StateM τ α) : StateM σ α := fun s =>
  let out := program (part.get s)
  (out.1, part.set s out.2)

end Part

/-- Run from the state, the program ends with a result and a state that satisfy the condition. -/
def Ends (program : StateM σ α) (condition : α → σ → Prop) (s : σ) : Prop :=
  condition (program s).1 (program s).2

section rules

variable {program : StateM σ α} {next : α → StateM σ β} {s : σ}

theorem ends_bind {condition : β → σ → Prop} :
    Ends (program >>= next) condition s ↔ Ends program (fun a s' => Ends (next a) condition s') s :=
  Iff.rfl

/-- What follows from every result and every state. -/
theorem ends_bind_any {condition : β → σ → Prop} (h : ∀ a s', Ends (next a) condition s') :
    Ends (program >>= next) condition s := h _ _

theorem ends_run {part : Part σ τ} {program : StateM τ α} {condition : α → σ → Prop} :
    Ends (part.run program) condition s ↔
      Ends program (fun a t => condition a (part.set s t)) (part.get s) := Iff.rfl

/-- What a program does to a part, the rest of the state keeps. -/
theorem ends_run_any {part : Part σ τ} {program : StateM τ α} {condition : α → σ → Prop}
    (h : ∀ a t, condition a (part.set s t)) : Ends (part.run program) condition s :=
  h _ _

theorem Ends.mono {condition condition' : α → σ → Prop} (h : Ends program condition s)
    (weaker : ∀ a s', condition a s' → condition' a s') : Ends program condition' s :=
  weaker _ _ h

end rules

/-- Run the step, from one value to the next, until it stops or the rounds are used up. -/
def iterate (step : τ → StateM σ (Bool × τ)) : Nat → τ → StateM σ τ
  | 0, t => pure t
  | rounds + 1, t => do
    let (proceed, t) ← step t
    if proceed then iterate step rounds t else pure t

/-- What holds of the value at the start and is kept by every step holds at the end. -/
theorem ends_iterate {step : τ → StateM σ (Bool × τ)} {invariant : τ → σ → Prop}
    (kept : ∀ t s, invariant t s → Ends (step t) (fun out s' => invariant out.2 s') s) :
    ∀ (rounds : Nat) {t : τ} {s : σ}, invariant t s →
      Ends (iterate step rounds t) (fun t' s' => invariant t' s') s
  | 0, t, s, h => h
  | rounds + 1, t, s, h => by
    rw [iterate, ends_bind]
    refine (kept t s h).mono fun out s' hout => ?_
    dsimp only
    split
    · exact ends_iterate kept rounds hout
    · exact hout

/-- Whatever the state, the program ends in one that is related to it. -/
def Moves (rel : σ → σ → Prop) (program : StateM σ α) : Prop := ∀ s, rel s (program s).2

section moves

variable {rel : σ → σ → Prop} {program : StateM σ α} {next : α → StateM σ β}

theorem moves_modify {f : σ → σ} (h : ∀ s, rel s (f s)) : Moves rel (modify f) := h

theorem moves_ite {c : Prop} [Decidable c] {first second : StateM σ α} (hfirst : c → Moves rel first)
    (hsecond : ¬c → Moves rel second) : Moves rel (if c then first else second) := by
  split
  next h => exact hfirst h
  next h => exact hsecond h

variable [IsPreorder σ rel]

theorem moves_pure (a : α) : Moves rel (pure a : StateM σ α) := fun s => refl_of rel s

theorem moves_get : Moves rel (get : StateM σ σ) := fun s => refl_of rel s

theorem moves_bind (h : Moves rel program) (hnext : ∀ a, Moves rel (next a)) :
    Moves rel (program >>= next) := fun s => trans_of rel (h s) (hnext _ _)

theorem moves_iterate {step : τ → StateM σ (Bool × τ)} (h : ∀ t, Moves rel (step t)) :
    ∀ rounds t, Moves rel (iterate step rounds t)
  | 0, t => moves_pure t
  | rounds + 1, t => by
    rw [iterate]
    refine moves_bind (h t) fun out => moves_ite (fun _ => ?_) fun _ => moves_pure _
    exact moves_iterate h rounds out.2

theorem moves_forM {ι : Type} {body : ι → StateM σ PUnit} (h : ∀ i, Moves rel (body i)) :
    ∀ is : List ι, Moves rel (is.forM body)
  | [] => moves_pure _
  | i :: is => moves_bind (h i) fun _ => moves_forM h is

end moves

end StateProgram
