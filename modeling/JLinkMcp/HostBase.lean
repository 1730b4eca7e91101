import Mathlib.Algebra.Group.Nat.Defs
import Mathlib.Control.Monad.Basic

namespace JLinkMcp.Host

abbrev Bytes := List UInt8

/-- One element of a Python string; lone surrogates are code points too. -/
abbrev CodePoint := Fin 0x110000

abbrev PyStr := List CodePoint

instance codePointNeZero : @NeZero Nat Zero.ofOfNat0 0x110000 := ⟨Nat.succ_ne_zero _⟩

instance pyStrLawfulBEq : LawfulBEq PyStr := inferInstance

/-- The Python string a literal of the source denotes. -/
def PyStr.ofString (s : String) : PyStr := s.toList.map fun c => Fin.ofNat 0x110000 c.toNat

/-- What the modelled Python code raises. `bridgeCrc` and `bridgeSequence` are the two
subclasses of `BridgeWireError`. -/
inductive PyError where
  | bridgeWire (message : String)
  | bridgeCrc (message : String)
  | bridgeSequence (message : String)
  | valueError (message : String)
  | unicodeEncodeError
  | unicodeDecodeError
  | structError (message : String)
  | keyError (key : String)
  | attributeError (name : String)
  | typeError (message : String)
  | runtimeError (message : String)
  | jsonDecodeError
  | recursionError
  deriving DecidableEq, Repr

/-- `isinstance(exc, BridgeSequenceError)` -/
def PyError.isSequence : PyError → Bool
  | .bridgeSequence _ => true
  | _ => false

/-- `isinstance(exc, BridgeWireError)` -/
def PyError.isWire : PyError → Bool
  | .bridgeWire _ | .bridgeCrc _ | .bridgeSequence _ => true
  | _ => false

def hexDigit (n : Nat) : Char := "0123456789ABCDEF".toList.getD n '?'

/-- `f"{n:08X}"` for a 32-bit number -/
def hex8 (n : Nat) : String :=
  String.ofList ((List.range 8).map fun i => hexDigit (n / 16 ^ (7 - i) % 16))

@[simp] theorem Except.ok_bind {α β ε : Type} (a : α) (f : α → Except ε β) :
    (Except.ok a).bind f = f a := rfl

theorem Except.mapM_ok {α β ε : Type} {f : α → Except ε β} {g : α → β} {xs : List α}
    (h : ∀ x ∈ xs, f x = .ok (g x)) : xs.mapM f = .ok (xs.map g) := by
  induction xs with
  | nil => rfl
  | cons x xs ih =>
    rw [List.mapM_cons, h x (by simp), ih fun y hy => h y (by simp [hy])]
    rfl

/-- Decoding every element of a list of encodings. -/
theorem Except.mapM_map_ok {α β ε : Type} {f : β → Except ε α} {g : α → β} {xs : List α}
    (h : ∀ x ∈ xs, f (g x) = .ok x) : (xs.map g).mapM f = .ok xs := by
  induction xs with
  | nil => rfl
  | cons x xs ih =>
    rw [List.map_cons, List.mapM_cons, h x (by simp), ih fun y hy => h y (by simp [hy])]
    rfl

/-- Every result of a list of steps comes from a step. -/
theorem Except.mem_of_mapM_ok {α β ε : Type} {f : α → Except ε β} {xs : List α} {ys : List β}
    (h : xs.mapM f = .ok ys) : ∀ y ∈ ys, ∃ x ∈ xs, f x = .ok y := by
  induction xs generalizing ys with
  | nil =>
    cases h
    exact nofun
  | cons x xs ih =>
    rw [List.mapM_cons] at h
    cases hx : f x with
    | error e => rw [hx] at h; cases h
    | ok y =>
      cases hxs : xs.mapM f with
      | error e => rw [hx, hxs] at h; cases h
      | ok rest =>
        rw [hx, hxs] at h
        cases h
        intro found hfound
        rcases List.mem_cons.mp hfound with rfl | hrest
        · exact ⟨x, List.mem_cons_self, hx⟩
        · obtain ⟨x', hx', hfound⟩ := ih hxs found hrest
          exact ⟨x', List.mem_cons_of_mem _ hx', hfound⟩

/-- The first of two steps that succeed. -/
theorem Except.then_ok {α β ε : Type} {x : Except ε α} {next : α → Except ε β} {b : β}
    (h : (x >>= next) = .ok b) : ∃ a, x = .ok a ∧ next a = .ok b := by
  cases x with
  | error e => cases h
  | ok a => exact ⟨a, rfl, h⟩

end JLinkMcp.Host
