import Mathlib.Data.List.Basic
import Mathlib.Data.List.Induction

/-! Chains of entries, each of which is hashed together with the digest of the one before. -/

namespace HashChain

variable {H P : Type}

structure Link (H P : Type) where
  previous : H
  payload : P
  digest : H

/-- Every link holds the digest before it, and the one it gives. -/
def Chained (hash : H → P → H) : H → List (Link H P) → Prop
  | _, [] => True
  | head, link :: links =>
    link.previous = head ∧ link.digest = hash head link.payload ∧ Chained hash link.digest links

/-- The digest that the next link has to hold. -/
def last : H → List (Link H P) → H
  | head, [] => head
  | _, link :: links => last link.digest links

section chained

variable {hash : H → P → H} {head : H} {link : Link H P} {links : List (Link H P)}

@[simp] theorem last_concat : last head (links ++ [link]) = link.digest := by
  induction links generalizing head with
  | nil => rfl
  | cons first links ih => exact ih

theorem chained_concat : Chained hash head (links ++ [link]) ↔
    Chained hash head links ∧ link.previous = last head links ∧
      link.digest = hash link.previous link.payload := by
  induction links generalizing head with
  | nil =>
    constructor
    · rintro ⟨hprevious, hdigest, -⟩
      exact ⟨trivial, hprevious, hprevious ▸ hdigest⟩
    · rintro ⟨-, hprevious, hdigest⟩
      rw [hprevious] at hdigest
      exact ⟨hprevious, hdigest, trivial⟩
  | cons first links ih =>
    constructor
    · rintro ⟨hprevious, hdigest, hrest⟩
      obtain ⟨hlinks, hlink⟩ := ih.mp hrest
      exact ⟨⟨hprevious, hdigest, hlinks⟩, hlink⟩
    · rintro ⟨⟨hprevious, hdigest, hlinks⟩, hlink⟩
      exact ⟨hprevious, hdigest, ih.mpr ⟨hlinks, hlink⟩⟩

/-- Every link of a chain holds its own digest. -/
theorem digest_of_mem (h : Chained hash head links) (mem : link ∈ links) :
    link.digest = hash link.previous link.payload := by
  induction links generalizing head with
  | nil => cases mem
  | cons first links ih =>
    obtain ⟨hprevious, hdigest, hrest⟩ := h
    cases mem with
    | head => rw [hdigest, hprevious]
    | tail _ hmem => exact ih hrest hmem

end chained

/-- Nothing but the same digest and payload gives the digest of a link, and no link gives the head. -/
structure Binding (hash : H → P → H) (head : H) (links : List (Link H P)) : Prop where
  injective : ∀ a ∈ links, ∀ b ∈ links,
    hash a.previous a.payload = hash b.previous b.payload → a.previous = b.previous ∧ a.payload = b.payload
  fresh : ∀ a ∈ links, hash a.previous a.payload ≠ head

theorem Binding.mono {hash : H → P → H} {head : H} {links links' : List (Link H P)}
    (h : Binding hash head links) (sub : links' ⊆ links) : Binding hash head links' where
  injective a ha b hb := h.injective a (sub ha) b (sub hb)
  fresh a ha := h.fresh a (sub ha)

/-- Two chains that end in the same digest hold the same payloads. -/
theorem payloads_eq {hash : H → P → H} {head : H} {xs ys : List (Link H P)}
    (binding : Binding hash head (xs ++ ys)) (hx : Chained hash head xs) (hy : Chained hash head ys)
    (h : last head xs = last head ys) : xs.map Link.payload = ys.map Link.payload := by
  induction xs using List.reverseRecOn generalizing ys with
  | nil =>
    rcases List.eq_nil_or_concat ys with rfl | ⟨ys, y, rfl⟩
    · rfl
    · -- the head would be the digest of a link
      rw [List.concat_eq_append] at hy h
      rw [last_concat, (chained_concat.mp hy).2.2] at h
      exact absurd h.symm (binding.fresh y (by simp))
  | append_singleton xs x ih =>
    obtain ⟨hxs, hprevious, hdigest⟩ := chained_concat.mp hx
    rcases List.eq_nil_or_concat ys with rfl | ⟨ys, y, rfl⟩
    · rw [last_concat, hdigest] at h
      exact absurd h (binding.fresh x (by simp))
    · rw [List.concat_eq_append] at hy h binding ⊢
      obtain ⟨hys, hprevious', hdigest'⟩ := chained_concat.mp hy
      rw [last_concat, last_concat, hdigest, hdigest'] at h
      obtain ⟨hsame, hpayload⟩ := binding.injective x (by simp) y (by simp) h
      have hsub : xs ++ ys ⊆ xs ++ [x] ++ (ys ++ [y]) :=
        List.append_subset.mpr ⟨fun a ha => by simp [ha], fun a ha => by simp [ha]⟩
      have hrest := ih (binding.mono hsub) hxs hys (hprevious.symm.trans (hsame.trans hprevious'))
      rw [List.map_append, List.map_append, hrest, List.map_singleton, List.map_singleton, hpayload]

end HashChain
