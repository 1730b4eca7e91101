import JLinkMcp.FirmwareToldRadio

namespace JLinkMcp.Firmware

open Codec Host StateProgram

/-- What `metadata_buffer` has room for. -/
def cutText (whole : Bytes) : Bytes := whole.take (kMaxMetadata - 1)

/-- The items as the loops of the sketch write them: a comma before each but the first. -/
def listing : Bool → List Bytes → Bytes
  | _, [] => []
  | first, item :: items => (if first then [] else [44]) ++ item ++ listing false items

/-- Items that the host reads. -/
def ItemsRead (depth : Nat) (items : List (Bytes × PyJson)) : Prop :=
  ∀ item ∈ items, JsonBytes depth item.1 item.2

/-- The loop puts a listing of such items behind the text that is there. -/
def Lists (depth : Nat) (first : Bool) (whole : Bytes) (out : Bytes) : Prop :=
  ∃ items, ItemsRead depth items ∧ out = cutText (whole ++ listing first (items.map Prod.fst))

section texts

variable {depth : Nat} {first : Bool} {whole : Bytes}

theorem Lists.cons {item : Bytes × PyJson} {out : Bytes} (json : JsonBytes depth item.1 item.2)
    (h : Lists depth false (whole ++ ((if first then [] else [44]) ++ item.1)) out) :
    Lists depth first whole out := by
  obtain ⟨items, hread, rfl⟩ := h
  refine ⟨item :: items, ?_, ?_⟩
  · intro other hother
    rcases List.mem_cons.mp hother with rfl | hother
    · exact json
    · exact hread other hother
  · rw [List.map_cons, listing, List.append_assoc whole]

end texts

section numbers

variable {c : HwCall} {width : Nat} {board : Board} {α : Type}

end numbers

section usb

variable {depth : Nat} {first : Bool} {whole : Bytes} {board : Board}

end usb

section ble

variable {depth : Nat} {first : Bool} {whole : Bytes} {board : Board}

end ble

end JLinkMcp.Firmware
