import JLinkMcp.FirmwareRuns

namespace JLinkMcp.Firmware

open Codec StateProgram

/-- The tables of the sketch agree with the owners of the pins. -/
structure PinsConsistent (c : Settings) : Prop where
  configured : ∀ pin, c.gpioConfigured pin = true →
    c.pinResources.owners pin = kResourceOwnerGpio ∧ safeDynamicPin pin = true
  output : ∀ pin, c.gpioOutput pin = true → c.gpioConfigured pin = true
  edge : ∀ pin, c.gpioEdge pin ≠ 0 → c.gpioConfigured pin = true
  can1 : c.canConfigured 1 = true → c.pinResources.owners 8 = kResourceOwnerCan1

/-- Who asks for pins in an event: an SPI bus, or GPIO. -/
def Event.requester : Event → Option Nat
  | .poll => none
  | .request _ body =>
    match handledOperation body with
    | some .spiExchange => (spiTransfer ⟨body⟩).map SpiTransfer.owner
    | some .gpioConfigure | some .gpioWatch | some .gpioRead | some .gpioWrite | some .gpioPulse =>
      some kResourceOwnerGpio
    | _ => none

/-- A call under the given owners is one that the requester may make. -/
def OwnedCall (requester : Option Nat) (pins : PinResources) : HwCall → Prop :=
  Guarded (fun pin => requester = some (pins.owners pin)) pins

/-- Every pin that has an owner keeps it. -/
def OwnersKept (pins pins' : PinResources) : Prop :=
  ∀ pin, pins.owners pin ≠ 0 → pins'.owners pin = pins.owners pin

section claims

variable {resources pins : PinResources} {pin first second owner : Nat}

theorem ownersKept_refl : OwnersKept pins pins := fun _ _ => rfl

theorem ownersKept_setOwner (h : resources.owners pin = 0 ∨ resources.owners pin = owner) :
    OwnersKept resources (resources.setOwner pin owner) := by
  intro p hp
  by_cases heq : p = pin
  · subst heq
    rw [PinResources.setOwner_self]
    exact (h.resolve_left hp).symm
  · exact PinResources.setOwner_ne resources owner heq

theorem ownersKept_claim (h : resources.claim pin owner = some pins) : OwnersKept resources pins := by
  obtain ⟨-, -, hfree, rfl⟩ := PinResources.claim_eq_some h
  exact ownersKept_setOwner hfree

theorem ownersKept_claimPair (ne : second ≠ first) (h : resources.claimPair first second owner = some pins) :
    OwnersKept resources pins := by
  obtain ⟨-, -, -, hfirst, hsecond, rfl⟩ := PinResources.claimPair_eq_some h
  intro p hp
  have hp' := ownersKept_setOwner hfirst p hp
  rw [← hp']
  refine ownersKept_setOwner ?_ p (hp'.trans_ne hp)
  rwa [PinResources.setOwner_ne resources owner ne]

end claims

section kept

variable {reader : TlvReader} {c c' : Settings} {operation : Operation} {response : Response}

theorem ownersKept_effect (h : Effect reader c operation response c') :
    OwnersKept c.pinResources c'.pinResources := by
  cases h with
  | received ok h => rcases h with rfl | rfl <;> exact ownersKept_refl
  | can1Configured ok h bus claimed | can1Claimed failed h bus claimed | spiExchanged ok h claimed
  | gpioConfigured ok h claimed => exact ownersKept_claim claimed
  | i2c1Exchanged h bus claimed => exact ownersKept_claimPair (by decide) claimed
  | _ => exact ownersKept_refl

/-- More owners, and nothing else changed. -/
theorem PinsConsistent.claimed {pins : PinResources} (consistent : PinsConsistent c)
    (kept : OwnersKept c.pinResources pins) : PinsConsistent { c with pinResources := pins } where
  configured pin h := by
    obtain ⟨howner, hsafe⟩ := consistent.configured pin h
    exact ⟨(kept pin (by rw [howner]; decide)).trans howner, hsafe⟩
  output := consistent.output
  edge := consistent.edge
  can1 h := by
    have howner := consistent.can1 h
    exact (kept 8 (by rw [howner]; decide)).trans howner

theorem PinsConsistent.can1Configured {bus : Nat} (consistent : PinsConsistent c)
    (owned : bus = 1 → c.pinResources.owners 8 = kResourceOwnerCan1) :
    PinsConsistent { c with canConfigured := setAt c.canConfigured bus true } where
  configured := consistent.configured
  output := consistent.output
  edge := consistent.edge
  can1 h := by
    by_cases hbus : 1 = bus
    · exact owned hbus.symm
    · exact consistent.can1 ((setAt_ne c.canConfigured true hbus).symm.trans h)

theorem PinsConsistent.gpioConfigured {pin : Nat} {output : Bool} (consistent : PinsConsistent c)
    (owned : c.pinResources.owners pin = kResourceOwnerGpio) (safe : safeDynamicPin pin = true) :
    PinsConsistent { c with
      gpioConfigured := setAt c.gpioConfigured pin true
      gpioOutput := setAt c.gpioOutput pin output } where
  configured p h := by
    by_cases hp : p = pin
    · subst hp
      exact ⟨owned, safe⟩
    · exact consistent.configured p ((setAt_ne c.gpioConfigured true hp).symm.trans h)
  output p h := by
    by_cases hp : p = pin
    · subst hp
      exact setAt_self _ _ _
    · refine (setAt_ne c.gpioConfigured true hp).trans ?_
      exact consistent.output p ((setAt_ne c.gpioOutput output hp).symm.trans h)
  edge p h := by
    by_cases hp : p = pin
    · subst hp
      exact setAt_self _ _ _
    · exact (setAt_ne c.gpioConfigured true hp).trans (consistent.edge p h)
  can1 := consistent.can1

theorem PinsConsistent.gpioWatched {pin edge : Nat} (consistent : PinsConsistent c)
    (configured : c.gpioConfigured pin = true) :
    PinsConsistent { c with gpioEdge := setAt c.gpioEdge pin edge } where
  configured := consistent.configured
  output := consistent.output
  edge p h := by
    by_cases hp : p = pin
    · subst hp
      exact configured
    · exact consistent.edge p fun hzero => h ((setAt_ne c.gpioEdge edge hp).trans hzero)
  can1 := consistent.can1

theorem gpioWatched_configured {configured : Nat → Bool} {watched : GpioWatched}
    (h : gpioWatched configured reader = some watched) : configured watched.pin = true := by
  simp only [gpioWatched, Option.bind_eq_bind, Option.bind_eq_some_iff, guard_eq_some, pure,
    Option.some.injEq] at h
  obtain ⟨pin, -, edge, -, -, hguard, rfl⟩ := h
  exact hguard.2.2

theorem pinsConsistent_effect (consistent : PinsConsistent c)
    (h : Effect reader c operation response c') : PinsConsistent c' := by
  have hkept := ownersKept_effect h
  cases h with
  | failed | asked | i2cExchanged | wifiSent => exact consistent
  | received ok h =>
    rcases h with rfl | rfl
    · exact consistent
    · exact ⟨consistent.configured, consistent.output, consistent.edge, consistent.can1⟩
  | can1Claimed | spiExchanged | i2c1Exchanged => exact consistent.claimed hkept
  | canConfigured ok h bus => exact consistent.can1Configured fun hone => absurd hone bus
  | can1Configured ok h bus claimed =>
    obtain ⟨-, -, -, rfl⟩ := PinResources.claim_eq_some claimed
    exact (consistent.claimed hkept).can1Configured fun _ => PinResources.setOwner_self _ _ _
  | gpioConfigured ok h claimed =>
    obtain ⟨hsafe, -, -, rfl⟩ := PinResources.claim_eq_some claimed
    exact (consistent.claimed hkept).gpioConfigured (PinResources.setOwner_self _ _ _) hsafe
  | gpioWatched ok h => exact consistent.gpioWatched (gpioWatched_configured h)
  | _ => exact ⟨consistent.configured, consistent.output, consistent.edge, consistent.can1⟩

end kept

theorem pinsConsistent_event {c c' : Settings} {event : Event} (consistent : PinsConsistent c)
    (h : EventEffect event c c') : PinsConsistent c' := by
  cases event with
  | poll =>
    rcases h with rfl | rfl
    · exact consistent
    · exact ⟨consistent.configured, consistent.output, consistent.edge, consistent.can1⟩
  | request requestId body =>
    obtain ⟨response, heffect⟩ := h
    rcases dispatchEffect_cases heffect with ⟨-, rfl⟩ | ⟨operation, hoperation, heffect⟩
    · exact consistent
    · exact pinsConsistent_effect consistent heffect

theorem ownersKept_event {c c' : Settings} {event : Event} (h : EventEffect event c c') :
    OwnersKept c.pinResources c'.pinResources := by
  cases event with
  | poll => rcases h with rfl | rfl <;> exact ownersKept_refl
  | request requestId body =>
    obtain ⟨response, heffect⟩ := h
    rcases dispatchEffect_cases heffect with ⟨-, rfl⟩ | ⟨operation, hoperation, heffect⟩
    · exact ownersKept_refl
    · exact ownersKept_effect heffect

section calls

variable {c : Settings} {body : Bytes} {pins : PinResources}

/-- What a request may drive belongs to who asks for it. -/
theorem requester_of_drives {requestId pin : Nat} (consistent : PinsConsistent c)
    (kept : OwnersKept c.pinResources pins) (h : DispatchDrives body c pins pin) :
    (Event.request requestId body).requester = some (pins.owners pin) := by
  have hconfigured : c.gpioConfigured pin = true → some kResourceOwnerGpio = some (pins.owners pin) := by
    intro hpin
    have howner := (consistent.configured pin hpin).1
    rw [kept pin (by rw [howner]; decide), howner]
  rw [Event.requester]
  rw [DispatchDrives] at h
  cases hoperation : handledOperation body with
  | none =>
    rw [hoperation] at h
    cases h
  | some operation =>
    rw [hoperation] at h
    cases operation with
    | spiExchange =>
      obtain ⟨spi, hspi, howner⟩ := h
      dsimp only
      rw [hspi, howner]
      rfl
    | gpioConfigure => exact congrArg some h.symm
    | gpioWatch | gpioRead | gpioWrite | gpioPulse => exact hconfigured h
    | _ => cases h

theorem Guarded.mono {drives drives' : Nat → Prop} {call : HwCall} (h : Guarded drives pins call)
    (weaker : ∀ pin, drives pin → drives' pin) : Guarded drives' pins call := by
  cases call with
  | pinMode pin mode => exact weaker pin h
  | digitalWrite pin high => exact weaker pin h
  | _ => exact h

end calls

/-- The calls in between, each with the owners at its time, are ones that the requester may make. -/
def CallsOwned (requester : Option Nat) (board board' : Board) : Prop :=
  ∃ issued, board'.calls = issued ++ board.calls ∧
    ∀ entry ∈ issued, OwnedCall requester entry.2 entry.1

theorem callsOwned_of_issues {requester : Option Nat} {pins : PinResources} {board board' : Board}
    (h : Issues (Guarded (fun _ => False) pins) board board') (hpins : board.pinResources = pins) :
    CallsOwned requester board board' := by
  obtain ⟨-, issued, hcalls, hissued⟩ := h
  refine ⟨issued, hcalls, fun entry hentry => ?_⟩
  obtain ⟨howners, hguarded⟩ := hissued entry hentry
  rw [howners, hpins]
  exact hguarded.mono nofun

theorem callsOwned_of_issued {requester : Option Nat} {drives : PinResources → Nat → Prop}
    {board board' : Board} (h : Issued drives board board')
    (hdrives : ∀ pin, drives board'.pinResources pin →
      requester = some (board'.pinResources.owners pin)) :
    CallsOwned requester board board' := by
  obtain ⟨issued, hcalls, hissued⟩ := h
  refine ⟨issued, hcalls, fun entry hentry => ?_⟩
  obtain ⟨howners, hguarded⟩ := hissued entry hentry
  rw [howners]
  exact hguarded.mono hdrives

theorem callsOwned_after {s : Bridge} (consistent : PinsConsistent s.machine.settings) (event : Event) :
    CallsOwned event.requester s.machine.board (s.after event).machine.board := by
  have hkept := ownersKept_event (eventEffect_after s event)
  cases event with
  | poll => exact callsOwned_of_issues (polled_issues polled_pollAll s) rfl
  | request requestId body =>
    exact callsOwned_of_issued (handles_dispatch.issued rfl) fun pin hdrives =>
      requester_of_drives consistent hkept hdrives

/-- In every state that requests and polls lead to, the tables agree with the owners; no event takes
a pin from its owner, and every call on a pin is made for the owner it has at that moment. -/
theorem pins_owned_in_every_run {s : Bridge} (reached : Reaches anyEvent s) :
    PinsConsistent s.machine.settings ∧ ∀ event,
      OwnersKept s.machine.pinResources (s.after event).machine.pinResources ∧
        CallsOwned event.requester s.machine.board (s.after event).machine.board := by
  have consistent : PinsConsistent s.machine.settings :=
    reached.invariant ⟨nofun, nofun, fun _ h => absurd rfl h, nofun⟩ fun c event c' hc _ heffect =>
      pinsConsistent_event hc heffect
  exact ⟨consistent, fun event =>
    ⟨ownersKept_event (eventEffect_after s event), callsOwned_after consistent event⟩⟩

/-- `can_configure` at 500 kbit/s. -/
def canItems (bus : Nat) : List Tlv :=
  [(1, leBytes 2 Operation.canConfigure.toNat), (3, leBytes 1 bus), (18, leBytes 4 500000)]

section items

variable {bus : Nat}

theorem canItems_representable : Representable (canItems bus) := by
  intro item hitem
  simp only [canItems, List.mem_cons, List.not_mem_nil, or_false] at hitem
  rcases hitem with rfl | rfl | rfl
  · exact ⟨by decide, by decide⟩
  · exact ⟨show 3 < 2 ^ 16 by decide, by rw [leBytes_length]; decide⟩
  · exact ⟨by decide, by decide⟩

theorem canItems_nodup : ((canItems bus).map Prod.fst).Nodup := show [1, 3, 18].Nodup by decide

theorem canItems_handled : handledOperation (tlvBytes (canItems bus)) = some .canConfigure :=
  handledOperation_tlvBytes canItems_representable canItems_nodup rfl rfl

theorem canItems_configuration (le : bus ≤ 1) :
    canConfiguration ⟨tlvBytes (canItems bus)⟩ = some ⟨bus, 500000⟩ := by
  have hbus : (TlvReader.mk (tlvBytes (canItems bus))).u8 .bus = some bus := by
    rw [TlvReader.u8, TlvReader.getU8, getNumber_tlvBytes canItems_representable canItems_nodup,
      show lookupTlv FieldId.bus.toNat (canItems bus) = some (leBytes 1 bus) from rfl]
    simp [leNat_leBytes_of_lt (show bus < 256 ^ 1 by omega)]
  have hbitrate : (TlvReader.mk (tlvBytes (canItems bus))).u32 .canBitrate = some 500000 := by
    rw [TlvReader.u32, TlvReader.getU32, getNumber_tlvBytes canItems_representable canItems_nodup]
    rfl
  rw [canConfiguration, hbus, hbitrate]
  simp [guard, le]

end items

theorem pins_owned_in_every_run_can1 :
    PinsConsistent (obligingBridge.after (.request 1 (tlvBytes (canItems 1)))).machine.settings :=
  (pins_owned_in_every_run (.after (.powerUp _ _ _) trivial)).1

end JLinkMcp.Firmware
