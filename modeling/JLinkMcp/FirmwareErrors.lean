import JLinkMcp.FirmwarePins
import JLinkMcp.ResponsePath

namespace JLinkMcp.Firmware

open Codec StateProgram

/-- The same bridge on hardware that answers otherwise from now on. -/
def Bridge.onReplies (s : Bridge) (reply : List HwCall → HwReply) : Bridge :=
  { s with machine := { s.machine with board := { s.machine.board with reply := reply } } }

/-- The request is answered with a status other than zero. -/
def AnswersError (requestId : Nat) (s s' : Bridge) : Prop :=
  ∃ response machine, response.status ≠ kStatusOk ∧
    s'.serial = s.serial ++ responseMessage requestId response (timestampUs machine)

/-- The owners of the pins, the tables of what is configured, and the pairing code. -/
structure ConfigurationKept (c c' : Settings) : Prop where
  owners : c'.pinResources.owners = c.pinResources.owners
  uart : c'.uartConfigured = c.uartConfigured
  can : c'.canConfigured = c.canConfigured
  gpio : c'.gpioConfigured = c.gpioConfigured
  output : c'.gpioOutput = c.gpioOutput
  edge : c'.gpioEdge = c.gpioEdge
  pairingCode : c'.expectedPairingCode = c.expectedPairingCode

/-- However the hardware behaves, an error answer leaves the configuration as it was. -/
def ErrorsKeepConfiguration (s : Bridge) (requestId : Nat) (body : Bytes) : Prop :=
  ∀ reply, AnswersError requestId (s.onReplies reply)
      ((s.onReplies reply).after (.request requestId body)) →
    ConfigurationKept s.machine.settings
      ((s.onReplies reply).after (.request requestId body)).machine.settings

/-- The pin has no owner, or this one. -/
def OpenTo (pins : PinResources) (pin owner : Nat) : Prop := pins.owners pin = 0 ∨ pins.owners pin = owner

/-- The request would take a pin, or clear the pairing code, before it can still fail. -/
def LeaksOnError (c : Settings) (body : Bytes) : Prop :=
  match handledOperation body with
  | some .canConfigure => ∃ can, canConfiguration ⟨body⟩ = some can ∧ can.bus = 1 ∧
      c.pinResources.owners 8 = 0
  | some .i2cExchange => ∃ i2c, i2cTransaction ⟨body⟩ = some i2c ∧ i2c.bus = 1 ∧
      (i2c.writeData ≠ [] ∨ i2c.requestedRead ≠ 0) ∧
      OpenTo c.pinResources 8 kResourceOwnerI2c1 ∧ OpenTo c.pinResources 9 kResourceOwnerI2c1 ∧
      (c.pinResources.owners 8 = 0 ∨ c.pinResources.owners 9 = 0)
  | some .blePair => passkeyRefused ⟨body⟩ ∧ c.radioMode ≠ 1 ∧ c.expectedPairingCode ≠ noPairingCode
  | _ => False

theorem configurationKept_refl (c : Settings) : ConfigurationKept c c := ⟨rfl, rfl, rfl, rfl, rfl, rfl, rfl⟩

/-- A pin that is given to its owner. -/
theorem setOwner_owners {resources : PinResources} {pin owner : Nat}
    (h : resources.owners pin = owner) : (resources.setOwner pin owner).owners = resources.owners := by
  funext p
  by_cases hp : p = pin
  · subst hp
    exact (PinResources.setOwner_self _ _ _).trans h.symm
  · exact PinResources.setOwner_ne resources owner hp

section kept

variable {c c' : Settings} {body : Bytes} {response : Response}

theorem configurationKept_effect {operation : Operation} (hoperation : handledOperation body = some operation)
    (h : Effect ⟨body⟩ c operation response c') (failed : ¬Succeeded response)
    (safe : ¬LeaksOnError c body) : ConfigurationKept c c' := by
  rw [LeaksOnError, hoperation] at safe
  cases h with
  | failed | asked | i2cExchanged => exact configurationKept_refl c
  | wifiLost | bleStarted => exact ⟨rfl, rfl, rfl, rfl, rfl, rfl, rfl⟩
  | can1Claimed _ h bus claimed =>
    obtain ⟨-, -, hopen, rfl⟩ := PinResources.claim_eq_some claimed
    have howned := hopen.resolve_left fun hfree => safe ⟨_, h, bus, hfree⟩
    exact ⟨setOwner_owners howned, rfl, rfl, rfl, rfl, rfl, rfl⟩
  | i2c1Exchanged h bus claimed transfers =>
    obtain ⟨-, -, -, hfirst, hsecond, rfl⟩ := PinResources.claimPair_eq_some claimed
    have hfree : ¬(c.pinResources.owners 8 = 0 ∨ c.pinResources.owners 9 = 0) := fun hfree =>
      safe ⟨_, h, bus, (transfers.resolve_left failed).2, hfirst, hsecond, hfree⟩
    have h8 := hfirst.resolve_left fun h8 => hfree (.inl h8)
    have h9 := hsecond.resolve_left fun h9 => hfree (.inr h9)
    refine ⟨?_, rfl, rfl, rfl, rfl, rfl, rfl⟩
    exact (setOwner_owners ((PinResources.setOwner_ne _ _ (by decide)).trans h9)).trans (setOwner_owners h8)
  | pairRefused _ radio h =>
    refine ⟨rfl, rfl, rfl, rfl, rfl, rfl, ?_⟩
    exact (not_not.mp fun hcode => safe ⟨h, radio, hcode⟩).symm
  | _ => exact absurd ‹Succeeded response› failed

theorem configurationKept_dispatch (h : DispatchEffect body c response c') (failed : ¬Succeeded response)
    (safe : ¬LeaksOnError c body) : ConfigurationKept c c' := by
  rcases dispatchEffect_cases h with ⟨-, rfl⟩ | ⟨operation, hoperation, heffect⟩
  · exact configurationKept_refl c'
  · exact configurationKept_effect hoperation heffect failed safe

end kept

/-- Where the answer is an error, the outcome that was described is no success. -/
theorem Handles.failed {requestId : Nat} {drives : PinResources → Nat → Prop}
    {outcome : Response → Settings → Prop} {c : Settings} {program : BridgeM Unit}
    (h : Handles requestId drives outcome c program) (id_lt : requestId < 2 ^ 32) {s : Bridge}
    (hs : s.machine.settings = c) (error : AnswersError requestId s (program s).2) :
    ∃ response, ¬Succeeded response ∧ outcome response (program s).2.machine.settings := by
  obtain ⟨response, machine, hout, hserial, -⟩ := h s hs
  obtain ⟨response', machine', hfailed, hserial'⟩ := error
  refine ⟨response, fun ok => ?_, hout⟩
  exact responseMessage_ne id_lt ok.ok (ok.isSome_responseBody _) hfailed
    (List.append_cancel_left (hserial.symm.trans hserial'))

section leaks

variable {s : Bridge} {requestId : Nat} {body : Bytes}

/-- Every call gives the number. -/
def always (number : Int) : List HwCall → HwReply := fun _ => ⟨number, [], 0⟩

theorem ends_getMachine {α : Type} {next : Machine → BridgeM α} {condition : α → Bridge → Prop} :
    Ends (getMachine >>= next) condition s ↔ Ends (next s.machine) condition s := Iff.rfl

theorem ends_update {α : Type} {f : Machine → Machine} {next : Unit → BridgeM α}
    {condition : α → Bridge → Prop} :
    Ends (update f >>= next) condition s ↔ Ends (next ()) condition ⟨f s.machine, s.serial⟩ := Iff.rfl

theorem ends_storeResponse {α : Type} {bytes : Bytes} {next : Unit → BridgeM α}
    {condition : α → Bridge → Prop} :
    Ends (liftM (storeResponse bytes) >>= next) condition s ↔
      Ends (next ()) condition ⟨(storeResponse bytes s.machine).2, s.serial⟩ := Iff.rfl

theorem ends_onBoard {α β : Type} {program : BoardM α} {next : α → BridgeM β}
    {condition : β → Bridge → Prop} {a : α} (hvalue : (program s.machine.board).1 = a)
    (h : Ends (next a) condition ⟨{ s.machine with board := (program s.machine.board).2 }, s.serial⟩) :
    Ends (onBoard program >>= next) condition s := by
  subst hvalue
  exact h

/-- A run that ends with an error answer and another configuration. -/
theorem leaks_of_ends {operation : Operation} {number : Int} {different : Settings → Prop}
    (hoperation : handledOperation body = some operation)
    (h : Ends (runOperation operation ⟨body⟩ requestId) (fun _ s' =>
      AnswersError requestId (s.onReplies (always number)) s' ∧ different s'.machine.settings)
      (s.onReplies (always number)))
    (hdifferent : ∀ c, different c → ¬ConfigurationKept s.machine.settings c) :
    ¬ErrorsKeepConfiguration s requestId body := by
  intro hkept
  rw [← dispatch_of_handled hoperation] at h
  exact hdifferent _ h.2 (hkept (always number) h.1)

theorem leaks_canConfigure {can : CanConfiguration} (hoperation : handledOperation body = some .canConfigure)
    (h : canConfiguration ⟨body⟩ = some can) (bus : can.bus = 1)
    (free : s.machine.pinResources.owners 8 = 0) : ¬ErrorsKeepConfiguration s requestId body := by
  have hclaim : s.machine.pinResources.claim 8 kResourceOwnerCan1 =
      some (s.machine.pinResources.setOwner 8 kResourceOwnerCan1) := by
    rw [PinResources.claim, PinResources.takenFrom, free]
    rfl
  have hpins : (s.onReplies (always 0)).machine.pinResources = s.machine.pinResources := rfl
  refine @leaks_of_ends s requestId body _ 0 (fun c => c.pinResources.owners 8 = kResourceOwnerCan1)
    hoperation ?_ fun c hc kept => ?_
  · change Ends (configureCan ⟨body⟩ requestId) _ _
    unfold configureCan
    rw [h]
    refine ends_getMachine.mpr ?_
    rw [if_pos bus, hpins, hclaim]
    exact ⟨⟨_, _, show kIoError ≠ kStatusOk by decide, rfl⟩, rfl⟩
  · rw [kept.owners] at hc
    cases free.symm.trans hc

theorem readWhile_always {available read : HwCall} {board : Board} (hreply : board.reply = always 0) :
    ∀ capacity, (readWhile available read capacity board).1 = []
  | 0 => rfl
  | capacity + 1 => by
    simp [readWhile, ask, call, hreply, always, bind, StateT.bind]
    rfl

/-- Nothing is written, and nothing is there to read. -/
theorem wireTransaction_always {i2c : I2cTransaction} {board : Board} (hreply : board.reply = always 0) :
    (wireTransaction i2c board).1 = (decide (i2c.writeData.length = 0), []) := by
  unfold wireTransaction
  by_cases hwrite : i2c.writeData.length = 0
  · rw [if_neg (not_not.mpr hwrite), decide_eq_true hwrite]
    by_cases hread : i2c.requestedRead = 0
    · rw [if_neg (not_not.mpr hread)]
      rfl
    · rw [if_pos hread]
      exact congrArg (Prod.mk true) (readWhile_always (by exact hreply) _)
  · have hcount : (0 : Int) ≠ i2c.writeData.length := by omega
    rw [if_pos hwrite, decide_eq_false hwrite]
    simp [call, hreply, always, hcount, bind, StateT.bind]
    rfl

theorem wireTransaction_pinResources (i2c : I2cTransaction) (board : Board) :
    (wireTransaction i2c board).2.pinResources = board.pinResources :=
  ((@calls_wireTransaction (fun _ => True) ⟨fun _ => kResourceOwnerI2c1⟩ i2c fun _ => ⟨rfl, rfl⟩).issues
    board).1

theorem exchangeI2c_always {i2c : I2cTransaction} (hreply : s.machine.board.reply = always 0)
    (transfers : i2c.writeData ≠ [] ∨ i2c.requestedRead ≠ 0) :
    Ends (exchangeI2c i2c requestId) (fun _ s' =>
      AnswersError requestId s s' ∧ s'.machine.pinResources = s.machine.pinResources) s := by
  have hpins := wireTransaction_pinResources i2c s.machine.board
  refine ends_onBoard (wireTransaction_always hreply) ?_
  by_cases hwrite : i2c.writeData.length = 0
  · have hread : ([] : Bytes).length ≠ i2c.requestedRead := fun hread =>
      transfers.elim (fun hne => hne (List.eq_nil_of_length_eq_zero hwrite)) fun hne => hne hread.symm
    rw [decide_eq_true hwrite]
    refine ends_storeResponse.mpr ?_
    rw [if_pos hread]
    exact ⟨⟨_, _, show kIoError ≠ kStatusOk by decide, rfl⟩, hpins⟩
  · rw [decide_eq_false hwrite]
    exact ⟨⟨_, _, show kIoError ≠ kStatusOk by decide, rfl⟩, hpins⟩

theorem leaks_i2cExchange {i2c : I2cTransaction} (hoperation : handledOperation body = some .i2cExchange)
    (h : i2cTransaction ⟨body⟩ = some i2c) (bus : i2c.bus = 1)
    (transfers : i2c.writeData ≠ [] ∨ i2c.requestedRead ≠ 0)
    (h8 : OpenTo s.machine.pinResources 8 kResourceOwnerI2c1)
    (h9 : OpenTo s.machine.pinResources 9 kResourceOwnerI2c1)
    (free : s.machine.pinResources.owners 8 = 0 ∨ s.machine.pinResources.owners 9 = 0) :
    ¬ErrorsKeepConfiguration s requestId body := by
  have hclaim : s.machine.pinResources.claimPair 8 9 kResourceOwnerI2c1 =
      some ((s.machine.pinResources.setOwner 8 kResourceOwnerI2c1).setOwner 9 kResourceOwnerI2c1) := by
    rw [PinResources.claimPair, PinResources.takenFrom_eq_false.mpr h8,
      PinResources.takenFrom_eq_false.mpr h9]
    rfl
  have hpins : (s.onReplies (always 0)).machine.pinResources = s.machine.pinResources := rfl
  refine @leaks_of_ends s requestId body _ 0
    (fun c => c.pinResources =
      (s.machine.pinResources.setOwner 8 kResourceOwnerI2c1).setOwner 9 kResourceOwnerI2c1)
    hoperation ?_ fun c hc kept => ?_
  · change Ends (i2cExchange ⟨body⟩ requestId) _ _
    unfold i2cExchange
    rw [h]
    refine ends_getMachine.mpr ?_
    rw [if_pos bus, hpins, hclaim]
    refine ends_update.mpr ?_
    exact exchangeI2c_always rfl transfers
  · have howners := kept.owners
    rw [hc] at howners
    rcases free with free | free
    · have hkept := PinResources.setOwner_ne
        (s.machine.pinResources.setOwner 8 kResourceOwnerI2c1) kResourceOwnerI2c1 (show 8 ≠ 9 by decide)
      have howner := hkept.trans (PinResources.setOwner_self _ _ _)
      cases free.symm.trans ((congrFun howners 8).symm.trans howner)
    · cases free.symm.trans ((congrFun howners 9).symm.trans (PinResources.setOwner_self _ _ _))

theorem leaks_blePair (hoperation : handledOperation body = some .blePair) (h : passkeyRefused ⟨body⟩)
    (radio : s.machine.radioMode ≠ 1) (code : s.machine.expectedPairingCode ≠ noPairingCode) :
    ¬ErrorsKeepConfiguration s requestId body := by
  obtain ⟨passkey, hpasskey, hrefused⟩ := h
  refine @leaks_of_ends s requestId body _ 1 (fun c => c.expectedPairingCode = noPairingCode)
    hoperation ?_ fun c hc kept => code (kept.pairingCode.symm.trans hc)
  change Ends (blePair ⟨body⟩ requestId) _ _
  unfold blePair ensureBle
  rw [bind_assoc]
  refine ends_getMachine.mpr ?_
  have hradio : (s.onReplies (always 1)).machine.radioMode = s.machine.radioMode := rfl
  rw [hradio, if_neg radio, hpasskey]
  dsimp only
  rw [hrefused]
  split
  · exact ⟨⟨_, _, show kMalformed ≠ kStatusOk by decide, rfl⟩, rfl⟩
  · exact ⟨⟨_, _, show kMalformed ≠ kStatusOk by decide, rfl⟩, rfl⟩

end leaks

/-- An error answer leaves the configuration as it was, on all hardware, except where a pin would be
taken or the pairing code cleared before the request can still fail. -/
theorem errorsKeepConfiguration_iff {s : Bridge} {requestId : Nat} {body : Bytes}
    (id_lt : requestId < 2 ^ 32) :
    ErrorsKeepConfiguration s requestId body ↔ ¬LeaksOnError s.machine.settings body := by
  constructor
  · intro hkept hleaks
    rw [LeaksOnError] at hleaks
    split at hleaks
    next hoperation =>
      obtain ⟨can, h, bus, free⟩ := hleaks
      exact leaks_canConfigure hoperation h bus free hkept
    next hoperation =>
      obtain ⟨i2c, h, bus, transfers, h8, h9, free⟩ := hleaks
      exact leaks_i2cExchange hoperation h bus transfers h8 h9 free hkept
    next hoperation =>
      obtain ⟨h, radio, code⟩ := hleaks
      exact leaks_blePair hoperation h radio code hkept
    next => exact hleaks
  · intro safe reply error
    obtain ⟨response, failed, heffect⟩ :=
      (@handles_dispatch requestId (s.onReplies reply).machine.settings body).failed id_lt rfl error
    exact configurationKept_dispatch heffect failed safe

theorem errorsKeepConfiguration_iff_can0 : ErrorsKeepConfiguration obligingBridge 1 (tlvBytes (canItems 0)) :=
  (errorsKeepConfiguration_iff (by decide)).mpr fun hleaks => by
    rw [LeaksOnError, canItems_handled] at hleaks
    obtain ⟨can, h, bus, -⟩ := hleaks
    rw [canItems_configuration (by decide)] at h
    obtain rfl := Option.some.inj h
    cases bus

/-- A controller that does not begin leaves D8 to CAN1, although nothing can give it back. -/
theorem errorsKeepConfiguration_can1_fails : ¬∀ s requestId body, requestId < 2 ^ 32 → Reaches anyEvent s →
    ErrorsKeepConfiguration s requestId body := by
  intro h
  refine leaks_canConfigure canItems_handled (canItems_configuration (by decide)) rfl rfl
    (h obligingBridge 1 (tlvBytes (canItems 1)) (by decide) (.powerUp _ _ _))

end JLinkMcp.Firmware
