import JLinkMcp.FirmwareEffects

namespace JLinkMcp.Firmware

open Codec StateProgram

/-- What the sketch runs one after the other: the requests it gets, and the polls of `loop`. -/
inductive Event where
  | request (requestId : Nat) (body : Bytes)
  | poll

def Event.run : Event → BridgeM Unit
  | request requestId body => dispatch requestId body
  | poll => machineOf.run pollAll

/-- The bridge after the event. -/
def Bridge.after (s : Bridge) (event : Event) : Bridge := (event.run s).2

/-- The operation of the event, where it is a request that has one. -/
def Event.operation : Event → Option Operation
  | request _ body => handledOperation body
  | poll => none

/-- Everything that an event can do to the settings. -/
def EventEffect : Event → Settings → Settings → Prop
  | .request _ body, c, c' => ∃ response, DispatchEffect body c response c'
  | .poll, c, c' => c' = c ∨ c' = c.paired

theorem eventEffect_after (s : Bridge) (event : Event) :
    EventEffect event s.machine.settings (s.after event).machine.settings := by
  cases event with
  | request requestId body => exact handles_dispatch.effect rfl
  | poll => exact polled_settings polled_pollAll s

/-- The settings at power-up. -/
def Settings.powerUp : Settings where
  pinResources := .init
  uartConfigured := fun _ => false
  canConfigured := fun _ => false
  gpioEdge := fun _ => 0
  gpioConfigured := fun _ => false
  gpioOutput := fun _ => false
  radioMode := 0
  wifiConnected := false
  sockets := fun _ => ⟨false, 0, [], 0⟩
  bleInitialized := false
  expectedPairingCode := noPairingCode

/-- The states that a row of events can lead to, on any hardware, where every event is one that the
settings before it allow. -/
inductive Reaches (allowed : Settings → Event → Prop) : Bridge → Prop
  | powerUp (board : Board) (identity : BuildIdentity) (limits : UsbLimits) :
      Reaches allowed ⟨.powerUp board identity limits, []⟩
  | after {s : Bridge} {event : Event} (reached : Reaches allowed s)
      (ok : allowed s.machine.settings event) : Reaches allowed (s.after event)

/-- What holds at power-up and is kept by every allowed event holds in every state reached. -/
theorem Reaches.invariant {allowed : Settings → Event → Prop} {holds : Settings → Prop}
    (start : holds .powerUp)
    (kept : ∀ c event c', holds c → allowed c event → EventEffect event c c' → holds c') {s : Bridge}
    (reached : Reaches allowed s) : holds s.machine.settings := by
  induction reached with
  | powerUp board identity limits => exact start
  | @after s event _ ok ih => exact kept _ _ _ ih ok (eventEffect_after s event)

/-- Every call is answered by `WL_CONNECTED`, which counts as true. -/
def obligingBoard : Board := ⟨fun _ => ⟨wlConnected, [], 0⟩, .init, [], 0⟩

def obligingBridge : Bridge := ⟨.powerUp obligingBoard ⟨[], 1, [], []⟩ ⟨0, 0⟩, []⟩

/-- Every event is allowed. -/
def anyEvent (_ : Settings) (_ : Event) : Prop := True

/-- A request does what its handler does, or is refused as a whole. -/
theorem dispatchEffect_cases {body : Bytes} {c c' : Settings} {response : Response}
    (h : DispatchEffect body c response c') :
    (response.status ≠ kStatusOk ∧ c' = c) ∨ ∃ operation, handledOperation body = some operation ∧
      Effect ⟨body⟩ c operation response c' := by
  rw [DispatchEffect] at h
  split at h
  next => exact .inl h
  next operation hoperation => exact .inr ⟨operation, hoperation, h⟩

section body

variable {items : List Tlv} {operation : Operation}

/-- A body of items that the operation knows goes to its handler. -/
theorem operationNumber_tlvBytes (representable : Representable items)
    (nodup : (items.map Prod.fst).Nodup)
    (hoperation : lookupTlv FieldId.operation.toNat items = some (leBytes 2 operation.toNat))
    (known : items.all (fun item => knownField operation.toNat item.1) = true) :
    operationNumber ⟨tlvBytes items⟩ = some operation.toNat := by
  have hnumber : operation.toNat < 256 ^ 2 := by cases operation <;> decide
  have hread : (TlvReader.mk (tlvBytes items)).u16 .operation = some operation.toNat := by
    rw [TlvReader.u16, TlvReader.getU16, getNumber_tlvBytes representable nodup, hoperation]
    simp [leNat_leBytes_of_lt hnumber]
  have hvalid : (TlvReader.mk (tlvBytes items)).valid = true := by
    rw [valid_tlvBytes representable]
    exact decide_eq_true nodup
  have hknown : (TlvReader.mk (tlvBytes items)).onlyKnown (knownField operation.toNat) = true := by
    rw [onlyKnown_tlvBytes representable]
    exact known
  rw [operationNumber, hread]
  simp [guard, hvalid, hknown]

theorem handledOperation_tlvBytes (representable : Representable items)
    (nodup : (items.map Prod.fst).Nodup)
    (hoperation : lookupTlv FieldId.operation.toNat items = some (leBytes 2 operation.toNat))
    (known : items.all (fun item => knownField operation.toNat item.1) = true) :
    handledOperation (tlvBytes items) = some operation := by
  rw [handledOperation, operationNumber_tlvBytes representable nodup hoperation known]
  cases operation <;> rfl

theorem dispatch_of_handled {requestId : Nat} {body : Bytes} (h : handledOperation body = some operation) :
    dispatch requestId body = runOperation operation ⟨body⟩ requestId := by
  obtain ⟨number, hnumber, hoperation⟩ := Option.bind_eq_some_iff.mp h
  rw [dispatch, hnumber]
  dsimp only
  rw [hoperation]

end body

end JLinkMcp.Firmware
