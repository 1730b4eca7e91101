import JLinkMcp.FirmwareCalls

namespace JLinkMcp.Firmware

open Codec StateProgram

/-- The variables that requests leave for later ones: owners, configuration, sessions. -/
structure Settings where
  pinResources : PinResources
  uartConfigured : Nat → Bool
  canConfigured : Nat → Bool
  gpioEdge : Nat → Nat
  gpioConfigured : Nat → Bool
  gpioOutput : Nat → Bool
  radioMode : Nat
  wifiConnected : Bool
  sockets : Nat → SocketSlot
  bleInitialized : Bool
  expectedPairingCode : Nat

def Machine.settings (machine : Machine) : Settings where
  pinResources := machine.pinResources
  uartConfigured := machine.uartConfigured
  canConfigured := machine.canConfigured
  gpioEdge := machine.gpioEdge
  gpioConfigured := machine.gpioConfigured
  gpioOutput := machine.gpioOutput
  radioMode := machine.radioMode
  wifiConnected := machine.wifiConnected
  sockets := machine.sockets
  bleInitialized := machine.bleInitialized
  expectedPairingCode := machine.expectedPairingCode

/-- What a successful pairing does to the settings. -/
def Settings.paired (settings : Settings) : Settings :=
  { settings with expectedPairingCode := noPairingCode }

theorem Settings.paired_paired (settings : Settings) : settings.paired.paired = settings.paired := rfl

/-- The settings stay as they are, and every call is guarded. -/
def Keeps (drives : Nat → Prop) (machine machine' : Machine) : Prop :=
  machine'.settings = machine.settings ∧
    Issues (Guarded drives machine.pinResources) machine.board machine'.board

/-- A pairing that succeeded may have been noticed; nothing that has an owner is touched. -/
def Polled (machine machine' : Machine) : Prop :=
  (machine'.settings = machine.settings ∨ machine'.settings = machine.settings.paired) ∧
    Issues (Guarded (fun _ => False) machine.pinResources) machine.board machine'.board

theorem pinResources_of_settings {machine machine' : Machine}
    (h : machine'.settings = machine.settings) : machine'.pinResources = machine.pinResources :=
  congrArg Settings.pinResources h

instance (drives : Nat → Prop) : IsPreorder Machine (Keeps drives) where
  refl machine := ⟨rfl, refl_of (Issues _) machine.board⟩
  trans := by
    rintro machine machine' machine'' ⟨hsettings, hissues⟩ ⟨hsettings', hissues'⟩
    rw [pinResources_of_settings hsettings] at hissues'
    exact ⟨hsettings'.trans hsettings, trans_of (Issues _) hissues hissues'⟩

instance : IsPreorder Machine Polled where
  refl machine := ⟨.inl rfl, refl_of (Issues _) machine.board⟩
  trans := by
    rintro machine machine' machine'' ⟨hsettings, hissues⟩ ⟨hsettings', hissues'⟩
    have hpins : machine'.pinResources = machine.pinResources := hissues.1
    rw [hpins] at hissues'
    refine ⟨?_, trans_of (Issues _) hissues hissues'⟩
    rcases hsettings with h | h <;> rcases hsettings' with h' | h'
    · exact .inl (h'.trans h)
    · exact .inr (h'.trans (congrArg Settings.paired h))
    · exact .inr (h'.trans h)
    · exact .inr (h'.trans ((congrArg Settings.paired h).trans (Settings.paired_paired _)))

section keeps

variable {drives : Nat → Prop} {α : Type}

/-- A program on the hardware alone. -/
theorem keeps_board {program : BoardM α}
    (h : ∀ pins, CallsOnly (Guarded drives pins) program) :
    Moves (Keeps drives) (boardOf.run program) := by
  intro machine
  have hissues := (h machine.pinResources).issues machine.board
  refine ⟨?_, hissues⟩
  have hpins := hissues.1
  exact congrArg (fun pins => { machine.settings with pinResources := pins }) hpins

theorem keeps_call {c : HwCall} (h : ∀ pins, Guarded drives pins c) :
    Moves (Keeps drives) (liftM (call c) : MachineM HwReply) := keeps_board fun pins => calls_call (h pins)

theorem keeps_storeResponse (bytes : Bytes) : Moves (Keeps drives) (storeResponse bytes) :=
  moves_modify fun machine => ⟨rfl, refl_of (Issues _) machine.board⟩

theorem keeps_pushReceived (protocol channel : Nat) (payload : Bytes) :
    Moves (Keeps drives) (pushReceived protocol channel payload) :=
  moves_modify fun machine => ⟨rfl, refl_of (Issues _) machine.board⟩

theorem keeps_blePoll : Moves (Keeps drives) blePoll := by
  unfold blePoll
  refine moves_bind (keeps_board fun _ => calls_askHandle trivial) fun code => ?_
  cases code with
  | none => exact moves_pure _
  | some code => exact moves_modify fun machine => ⟨rfl, refl_of (Issues _) machine.board⟩

theorem keeps_scanRound (listing : BleListing) : Moves (Keeps drives) (scanRound listing) := by
  unfold scanRound
  refine moves_ite (fun _ => moves_pure _) fun _ => ?_
  refine moves_bind (keeps_board fun _ => calls_askHandle trivial) fun device => ?_
  cases device with
  | none =>
    exact moves_bind keeps_blePoll fun _ => moves_bind (keeps_call fun _ => trivial) fun _ => moves_pure _
  | some device =>
    refine moves_bind (keeps_board fun _ => calls_addBleDevice listing device) fun added => ?_
    cases added <;> exact moves_pure _

theorem keeps_connectRound (address : Bytes) (found : Option Nat) :
    Moves (Keeps drives) (connectRound address found) := by
  unfold connectRound
  refine moves_bind (keeps_board fun _ => calls_askHandle trivial) fun candidate => ?_
  refine moves_bind ?_ fun matching => moves_ite (fun _ => moves_pure _) fun _ => ?_
  · cases candidate with
    | none => exact moves_pure _
    | some device => exact moves_bind (keeps_call fun _ => trivial) fun _ => moves_pure _
  · exact moves_bind keeps_blePoll fun _ => moves_bind (keeps_call fun _ => trivial) fun _ => moves_pure _

theorem keeps_readReceived (window : ReceiveWindow) :
    Moves (Keeps drives) (readReceived window) := by
  intro machine
  exact ⟨rfl, refl_of (Issues _) machine.board⟩

theorem keeps_pollUarts : Moves (Keeps drives) pollUarts := by
  refine moves_forM (fun port => ?_) _
  refine moves_bind moves_get fun machine => moves_ite (fun _ => ?_) fun _ => moves_pure _
  refine moves_bind (keeps_board fun _ => calls_readWhile trivial trivial _) fun received => ?_
  exact moves_ite (fun _ => keeps_pushReceived _ _ _) fun _ => moves_pure _

theorem keeps_pollCanBus (bus : Nat) : ∀ pending, Moves (Keeps drives) (pollCanBus bus pending)
  | 0 => moves_pure _
  | pending + 1 => by
    refine moves_bind (keeps_call fun _ => trivial) fun _ => ?_
    exact moves_bind (keeps_pushReceived _ _ _) fun _ => keeps_pollCanBus bus pending

theorem keeps_pollCan : Moves (Keeps drives) pollCan := by
  refine moves_forM (fun bus => ?_) _
  refine moves_bind moves_get fun machine => moves_ite (fun _ => ?_) fun _ => moves_pure _
  exact moves_bind (keeps_call fun _ => trivial) fun _ => keeps_pollCanBus bus _

theorem keeps_pollGpio : Moves (Keeps drives) pollGpio := by
  refine moves_forM (fun pin => ?_) _
  unfold pollGpioPin
  refine moves_bind moves_get fun machine => moves_ite (fun _ => ?_) fun _ => moves_pure _
  refine moves_bind (keeps_board fun _ => calls_readPin pin) fun value => ?_
  refine moves_ite (fun _ => ?_) fun _ => moves_pure _
  refine moves_bind (moves_modify fun machine => ⟨rfl, refl_of (Issues _) machine.board⟩) fun _ => ?_
  exact moves_ite (fun _ => keeps_pushReceived _ _ _) fun _ => moves_pure _

theorem keeps_pollWifi : Moves (Keeps drives) pollWifi := by
  refine moves_bind moves_get fun machine => moves_ite (fun _ => ?_) fun _ => moves_pure _
  refine moves_forM (fun socket => ?_) _
  refine moves_bind moves_get fun machine => moves_ite (fun _ => ?_) fun _ => moves_pure _
  refine moves_bind (keeps_board fun _ => calls_receiveSocket _ _) fun received => ?_
  exact moves_ite (fun _ => keeps_pushReceived _ _ _) fun _ => moves_pure _

theorem keeps_pollSubscription : Moves (Keeps drives) pollSubscription := by
  refine moves_bind moves_get fun machine => ?_
  cases machine.bleSubscription with
  | none => exact moves_pure _
  | some characteristic =>
    refine moves_ite (fun _ => ?_) fun _ => moves_pure _
    refine moves_bind (keeps_board fun _ => calls_ask trivial) fun _ => ?_
    refine moves_ite (fun _ => ?_) fun _ => moves_pure _
    refine moves_bind (keeps_call fun _ => trivial) fun _ => ?_
    refine moves_bind (keeps_storeResponse _) fun _ => ?_
    exact moves_ite (fun _ => keeps_pushReceived _ _ _) fun _ => moves_pure _

end keeps

theorem polled_settings {α : Type} {program : MachineM α} (h : Moves Polled program) (s : Bridge) :
    (machineOf.run program s).2.machine.settings = s.machine.settings ∨
      (machineOf.run program s).2.machine.settings = s.machine.settings.paired := (h s.machine).1

theorem polled_issues {α : Type} {program : MachineM α} (h : Moves Polled program) (s : Bridge) :
    Issues (Guarded (fun _ => False) s.machine.pinResources) s.machine.board
      (machineOf.run program s).2.machine.board := (h s.machine).2

theorem polled_of_keeps {α : Type} {program : MachineM α} (h : Moves (Keeps fun _ => False) program) :
    Moves Polled program := fun machine => ⟨.inl (h machine).1, (h machine).2⟩

theorem polled_pollBle : Moves Polled pollBle := by
  refine moves_bind moves_get fun machine => moves_ite (fun _ => ?_) fun _ => moves_pure _
  refine moves_bind (polled_of_keeps keeps_blePoll) fun _ => ?_
  refine moves_bind (polled_of_keeps keeps_pollSubscription) fun _ => ?_
  refine moves_bind (polled_of_keeps (keeps_board fun _ => calls_ask trivial)) fun _ => ?_
  refine moves_ite (fun _ => ?_) fun _ => moves_pure _
  exact moves_modify fun machine => ⟨.inr rfl, refl_of (Issues _) machine.board⟩

theorem polled_pollAll : Moves Polled pollAll := by
  unfold pollAll
  refine moves_bind (polled_of_keeps keeps_pollUarts) fun _ => ?_
  refine moves_bind (polled_of_keeps keeps_pollCan) fun _ => ?_
  refine moves_bind (polled_of_keeps keeps_pollGpio) fun _ => ?_
  refine moves_bind (polled_of_keeps keeps_pollWifi) fun _ => ?_
  exact polled_pollBle

theorem polled_receiveRound (window : ReceiveWindow) (u : Unit) :
    Moves Polled (receiveRound window u) := by
  refine moves_bind moves_get fun machine => moves_ite (fun _ => moves_pure _) fun _ => ?_
  refine moves_bind polled_pollAll fun _ => ?_
  exact moves_bind (polled_of_keeps (keeps_call fun _ => trivial)) fun _ => moves_pure _

end JLinkMcp.Firmware
