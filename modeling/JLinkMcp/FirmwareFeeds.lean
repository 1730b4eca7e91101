import JLinkMcp.FirmwareEffects
import JLinkMcp.FirmwareRecords
import Mathlib.Logic.Relation

namespace JLinkMcp.Firmware

open Codec StateProgram Relation

/-- Time passes, or the queues get one call, which is one that the time allows. -/
inductive QueueStep (ok : Nat → QueueCall → Prop) :
    Nat × SharedReceiveQueue → Nat × SharedReceiveQueue → Prop
  | later {now now' queue} (le : now ≤ now') : QueueStep ok (now, queue) (now', queue)
  | called {now queue call} (allowed : ok now call) : QueueStep ok (now, queue) (now, (queue.call call).1)

/-- The clock and the queues. -/
def Machine.clocked (machine : Machine) : Nat × SharedReceiveQueue :=
  (machine.board.now, machine.receiveQueue)

/-- In between, time passes and the queues get allowed calls. -/
def Feeds (ok : Nat → QueueCall → Prop) (machine machine' : Machine) : Prop :=
  ReflTransGen (QueueStep ok) machine.clocked machine'.clocked

/-- The records of the call are stamped with `micros()`. -/
def Stamped (now : Nat) (record : QueueRecord) : Prop :=
  record.timestampUs = UInt64.ofNat (now % 2 ^ 32)

/-- A poll only pushes: no record of a USB endpoint, and of a socket only while it is in use. -/
inductive PollCall (sockets : Nat → SocketSlot) (now : Nat) : QueueCall → Prop
  | pushed {protocol record} (stamped : Stamped now record) (usb : protocol ≠ PROTO_USB)
      (wifi : protocol = PROTO_WIFI →
        record.channel.toNat < 8 ∧ (sockets record.channel.toNat).used = true) :
      PollCall sockets now (.push protocol record)

/-- The sockets stay as they are, and the queues get what a poll may push. -/
def Polls (machine machine' : Machine) : Prop :=
  machine'.sockets = machine.sockets ∧ Feeds (PollCall machine.sockets) machine machine'

/-- Time may pass; the sockets and the queues stay as they are. -/
def Passes (machine machine' : Machine) : Prop :=
  machine'.sockets = machine.sockets ∧ machine'.receiveQueue = machine.receiveQueue ∧
    machine.board.now ≤ machine'.board.now

/-- The clock of the board does not go back. -/
def Later (board board' : Board) : Prop := board.now ≤ board'.now

section preorders

variable {ok : Nat → QueueCall → Prop}

instance : IsPreorder Machine (Feeds ok) where
  refl _ := .refl
  trans _ _ _ := ReflTransGen.trans

instance : IsPreorder Machine Polls where
  refl _ := ⟨rfl, .refl⟩
  trans := by
    rintro machine machine' machine'' ⟨hsockets, hfeeds⟩ ⟨hsockets', hfeeds'⟩
    rw [hsockets] at hfeeds'
    exact ⟨hsockets'.trans hsockets, hfeeds.trans hfeeds'⟩

instance : IsPreorder Machine Passes where
  refl _ := ⟨rfl, rfl, Nat.le_refl _⟩
  trans _ _ _ h h' := ⟨h'.1.trans h.1, h'.2.1.trans h.2.1, Nat.le_trans h.2.2 h'.2.2⟩

instance : IsPreorder Board Later where
  refl _ := Nat.le_refl _
  trans _ _ _ := Nat.le_trans

theorem Passes.feeds {machine machine' : Machine} (h : Passes machine machine') :
    Feeds ok machine machine' := by
  refine .single ?_
  rw [Machine.clocked, Machine.clocked, h.2.1]
  exact .later h.2.2

theorem Passes.polls {machine machine' : Machine} (h : Passes machine machine') :
    Polls machine machine' := ⟨h.1, h.feeds⟩

theorem feeds_of_eq {machine machine' : Machine} (h : machine'.clocked = machine.clocked) :
    Feeds ok machine machine' := by
  rw [Feeds, h]

/-- More calls are allowed. -/
theorem Feeds.mono {ok' : Nat → QueueCall → Prop} {machine machine' : Machine}
    (h : Feeds ok machine machine') (weaker : ∀ now call, ok now call → ok' now call) :
    Feeds ok' machine machine' := by
  refine ReflTransGen.mono (fun a b hstep => ?_) _ _ h
  cases hstep with
  | later le => exact .later le
  | called allowed => exact .called (weaker _ _ allowed)

end preorders

section programs

variable {α : Type} {ok : Nat → QueueCall → Prop}

/-- Owners for which every guard holds. -/
def freePins : PinResources := ⟨fun _ => kResourceOwnerI2c1⟩

theorem later_call (c : HwCall) : Moves Later (call c) := fun _ => Nat.le_add_right _ _

theorem CallsOnly.later {allowed : HwCall → Prop} {program : BoardM α} (h : CallsOnly allowed program) :
    Moves Later program := h Later fun c _ => later_call c

theorem passes_board {program : BoardM α}
    (h : CallsOnly (Guarded (fun _ => True) freePins) program) :
    Moves Passes (boardOf.run program) := fun machine => ⟨rfl, rfl, h.later machine.board⟩

theorem passes_call (c : HwCall) : Moves Passes (liftM (call c) : MachineM HwReply) :=
  fun machine => ⟨rfl, rfl, later_call c machine.board⟩

theorem passes_blePoll : Moves Passes blePoll := by
  unfold blePoll
  refine moves_bind (passes_board (calls_askHandle trivial)) fun code => ?_
  cases code with
  | none => exact moves_pure _
  | some code => exact moves_modify fun _ => ⟨rfl, rfl, Nat.le_refl _⟩

theorem passes_scanRound (listing : BleListing) : Moves Passes (scanRound listing) := by
  unfold scanRound
  refine moves_ite (fun _ => moves_pure _) fun _ => ?_
  refine moves_bind (passes_board (calls_askHandle trivial)) fun device => ?_
  cases device with
  | none => exact moves_bind passes_blePoll fun _ => moves_bind (passes_call _) fun _ => moves_pure _
  | some device =>
    refine moves_bind (passes_board (calls_addBleDevice listing device)) fun added => ?_
    cases added <;> exact moves_pure _

theorem passes_connectRound (address : Bytes) (found : Option Nat) :
    Moves Passes (connectRound address found) := by
  unfold connectRound
  refine moves_bind (passes_board (calls_askHandle trivial)) fun candidate => ?_
  refine moves_bind ?_ fun matching => moves_ite (fun _ => moves_pure _) fun _ => ?_
  · cases candidate with
    | none => exact moves_pure _
    | some device => exact moves_bind (passes_call _) fun _ => moves_pure _
  · exact moves_bind passes_blePoll fun _ => moves_bind (passes_call _) fun _ => moves_pure _

theorem passes_storeResponse (bytes : Bytes) : Moves Passes (storeResponse bytes) :=
  moves_modify fun _ => ⟨rfl, rfl, Nat.le_refl _⟩

theorem polls_of_passes {program : MachineM α} (h : Moves Passes program) : Moves Polls program :=
  fun machine => (h machine).polls

theorem feeds_of_passes {program : MachineM α} (h : Moves Passes program) : Moves (Feeds ok) program :=
  fun machine => (h machine).feeds

/-- One record is pushed, with the time of that moment. -/
theorem feeds_pushReceived {protocol channel : Nat} {payload : Bytes} {machine : Machine}
    (h : ∀ record : QueueRecord, record.channel = UInt8.ofNat channel →
      Stamped machine.board.now record → ok machine.board.now (.push protocol record)) :
    Feeds ok machine (pushReceived protocol channel payload machine).2 :=
  .single (.called (h (QueueRecord.mk _ _ _ _) rfl rfl))

theorem polls_pushReceived {protocol channel : Nat} {payload : Bytes} (usb : protocol ≠ PROTO_USB)
    (wifi : protocol ≠ PROTO_WIFI) : Moves Polls (pushReceived protocol channel payload) :=
  fun _ => ⟨rfl, feeds_pushReceived fun _ _ stamped => .pushed stamped usb fun h => absurd h wifi⟩

end programs

section polls

theorem polls_pollUarts : Moves Polls pollUarts := by
  refine moves_forM (fun port => ?_) _
  refine moves_bind moves_get fun machine => moves_ite (fun _ => ?_) fun _ => moves_pure _
  refine moves_bind (polls_of_passes (passes_board (calls_readWhile trivial trivial _))) fun received => ?_
  exact moves_ite (fun _ => polls_pushReceived (by decide) (by decide)) fun _ => moves_pure _

theorem polls_pollCanBus (bus : Nat) : ∀ pending, Moves Polls (pollCanBus bus pending)
  | 0 => moves_pure _
  | pending + 1 => by
    refine moves_bind (polls_of_passes (passes_call _)) fun _ => ?_
    refine moves_bind (polls_pushReceived (by decide) (by decide)) fun _ => ?_
    exact polls_pollCanBus bus pending

theorem polls_pollCan : Moves Polls pollCan := by
  refine moves_forM (fun bus => ?_) _
  refine moves_bind moves_get fun machine => moves_ite (fun _ => ?_) fun _ => moves_pure _
  exact moves_bind (polls_of_passes (passes_call _)) fun _ => polls_pollCanBus bus _

theorem polls_pollGpio : Moves Polls pollGpio := by
  refine moves_forM (fun pin => ?_) _
  unfold pollGpioPin
  refine moves_bind moves_get fun machine => moves_ite (fun _ => ?_) fun _ => moves_pure _
  refine moves_bind (polls_of_passes (passes_board (calls_readPin pin))) fun value => ?_
  refine moves_ite (fun _ => ?_) fun _ => moves_pure _
  refine moves_bind (moves_modify fun machine => ⟨rfl, .refl⟩) fun _ => ?_
  exact moves_ite (fun _ => polls_pushReceived (by decide) (by decide)) fun _ => moves_pure _

/-- A socket is read only while it is in use, and what comes in gets its number. -/
theorem polls_pollSocket {socket : Nat} (lt : socket < 8) : Moves Polls (pollSocket socket) := by
  intro machine
  change Polls machine ((if (machine.sockets socket).used then (do
      let received ← liftM (receiveSocket socket (machine.sockets socket).protocol)
      if received.length ≠ 0 then pushReceived PROTO_WIFI socket received)
    else pure () : MachineM Unit) machine).2
  split
  next hused =>
    let out := boardOf.run (receiveSocket socket (machine.sockets socket).protocol) machine
    have hread : Polls machine out.2 := polls_of_passes (passes_board (calls_receiveSocket _ _)) machine
    refine trans_of Polls hread ?_
    change Polls out.2 ((if out.1.length ≠ 0 then pushReceived PROTO_WIFI socket out.1
      else pure () : MachineM Unit) out.2).2
    split
    · refine ⟨rfl, feeds_pushReceived fun record hchannel stamped => ?_⟩
      have hsocket : record.channel.toNat = socket := by
        rw [hchannel, UInt8.toNat_ofNat']
        exact Nat.mod_eq_of_lt (by omega)
      exact .pushed stamped (by decide) fun _ => by rw [hsocket]; exact ⟨lt, hused⟩
    · exact refl_of Polls _
  next => exact refl_of Polls machine

theorem moves_forM_mem {σ ι : Type} {rel : σ → σ → Prop} [IsPreorder σ rel] {body : ι → StateM σ PUnit} :
    ∀ {is : List ι}, (∀ i ∈ is, Moves rel (body i)) → Moves rel (is.forM body)
  | [], _ => moves_pure _
  | _ :: _, h => moves_bind (h _ List.mem_cons_self) fun _ =>
      moves_forM_mem fun i hi => h i (List.mem_cons_of_mem _ hi)

theorem polls_pollWifi : Moves Polls pollWifi := by
  refine moves_bind moves_get fun machine => moves_ite (fun _ => ?_) fun _ => moves_pure _
  exact moves_forM_mem fun socket hsocket => polls_pollSocket (List.mem_range.mp hsocket)

theorem polls_pollSubscription : Moves Polls pollSubscription := by
  refine moves_bind moves_get fun machine => ?_
  cases machine.bleSubscription with
  | none => exact moves_pure _
  | some characteristic =>
    refine moves_ite (fun _ => ?_) fun _ => moves_pure _
    refine moves_bind (polls_of_passes (passes_board (calls_ask trivial))) fun _ => ?_
    refine moves_ite (fun _ => ?_) fun _ => moves_pure _
    refine moves_bind (polls_of_passes (passes_call _)) fun _ => ?_
    refine moves_bind (polls_of_passes (passes_storeResponse _)) fun _ => ?_
    exact moves_ite (fun _ => polls_pushReceived (by decide) (by decide)) fun _ => moves_pure _

theorem polls_pollBle : Moves Polls pollBle := by
  refine moves_bind moves_get fun machine => moves_ite (fun _ => ?_) fun _ => moves_pure _
  refine moves_bind (polls_of_passes passes_blePoll) fun _ => moves_bind polls_pollSubscription fun _ => ?_
  refine moves_bind (polls_of_passes (passes_board (calls_ask trivial))) fun _ => ?_
  exact moves_ite (fun _ => moves_modify fun machine => ⟨rfl, .refl⟩) fun _ => moves_pure _

theorem polls_pollAll : Moves Polls pollAll := by
  unfold pollAll
  refine moves_bind polls_pollUarts fun _ => moves_bind polls_pollCan fun _ => ?_
  refine moves_bind polls_pollGpio fun _ => moves_bind polls_pollWifi fun _ => ?_
  exact polls_pollBle

theorem polls_receiveRound (window : ReceiveWindow) (u : Unit) :
    Moves Polls (receiveRound window u) := by
  refine moves_bind moves_get fun machine => moves_ite (fun _ => moves_pure _) fun _ => ?_
  exact moves_bind polls_pollAll fun _ => moves_bind (polls_of_passes (passes_call _)) fun _ => moves_pure _

end polls

end JLinkMcp.Firmware
