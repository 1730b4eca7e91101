import JLinkMcp.FirmwareSockets
import JLinkMcp.FirmwareSteps

namespace JLinkMcp.Firmware

open Codec StateProgram Relation

/-- A Wi-Fi record, with the number of sockets that had been opened under its id when it was read. -/
abbrev SocketRecord := QueueRecord × Nat

/-- All records but the first `count` of the channel. -/
def removeFirstOf (channel : UInt8) : Nat → List SocketRecord → List SocketRecord
  | 0, records => records
  | _ + 1, [] => []
  | count + 1, record :: records =>
    if record.1.channel = channel then removeFirstOf channel count records
    else record :: removeFirstOf channel (count + 1) records

/-- How many sockets have been opened under every id, and the records that are queued. -/
structure SocketData where
  opened : Nat → Nat
  queued : List SocketRecord

/-- The event opens a socket under the id. -/
def Bridge.opens (s : Bridge) (event : Event) (socket : Nat) : Bool :=
  !(s.machine.sockets socket).used && ((s.after event).machine.sockets socket).used

namespace SocketData

/-- The records before the event, and those that it reads from the sockets. -/
def fed (data : SocketData) (s : Bridge) (event : Event) : List SocketRecord :=
  data.queued ++ (s.newRecords (.event event) PROTO_WIFI).map fun record =>
    (record, data.opened record.channel.toNat)

/-- How many records a receive returns. -/
def returnedCount (window : ReceiveWindow) (records : List SocketRecord) : Nat :=
  (fittingPrefix window.limit
    ((records.map Prod.fst).filter (·.channel = UInt8.ofNat window.channel))).length

/-- What a receive of Wi-Fi records returns. -/
def returned (data : SocketData) (s : Bridge) (event : Event) (window : ReceiveWindow) :
    List SocketRecord :=
  ((data.fed s event).filter (·.1.channel = UInt8.ofNat window.channel)).take
    (returnedCount window (data.fed s event))

def after (data : SocketData) (s : Bridge) (event : Event) : SocketData where
  opened socket := if s.opens event socket then data.opened socket + 1 else data.opened socket
  queued :=
    match event.window with
    | none => data.fed s event
    | some window =>
      if window.protocol = PROTO_WIFI ∧ window.drain ≠ 0 then
        removeFirstOf (UInt8.ofNat window.channel) (returnedCount window (data.fed s event)) (data.fed s event)
      else data.fed s event

end SocketData

/-- The states that a row of events can lead to, on any hardware, with the data of their sockets; every
event is one that the state before it allows. -/
inductive SocketRun (allowed : Bridge → Event → Prop) : Bridge → SocketData → Prop
  | powerUp (board : Board) (identity : BuildIdentity) (limits : UsbLimits) :
      SocketRun allowed ⟨.powerUp board identity limits, []⟩ ⟨fun _ => 0, []⟩
  | after {s : Bridge} {data : SocketData} {event : Event} (run : SocketRun allowed s data)
      (ok : allowed s event) : SocketRun allowed (s.after event) (data.after s event)

/-- No socket is opened under an id that queued records carry. -/
def OpensDrained (s : Bridge) (event : Event) : Prop :=
  ∀ socket, s.opens event socket = true → ∀ record ∈ s.records PROTO_WIFI, record.channel.toNat ≠ socket

/-- A sound queue holds the records, and every socket in use has been opened. -/
structure DataTracked (s : Bridge) (data : SocketData) : Prop where
  sound : s.machine.receiveQueue.Sound
  records : data.queued.map Prod.fst = s.records PROTO_WIFI
  opened : ∀ socket, (s.machine.sockets socket).used = true → 0 < data.opened socket

/-- Every record was read from the socket that was opened last under its id. -/
def DataCurrent (data : SocketData) (records : List SocketRecord) : Prop :=
  ∀ record ∈ records, 0 < record.2 ∧ record.2 = data.opened record.1.channel.toNat

section lists

theorem map_removeFirstOf (channel : UInt8) (count : Nat) (records : List SocketRecord) :
    (removeFirstOf channel count records).map Prod.fst = removeFirst channel count (records.map Prod.fst) := by
  induction records generalizing count with
  | nil => cases count <;> rfl
  | cons record records ih =>
    cases count with
    | zero => rfl
    | succ count =>
      rw [removeFirstOf, List.map_cons, removeFirst]
      split
      next => exact ih count
      next => rw [List.map_cons, ih]

theorem removeFirstOf_sublist (channel : UInt8) (count : Nat) (records : List SocketRecord) :
    (removeFirstOf channel count records).Sublist records := by
  induction records generalizing count with
  | nil => cases count <;> simp [removeFirstOf]
  | cons record records ih =>
    cases count with
    | zero => simp [removeFirstOf]
    | succ count =>
      unfold removeFirstOf
      split
      next => exact (ih count).cons record
      next => exact (ih (count + 1)).cons_cons record

end lists

section events

variable {s : Bridge} {data : SocketData} {event : Event} {window : ReceiveWindow}

/-- An event that may queue Wi-Fi records polls, and does no more than that before it reads. -/
theorem polls_of_queues (h : event.queues PROTO_WIFI) : Polls s.machine (s.fed event) := by
  cases event with
  | poll => exact polls_poll s
  | request requestId body =>
    cases hwindow : (Event.request requestId body).window with
    | some window =>
      rw [fed_of_window hwindow]
      exact polls_waitedMachine s
    | none =>
      rw [Event.queues] at h
      split at h
      next hreceive =>
        rw [fed_of_none hwindow, after_receive hreceive, receiveOperation,
          (window_receive hreceive).symm.trans hwindow]
        exact refl_of Polls s.machine
      next => cases h
      next => exact h.elim

/-- What an event reads comes from a socket in use. -/
theorem used_of_newRecords (sound : s.machine.receiveQueue.Sound) {record : QueueRecord}
    (h : record ∈ s.newRecords (.event event) PROTO_WIFI) :
    record.channel.toNat < 8 ∧ (s.machine.sockets record.channel.toNat).used = true := by
  by_cases hqueues : event.queues PROTO_WIFI
  · have hpolls := polls_of_queues (s := s) hqueues
    have hpushes : ∀ now call, PollCall s.machine.sockets now call →
        ∃ pushed record, call = .push pushed record := by
      rintro now call ⟨-, -, -⟩
      exact ⟨_, _, rfl⟩
    obtain ⟨-, new, hnew, hok⟩ := records_path PROTO_WIFI hpolls.2 hpushes sound
    have hsame : s.newRecords (.event event) PROTO_WIFI = new :=
      List.append_cancel_left ((records_fed sound).symm.trans hnew)
    rw [hsame] at h
    obtain ⟨now, -, -, hwifi⟩ := hok record h
    exact hwifi rfl
  · have hnone : ¬(Step.event event).queues PROTO_WIFI := hqueues
    rw [newRecords_of_not_queues sound hnone] at h
    cases h

theorem DataTracked.fed (tracked : DataTracked s data) :
    (data.fed s event).map Prod.fst = (s.fed event).receiveQueue.records PROTO_WIFI := by
  rw [records_fed tracked.sound, SocketData.fed, List.map_append, tracked.records, List.map_map]
  exact congrArg _ (List.map_id _)

/-- A receive that drains takes the records out that it returns. -/
theorem records_of_window (sound : s.machine.receiveQueue.Sound) (h : event.window = some window) :
    (s.after event).records PROTO_WIFI =
      if window.protocol = PROTO_WIFI ∧ window.drain ≠ 0 then
        removeFirst (UInt8.ofNat window.channel) (fittingPrefix window.limit
          (((s.fed event).receiveQueue.records PROTO_WIFI).filter
            (·.channel = UInt8.ofNat window.channel))).length ((s.fed event).receiveQueue.records PROTO_WIFI)
      else (s.fed event).receiveQueue.records PROTO_WIFI := by
  have hsound : (s.fed event).receiveQueue.Sound := sound_fed sound
  cases event with
  | poll => cases h
  | request requestId body =>
    have hqueue : (s.after (.request requestId body)).machine.receiveQueue =
        ((s.fed (.request requestId body)).receiveQueue.read window.protocol (UInt8.ofNat window.channel)
          window.limit (window.drain ≠ 0)).1 := by
      rw [after_of_window h, fed_of_window h]
      rfl
    rw [Bridge.records, hqueue, records_read hsound]
    simp only [decide_eq_true_eq]

/-- What is returned are the first records of the channel that fit. -/
theorem map_returned (tracked : DataTracked s data) :
    (data.returned s event window).map Prod.fst =
      fittingPrefix window.limit (((s.fed event).receiveQueue.records PROTO_WIFI).filter
        (·.channel = UInt8.ofNat window.channel)) := by
  have hfed : (data.fed s event).map Prod.fst = (s.fed event).receiveQueue.records PROTO_WIFI := tracked.fed
  have hfilter : ((data.fed s event).filter (·.1.channel = UInt8.ofNat window.channel)).map Prod.fst =
      ((data.fed s event).map Prod.fst).filter (·.channel = UInt8.ofNat window.channel) := by
    rw [List.filter_map]
    rfl
  rw [SocketData.returned, SocketData.returnedCount, List.map_take, hfilter, hfed]
  exact (List.prefix_iff_eq_take.mp (fittingPrefix_begins _ _)).symm

theorem DataTracked.after (tracked : DataTracked s data) (event : Event) :
    DataTracked (s.after event) (data.after s event) where
  sound := sound_step tracked.sound (.event event)
  records := by
    have hfed : (data.fed s event).map Prod.fst = (s.fed event).receiveQueue.records PROTO_WIFI :=
      tracked.fed
    cases hwindow : event.window with
    | none =>
      rw [SocketData.after, hwindow, Bridge.records, ← fed_of_none hwindow]
      exact hfed
    | some window =>
      rw [SocketData.after, hwindow, records_of_window tracked.sound hwindow]
      dsimp only
      split
      next => rw [map_removeFirstOf, SocketData.returnedCount, hfed]
      next => exact hfed
  opened socket hused := by
    rw [SocketData.after]
    dsimp only
    split
    next => exact Nat.succ_pos _
    next hopens =>
      refine tracked.opened socket ?_
      simpa [Bridge.opens, hused] using hopens

/-- What stays in the queue was there or has been read by the event. -/
theorem after_sublist (event : Event) : (data.after s event).queued.Sublist (data.fed s event) := by
  rw [SocketData.after]
  dsimp only
  split
  next => exact List.Sublist.refl _
  next =>
    split
    next => exact removeFirstOf_sublist _ _ _
    next => exact List.Sublist.refl _

/-- Before a receive returns them, records that are read join those of the same sockets. -/
theorem DataCurrent.fed (tracked : DataTracked s data) (current : DataCurrent data data.queued) :
    DataCurrent data (data.fed s event) := by
  intro record hrecord
  rcases List.mem_append.mp hrecord with hold | hnew
  · exact current record hold
  · obtain ⟨read, hread, rfl⟩ := List.mem_map.mp hnew
    exact ⟨tracked.opened _ (used_of_newRecords tracked.sound hread).2, rfl⟩

/-- No record of the event or of before carries the id of a socket that the event opens. -/
theorem not_opens_of_fed (tracked : DataTracked s data) (ok : OpensDrained s event) {record : SocketRecord}
    (h : record ∈ data.fed s event) : s.opens event record.1.channel.toNat = false := by
  refine Bool.eq_false_iff.mpr fun hopens => ?_
  rcases List.mem_append.mp h with hold | hnew
  · have hrecord : record.1 ∈ s.records PROTO_WIFI :=
      tracked.records ▸ List.mem_map_of_mem hold
    exact ok _ hopens record.1 hrecord rfl
  · obtain ⟨read, hread, rfl⟩ := List.mem_map.mp hnew
    have hused := (used_of_newRecords tracked.sound hread).2
    simp [Bridge.opens, hused] at hopens

theorem DataCurrent.after (tracked : DataTracked s data) (current : DataCurrent data data.queued)
    (ok : OpensDrained s event) : DataCurrent (data.after s event) (data.after s event).queued := by
  intro record hrecord
  have hfed := (after_sublist event).subset hrecord
  obtain ⟨hpos, hlabel⟩ := current.fed tracked record hfed
  have hopened : (data.after s event).opened record.1.channel.toNat = data.opened record.1.channel.toNat := by
    rw [SocketData.after]
    dsimp only
    rw [not_opens_of_fed tracked ok hfed]
    rfl
  exact ⟨hpos, hlabel.trans hopened.symm⟩

end events

section runs

variable {allowed : Bridge → Event → Prop} {s : Bridge} {data : SocketData}

theorem dataTracked_of_run (run : SocketRun allowed s data) : DataTracked s data := by
  induction run with
  | powerUp board identity limits => exact ⟨sound_init, records_init.symm, nofun⟩
  | @after s data event _ _ ih => exact ih.after event

theorem dataCurrent_of_run (run : SocketRun OpensDrained s data) : DataCurrent data data.queued := by
  induction run with
  | powerUp board identity limits => exact nofun
  | @after s data event run ok ih => exact ih.after (dataTracked_of_run run) ok

/-- A receive of Wi-Fi records answers with the bytes of the returned ones. -/
theorem answers_returned (tracked : DataTracked s data) {requestId : Nat} {body : Bytes}
    {window : ReceiveWindow} (h : (Event.request requestId body).window = some window)
    (wifi : window.protocol = PROTO_WIFI) :
    ∃ response machine, response.status = kStatusOk ∧
      response.data = queuedBytes ((data.returned s (.request requestId body) window).map Prod.fst) ∧
      (s.after (.request requestId body)).serial =
        s.serial ++ responseMessage requestId response (timestampUs machine) := by
  refine ⟨receivedResponse window s, readMachine window s, rfl, ?_, by rw [after_of_window h]⟩
  have hfed : s.fed (.request requestId body) = waitedMachine window s := fed_of_window h
  have hsound : (waitedMachine window s).receiveQueue.Sound := hfed ▸ sound_fed tracked.sound
  rw [receivedResponse_data, read_records hsound, map_returned tracked, hfed, wifi]

/-- In every run that opens no socket under an id while records of it are queued: what a receive of Wi-Fi
records returns was read from the socket that was opened last under the id. -/
theorem returned_current_of_opensDrained (run : SocketRun OpensDrained s data) {requestId : Nat}
    {body : Bytes} {window : ReceiveWindow} (h : (Event.request requestId body).window = some window)
    (wifi : window.protocol = PROTO_WIFI) :
    (∃ response machine, response.status = kStatusOk ∧
      response.data = queuedBytes ((data.returned s (.request requestId body) window).map Prod.fst) ∧
      (s.after (.request requestId body)).serial =
        s.serial ++ responseMessage requestId response (timestampUs machine)) ∧
    ∀ record ∈ data.returned s (.request requestId body) window,
      record.1.channel.toNat = window.channel ∧ 0 < record.2 ∧ record.2 = data.opened window.channel := by
  have tracked := dataTracked_of_run run
  refine ⟨answers_returned tracked h wifi, fun record hrecord => ?_⟩
  obtain ⟨hmem, hchannel⟩ := List.mem_filter.mp (List.mem_of_mem_take hrecord)
  obtain ⟨hpos, hlabel⟩ := (dataCurrent_of_run run).fed tracked record hmem
  obtain ⟨-, hlt, -⟩ := receiveWindow_bounds (receive_of_window h).2
  have hid : record.1.channel.toNat = window.channel := by
    rw [of_decide_eq_true hchannel, UInt8.toNat_ofNat']
    exact Nat.mod_eq_of_lt hlt
  exact ⟨hid, hpos, hid ▸ hlabel⟩

/-- The bridge and the data of its sockets after one more event. -/
def nextData (run : Bridge × SocketData) (event : Event) : Bridge × SocketData :=
  (run.1.after event, run.2.after run.1 event)

/-- Where everything is allowed, every row of events is a run. -/
theorem SocketRun.events {run : Bridge × SocketData} (h : SocketRun (fun _ _ => True) run.1 run.2)
    (events : List Event) :
    SocketRun (fun _ _ => True) (events.foldl nextData run).1 (events.foldl nextData run).2 := by
  induction events generalizing run with
  | nil => exact h
  | cons event events ih => exact ih (h.after trivial)

end runs

/-- Every socket has one byte at every poll, and all else is answered by `WL_CONNECTED`. -/
def trickleBoard : Board := ⟨fun calls => match calls with
  | .tcpAvailable _ :: .tcpRead _ :: _ => ⟨0, [], 0⟩
  | _ => ⟨wlConnected, [], 0⟩, .init, [], 0⟩

def trickleBridge : Bridge := ⟨.powerUp trickleBoard ⟨[], 1, [], []⟩ ⟨0, 0⟩, []⟩

/-- `wifi_socket_close` of the first socket. -/
def closeItems : List Tlv := [(1, leBytes 2 Operation.wifiSocketClose.toNat), (34, [0])]

/-- `receive` of the first socket. -/
def receiveItems : List Tlv :=
  [(1, leBytes 2 Operation.receive.toNat), (2, [5]), (49, [0]), (46, leBytes 2 4096), (47, [1]),
    (48, leBytes 4 0)]

def receiveFirst : Event := .request 5 (tlvBytes receiveItems)

theorem receiveFirst_window : receiveFirst.window = some ⟨PROTO_WIFI, 0, 4096, 1, 0⟩ := by
  have hfields : receiveFirst.window.map (fun window =>
      (window.protocol, window.channel, window.limit, window.drain, window.timeout)) =
        some (PROTO_WIFI, 0, 4096, 1, 0) := by decide +kernel
  obtain ⟨⟨protocol, channel, limit, drain, timeout⟩, hwindow, heq⟩ := Option.map_eq_some_iff.mp hfields
  cases heq
  exact hwindow

/-- A socket is opened and polled. -/
def polledSocket : Bridge × SocketData :=
  [.request 1 (tlvBytes connectItems), .request 2 (tlvBytes socketItems), .poll].foldl nextData
    (trickleBridge, ⟨fun _ => 0, []⟩)

theorem opensDrained_of_empty {s : Bridge} (event : Event) (h : (s.records PROTO_WIFI).length = 0) :
    OpensDrained s event := by
  intro socket _ record hrecord
  rw [List.length_eq_zero_iff.mp h] at hrecord
  cases hrecord

theorem returned_current_of_opensDrained_polled :
    (polledSocket.2.returned polledSocket.1 receiveFirst ⟨PROTO_WIFI, 0, 4096, 1, 0⟩).length = 1 ∧
    ∀ record ∈ polledSocket.2.returned polledSocket.1 receiveFirst ⟨PROTO_WIFI, 0, 4096, 1, 0⟩,
      record.1.channel.toNat = 0 ∧ 0 < record.2 ∧ record.2 = polledSocket.2.opened 0 := by
  have hstart : SocketRun OpensDrained trickleBridge ⟨fun _ => 0, []⟩ := .powerUp _ _ _
  have hjoined := hstart.after (opensDrained_of_empty (.request 1 (tlvBytes connectItems)) (by decide +kernel))
  have hopened := hjoined.after (opensDrained_of_empty (.request 2 (tlvBytes socketItems)) (by decide +kernel))
  have hpolled := hopened.after (opensDrained_of_empty .poll (by decide +kernel))
  exact ⟨by decide +kernel, (returned_current_of_opensDrained hpolled receiveFirst_window rfl).2⟩

/-- The socket is closed and opened again, with the record of the poll still queued. -/
def reopenedSocket : Bridge × SocketData :=
  [.request 3 (tlvBytes closeItems), .request 4 (tlvBytes socketItems)].foldl nextData polledSocket

theorem returned_current_fails : ¬∀ s data, SocketRun (fun _ _ => True) s data →
    ∀ requestId body window, (Event.request requestId body).window = some window →
      window.protocol = PROTO_WIFI → ∀ record ∈ data.returned s (.request requestId body) window,
        record.2 = data.opened window.channel := by
  intro h
  have hstart : SocketRun (fun _ _ => True) trickleBridge ⟨fun _ => 0, []⟩ := .powerUp _ _ _
  have hrun : SocketRun (fun _ _ => True) reopenedSocket.1 reopenedSocket.2 :=
    @SocketRun.events polledSocket (@SocketRun.events (trickleBridge, ⟨fun _ => 0, []⟩) hstart _) _
  have hcurrent := h _ _ hrun 5 (tlvBytes receiveItems) _ receiveFirst_window rfl
  have hreturned : (reopenedSocket.2.returned reopenedSocket.1 receiveFirst
      ⟨PROTO_WIFI, 0, 4096, 1, 0⟩).map Prod.snd = [1] := by decide +kernel
  have hopened : reopenedSocket.2.opened 0 = 2 := by decide +kernel
  have hmem : 1 ∈ (reopenedSocket.2.returned reopenedSocket.1 receiveFirst
      ⟨PROTO_WIFI, 0, 4096, 1, 0⟩).map Prod.snd := hreturned ▸ List.mem_singleton_self 1
  obtain ⟨record, hrecord, hlabel⟩ := List.mem_map.mp hmem
  exact absurd ((hlabel.symm.trans (hcurrent record hrecord)).trans hopened) (by decide)

end JLinkMcp.Firmware
