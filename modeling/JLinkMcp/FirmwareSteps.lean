import JLinkMcp.FirmwareRequestFeeds

namespace JLinkMcp.Firmware

open Codec StateProgram Relation

/-- An event, or time that passes between two of them. -/
inductive Step where
  | event (event : Event)
  | wait (us : Nat)

def Bridge.wait (s : Bridge) (us : Nat) : Bridge :=
  { s with
    machine := { s.machine with board := { s.machine.board with now := s.machine.board.now + us } } }

def Bridge.step (s : Bridge) : Step → Bridge
  | .event event => s.after event
  | .wait us => s.wait us

def Step.queues : Step → Nat → Prop
  | .event e, protocol => e.queues protocol
  | .wait _, _ => False

/-- The records of the protocol that are queued, the oldest first. -/
def Bridge.records (s : Bridge) (protocol : Nat) : List QueueRecord :=
  s.machine.receiveQueue.records protocol

/-- The records that the step queues for the protocol, whether a receive takes them out again or not. -/
def Bridge.newRecords (s : Bridge) (step : Step) (protocol : Nat) : List QueueRecord :=
  match step with
  | .event event => ((s.fed event).receiveQueue.records protocol).drop (s.records protocol).length
  | .wait _ => []

section paths

variable {protocol : Nat} {ok : Nat → QueueCall → Prop} {a b : Nat × SharedReceiveQueue}

/-- What a push does to the records of a protocol. -/
theorem records_push {queue : SharedReceiveQueue} (sound : queue.Sound) {pushed : Nat} {record : QueueRecord} :
    (queue.call (.push pushed record)).1.records protocol = queue.records protocol ∨
      pushed = protocol ∧
        (queue.call (.push pushed record)).1.records protocol = queue.records protocol ++ [record] := by
  have hafter := recordsAfter_call sound protocol (.push pushed record)
  generalize (queue.call (.push pushed record)).1.records protocol = records' at hafter ⊢
  generalize queue.records protocol = records at hafter ⊢
  cases hafter with
  | kept => exact .inl rfl
  | pushed => exact .inr ⟨rfl, rfl⟩

/-- Pushes only append, and only for the protocols they are made for. -/
theorem records_path (protocol : Nat) (path : ReflTransGen (QueueStep ok) a b)
    (pushes : ∀ now call, ok now call → ∃ pushed record, call = .push pushed record) (sound : a.2.Sound) :
    b.2.Sound ∧ ∃ new, b.2.records protocol = a.2.records protocol ++ new ∧
      ∀ record ∈ new, ∃ now, ok now (.push protocol record) := by
  induction path with
  | refl => exact ⟨sound, [], (List.append_nil _).symm, nofun⟩
  | @tail b c _ hstep ih =>
    obtain ⟨hsound, new, hnew, hok⟩ := ih
    cases hstep with
    | later => exact ⟨hsound, new, hnew, hok⟩
    | @called now queue call allowed =>
      obtain ⟨pushed, record, rfl⟩ := pushes now call allowed
      refine ⟨hsound.call _, ?_⟩
      rcases @records_push protocol queue hsound pushed record with hkept | ⟨rfl, happended⟩
      · exact ⟨new, hkept.trans hnew, hok⟩
      · refine ⟨new ++ [record], ?_, fun other hother => ?_⟩
        · rw [← List.append_assoc, ← hnew]
          exact happended
        · rcases List.mem_append.mp hother with hold | hlast
          · exact hok other hold
          · obtain rfl := List.mem_singleton.mp hlast
            exact ⟨now, allowed⟩

end paths

section steps

variable {protocol : Nat} {s : Bridge} {event : Event}

theorem pushCall_pushes (now : Nat) (call : QueueCall) (h : PushCall event now call) :
    ∃ pushed record, call = .push pushed record ∧ Stamped now record := by
  obtain ⟨stamped, -⟩ := h
  exact ⟨_, _, rfl, stamped⟩

theorem pushCall_push (now : Nat) (call : QueueCall) (h : PushCall event now call) :
    ∃ pushed record, call = .push pushed record := by
  obtain ⟨pushed, record, heq, -⟩ := pushCall_pushes now call h
  exact ⟨pushed, record, heq⟩

theorem sound_fed (sound : s.machine.receiveQueue.Sound) : (s.fed event).receiveQueue.Sound :=
  (records_path 0 (feeds_fed event) pushCall_push sound).1

/-- An event queues its records behind those that are there. -/
theorem records_fed (sound : s.machine.receiveQueue.Sound) :
    (s.fed event).receiveQueue.records protocol =
      s.records protocol ++ s.newRecords (.event event) protocol := by
  obtain ⟨-, new, hnew, -⟩ := records_path protocol (feeds_fed event) pushCall_push sound
  rw [Bridge.newRecords]
  change (s.fed event).receiveQueue.records protocol = s.records protocol ++ new at hnew
  rw [hnew, List.drop_left' rfl]

theorem sound_step (sound : s.machine.receiveQueue.Sound) (step : Step) :
    (s.step step).machine.receiveQueue.Sound := by
  cases step with
  | wait us => exact sound
  | event event =>
    obtain ⟨-, -, hqueue | ⟨_, _, _, _, hqueue⟩⟩ := @after_fed s event
    · exact hqueue ▸ sound_fed sound
    · exact hqueue ▸ (sound_fed sound).call _

/-- Nothing stays in the queue but what was there and what the step queues, in that order. -/
theorem records_step (sound : s.machine.receiveQueue.Sound) (step : Step) :
    ((s.step step).records protocol).Sublist (s.records protocol ++ s.newRecords step protocol) := by
  cases step with
  | wait us => exact List.sublist_append_left _ _
  | event event =>
    rw [← records_fed sound]
    change ((s.after event).machine.receiveQueue.records protocol).Sublist _
    obtain ⟨-, -, hqueue | ⟨read, channel, limit, drain, hqueue⟩⟩ := @after_fed s event
    · exact hqueue ▸ List.Sublist.refl _
    · rw [hqueue]
      refine (records_read (sound_fed sound) read channel limit drain).symm ▸ ?_
      split
      next => exact removeFirst_sublist _ _ _
      next => exact List.Sublist.refl _

theorem newRecords_of_not_queues {step : Step} (sound : s.machine.receiveQueue.Sound)
    (h : ¬step.queues protocol) : s.newRecords step protocol = [] := by
  cases step with
  | wait us => rfl
  | event event =>
    obtain ⟨-, new, hnew, hpushed⟩ :=
      records_path protocol (feeds_fed event) pushCall_push sound
    have hlast : new = [] := by
      refine List.eq_nil_iff_forall_not_mem.mpr fun record hrecord => h ?_
      obtain ⟨now, -, queues⟩ := hpushed record hrecord
      exact queues
    rw [Bridge.newRecords]
    change (s.fed event).receiveQueue.records protocol = s.records protocol ++ new at hnew
    rw [hnew, List.drop_left' rfl, hlast]

end steps

end JLinkMcp.Firmware
