import JLinkMcp.FirmwarePins
import JLinkMcp.FirmwareSteps

namespace JLinkMcp.Firmware

open Codec StateProgram Relation

/-- The states that a row of steps can lead to, on any hardware, with all records that were ever queued
for the protocol; every step is one that the state and the records before it allow. -/
inductive TimedRun (protocol : Nat) (allowed : Bridge → List QueueRecord → Step → Prop) :
    Bridge → List QueueRecord → Prop
  | powerUp (board : Board) (identity : BuildIdentity) (limits : UsbLimits) :
      TimedRun protocol allowed ⟨.powerUp board identity limits, []⟩ []
  | step {s : Bridge} {queued : List QueueRecord} {step : Step} (run : TimedRun protocol allowed s queued)
      (ok : allowed s queued step) :
      TimedRun protocol allowed (s.step step) (queued ++ s.newRecords step protocol)

/-- How often `micros()` has wrapped. -/
def Bridge.wraps (s : Bridge) : Nat := s.machine.board.now / 2 ^ 32

/-- `micros()` does not wrap during the step, unless there are no such records and the step queues none. -/
def WrapsBefore (protocol : Nat) (records : List QueueRecord) (s : Bridge) (step : Step) : Prop :=
  (s.step step).wraps = s.wraps ∨ (records = [] ∧ ¬step.queues protocol)

/-- The stamps of the records do not go back. -/
def StampsOrdered (records : List QueueRecord) : Prop :=
  records.Pairwise fun record next => record.timestampUs ≤ next.timestampUs

/-- Moreover, none of them is ahead of `micros()`. -/
def StampedBy (now : Nat) (records : List QueueRecord) : Prop :=
  StampsOrdered records ∧ ∀ record ∈ records, record.timestampUs.toNat ≤ now % 2 ^ 32

section records

variable {protocol now now' : Nat} {records : List QueueRecord}

theorem stampedBy_nil : StampedBy now [] := ⟨.nil, nofun⟩

theorem StampedBy.sublist {fewer : List QueueRecord} (h : StampedBy now records)
    (sub : fewer.Sublist records) : StampedBy now fewer :=
  ⟨h.1.sublist sub, fun record hrecord => h.2 record (sub.subset hrecord)⟩

/-- Time may pass as long as `micros()` does not wrap. -/
theorem StampedBy.later (h : StampedBy now records) (le : now ≤ now')
    (same : now' / 2 ^ 32 = now / 2 ^ 32) : StampedBy now' records := by
  refine ⟨h.1, fun record hrecord => ?_⟩
  have hpast := h.2 record hrecord
  omega

theorem stamped_toNat {record : QueueRecord} (h : Stamped now record) :
    record.timestampUs.toNat = now % 2 ^ 32 := by
  have hlt : now % 2 ^ 32 < 2 ^ 32 := Nat.mod_lt _ (by decide)
  rw [h, UInt64.toNat_ofNat']
  omega

/-- A new record comes last. -/
theorem StampedBy.append {record : QueueRecord} (h : StampedBy now records)
    (stamped : Stamped now record) : StampedBy now (records ++ [record]) := by
  have htime := stamped_toNat stamped
  refine ⟨List.pairwise_append.mpr ⟨h.1, List.pairwise_singleton _ _, ?_⟩, ?_⟩
  · intro old hold next hnext
    obtain rfl := List.mem_singleton.mp hnext
    have hpast := h.2 old hold
    rw [UInt64.le_iff_toNat_le, htime]
    exact hpast
  · intro old hold
    rcases List.mem_append.mp hold with hold | hnew
    · exact h.2 old hold
    · obtain rfl := List.mem_singleton.mp hnew
      exact Nat.le_of_eq htime

end records

section paths

variable {protocol : Nat} {ok : Nat → QueueCall → Prop} {a b : Nat × SharedReceiveQueue}

theorem queueStep_le (h : QueueStep ok a b) : a.1 ≤ b.1 := by
  cases h with
  | later le => exact le
  | called => exact Nat.le_refl _

theorem path_le (path : ReflTransGen (QueueStep ok) a b) : a.1 ≤ b.1 := by
  induction path with
  | refl => exact Nat.le_refl _
  | tail _ hstep ih => exact Nat.le_trans ih (queueStep_le hstep)

/-- As long as `micros()` does not wrap, what is appended comes behind all that was stamped before. -/
theorem StampedBy.path {records : List QueueRecord} (protocol : Nat) (path : ReflTransGen (QueueStep ok) a b)
    (pushes : ∀ now call, ok now call → ∃ pushed record, call = .push pushed record ∧ Stamped now record)
    (sound : a.2.Sound) (same : b.1 / 2 ^ 32 = a.1 / 2 ^ 32) (h : StampedBy a.1 records) :
    ∃ new, b.2.records protocol = a.2.records protocol ++ new ∧ StampedBy b.1 (records ++ new) := by
  have hpushes : ∀ now call, ok now call → ∃ pushed record, call = .push pushed record := by
    intro now call hcall
    obtain ⟨pushed, record, heq, -⟩ := pushes now call hcall
    exact ⟨pushed, record, heq⟩
  induction path with
  | refl => exact ⟨[], (List.append_nil _).symm, by rwa [List.append_nil]⟩
  | @tail b c path hstep ih =>
    -- the clock in between lies in the same period, since it never goes back
    have hle := queueStep_le hstep
    have hmid := Nat.div_le_div_right (c := 2 ^ 32) (path_le path)
    have hmid' := Nat.div_le_div_right (c := 2 ^ 32) hle
    obtain ⟨new, hnew, hstamped⟩ := ih (by omega)
    have hsound := (records_path protocol path hpushes sound).1
    cases hstep with
    | later le => exact ⟨new, hnew, hstamped.later le (by omega)⟩
    | @called now queue call allowed =>
      obtain ⟨pushed, record, rfl, stamped⟩ := pushes now call allowed
      rcases @records_push protocol queue hsound pushed record with hkept | ⟨rfl, happended⟩
      · exact ⟨new, hkept.trans hnew, hstamped⟩
      · refine ⟨new ++ [record], ?_, ?_⟩
        · rw [← List.append_assoc, ← hnew]
          exact happended
        · rw [← List.append_assoc]
          exact hstamped.append stamped

end paths

section steps

variable {protocol : Nat} {s : Bridge}

/-- What a step queues comes behind all that was stamped before, as long as `micros()` does not wrap. -/
theorem StampedBy.step {step : Step} {records : List QueueRecord} (h : StampedBy s.machine.board.now records)
    (sound : s.machine.receiveQueue.Sound) (same : (s.step step).wraps = s.wraps) :
    StampedBy (s.step step).machine.board.now (records ++ s.newRecords step protocol) := by
  cases step with
  | wait us =>
    rw [Bridge.newRecords, List.append_nil]
    exact h.later (Nat.le_add_right _ us) same
  | event event =>
    have hnow : (s.after event).machine.board = (s.fed event).board := (after_fed event).1
    have hsame : (s.fed event).board.now / 2 ^ 32 = s.machine.board.now / 2 ^ 32 := by
      rw [← hnow]
      exact same
    obtain ⟨new, hnew, hstamped⟩ :=
      h.path protocol (feeds_fed event) pushCall_pushes sound hsame
    have hrecords : (s.fed event).receiveQueue.records protocol =
        s.records protocol ++ s.newRecords (.event event) protocol := records_fed sound
    obtain rfl := List.append_cancel_left (hrecords.symm.trans hnew)
    change StampedBy (s.after event).machine.board.now _
    rw [hnow]
    exact hstamped

end steps

section runs

variable {protocol : Nat} {allowed : Bridge → List QueueRecord → Step → Prop} {s : Bridge}
    {queued : List QueueRecord}

/-- In every run the queue holds some of the records that were queued, in the same order. -/
theorem records_of_run (run : TimedRun protocol allowed s queued) :
    s.machine.receiveQueue.Sound ∧ (s.records protocol).Sublist queued := by
  induction run with
  | powerUp board identity limits =>
    have hempty : SharedReceiveQueue.init.records protocol = [] := records_init
    exact ⟨sound_init, hempty ▸ List.Sublist.refl _⟩
  | @step s queued step _ _ ih =>
    obtain ⟨hsound, hsub⟩ := ih
    exact ⟨sound_step hsound step, (records_step hsound step).trans (hsub.append_right _)⟩

/-- Of all records that were ever queued, where `micros()` wraps only before the first of them. -/
theorem stampedBy_queued
    (run : TimedRun protocol (fun s queued => WrapsBefore protocol queued s) s queued) :
    StampedBy s.machine.board.now queued := by
  induction run with
  | powerUp board identity limits => exact stampedBy_nil
  | @step s queued step run ok ih =>
    have hsound := (records_of_run run).1
    rcases ok with same | ⟨rfl, hnone⟩
    · exact ih.step hsound same
    · rw [newRecords_of_not_queues hsound hnone]
      exact stampedBy_nil

/-- Of the records in the queue, where `micros()` wraps only while it is empty. -/
theorem stampedBy_records
    (run : TimedRun protocol (fun s _ => WrapsBefore protocol (s.records protocol) s) s queued) :
    StampedBy s.machine.board.now (s.records protocol) := by
  induction run with
  | powerUp board identity limits =>
    have hempty : SharedReceiveQueue.init.records protocol = [] := records_init
    rw [Bridge.records, Machine.powerUp, hempty]
    exact stampedBy_nil
  | @step s queued step run ok ih =>
    have hsound := (records_of_run run).1
    have hsub : ((s.step step).records protocol).Sublist
        (s.records protocol ++ s.newRecords step protocol) := records_step hsound step
    rcases ok with same | ⟨hempty, hnone⟩
    · exact (ih.step hsound same).sublist hsub
    · rw [newRecords_of_not_queues hsound hnone, hempty] at hsub
      rw [List.sublist_nil.mp hsub]
      exact stampedBy_nil

/-- The stamps of a protocol's records are in order in every run where `micros()` wraps only before the
first of them. Those of the records that are queued together are in order where it wraps only while the
queue is empty. -/
theorem stampsOrdered_of_wrapsBefore :
    (TimedRun protocol (fun s queued => WrapsBefore protocol queued s) s queued →
      StampsOrdered queued ∧ (s.records protocol).Sublist queued) ∧
    (TimedRun protocol (fun s _ => WrapsBefore protocol (s.records protocol) s) s queued →
      StampsOrdered (s.records protocol)) :=
  ⟨fun run => ⟨(stampedBy_queued run).1, (records_of_run run).2⟩, fun run => (stampedBy_records run).1⟩

/-- Where everything is allowed, every row of steps is a run. -/
theorem TimedRun.steps (run : TimedRun protocol (fun _ _ _ => True) s queued) (steps : List Step) :
    ∃ queued', TimedRun protocol (fun _ _ _ => True) (steps.foldl Bridge.step s) queued' := by
  induction steps generalizing s queued with
  | nil => exact ⟨queued, run⟩
  | cons step steps ih => exact ih (run.step trivial)

end runs

/-- `can_configure` of the first controller, which has three messages at every poll. -/
def configureStep : Step := .event (.request 1 (tlvBytes (canItems 0)))

def pollStep : Step := .event .poll

theorem stampsOrdered_of_wrapsBefore_can :
    StampsOrdered (((obligingBridge.step configureStep).step pollStep).records PROTO_CAN) := by
  have hstart : TimedRun PROTO_CAN (fun s _ => WrapsBefore PROTO_CAN (s.records PROTO_CAN) s)
      obligingBridge [] := .powerUp _ _ _
  have hconfigured : (obligingBridge.step configureStep).wraps = obligingBridge.wraps := by decide +kernel
  have hpolled : ((obligingBridge.step configureStep).step pollStep).wraps =
      (obligingBridge.step configureStep).wraps := by decide +kernel
  exact stampsOrdered_of_wrapsBefore.2 ((hstart.step (.inl hconfigured)).step (.inl hpolled))

/-- The messages of a poll just before `micros()` wraps are still queued when those of the next poll
come in. -/
def wrappedRun : Bridge :=
  [configureStep, .wait (2 ^ 32 - 1), pollStep, .wait 1, pollStep].foldl Bridge.step obligingBridge

theorem wrappedRun_stamps :
    (wrappedRun.records PROTO_CAN).map (·.timestampUs.toNat) =
      [2 ^ 32 - 1, 2 ^ 32 - 1, 2 ^ 32 - 1, 0, 0, 0] := by
  decide +kernel

theorem stamps_go_back : ¬∀ protocol s queued, TimedRun protocol (fun _ _ _ => True) s queued →
    StampsOrdered (s.records protocol) := by
  intro h
  have hstart : TimedRun PROTO_CAN (fun _ _ _ => True) obligingBridge [] := .powerUp _ _ _
  obtain ⟨queued, hrun⟩ := hstart.steps [configureStep, .wait (2 ^ 32 - 1), pollStep, .wait 1, pollStep]
  have hstamps : ((wrappedRun.records PROTO_CAN).map (·.timestampUs.toNat)).Pairwise (· ≤ ·) :=
    List.pairwise_map.mpr (h PROTO_CAN wrappedRun queued hrun)
  rw [wrappedRun_stamps] at hstamps
  exact absurd hstamps (by decide)

end JLinkMcp.Firmware
