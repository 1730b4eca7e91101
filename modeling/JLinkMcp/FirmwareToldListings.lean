import JLinkMcp.FirmwareListings
import JLinkMcp.FirmwareSteps

namespace JLinkMcp.Firmware

open Codec Host StateProgram Relation SharedReceiveQueue

section listings

variable {depth requestId : Nat} {listing : Prop} {reader : TlvReader} {s : Bridge}

end listings

/-- The rings hold records, and the counts of the lost ones fit their 32 bits. -/
def SharedReceiveQueue.Counted (q : SharedReceiveQueue) : Prop :=
  ∃ fifos, Represents q fifos ∧ ∀ queue, (fifos queue).overflow < 2 ^ 32

section queues

variable {q : SharedReceiveQueue}

theorem overflow_callFifos {fifos : Fin kQueueCount → Fifo} (small : ∀ queue, (fifos queue).overflow < 2 ^ 32)
    (call : QueueCall) (queue : Fin kQueueCount) : ((callFifos fifos call).1 queue).overflow < 2 ^ 32 := by
  cases call with
  | push protocol record =>
    cases hselect : select protocol with
    | none => simpa only [callFifos, hselect] using small queue
    | some changed =>
      simp only [callFifos, hselect]
      by_cases hqueue : queue = changed
      · subst hqueue
        rw [Function.update_self, Fifo.push]
        split
        · exact small queue
        · exact Nat.mod_lt _ (by decide)
      · rw [Function.update_of_ne hqueue]
        exact small queue
  | read protocol channel limit drain =>
    cases hselect : select protocol with
    | none => simpa only [callFifos, hselect] using small queue
    | some changed =>
      simp only [callFifos, hselect]
      by_cases hqueue : queue = changed
      · subst hqueue
        rw [Function.update_self, Fifo.read]
        cases drain <;> exact small queue
      · rw [Function.update_of_ne hqueue]
        exact small queue
  | depth | depthAll | overflow => exact small queue

theorem SharedReceiveQueue.Counted.call (counted : q.Counted) (call : QueueCall) : (q.call call).1.Counted := by
  obtain ⟨fifos, h, small⟩ := counted
  exact ⟨_, (call_refines h call).1, overflow_callFifos small call⟩

end queues

section receive

variable {depth requestId : Nat} {listing : Prop} {reader : TlvReader} {s : Bridge}

end receive

/-- What the build says about itself needs no escape, and leaves room for the rest. -/
structure BuildIdentity.Plain (identity : BuildIdentity) : Prop where
  firmwareVersion : Firmware.Plain identity.firmwareVersion
  buildId : Firmware.Plain identity.buildId
  sourceSha256 : Firmware.Plain identity.sourceSha256
  wireVersion : identity.wireVersion < 10 ^ 10
  short : identity.firmwareVersion.length + identity.buildId.length + identity.sourceSha256.length ≤ 1000

section status

variable {depth requestId : Nat} {listing : Prop} {s : Bridge}

end status

end JLinkMcp.Firmware
