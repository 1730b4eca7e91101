import JLinkMcp.CodecRun
import JLinkMcp.FirmwareResources

namespace JLinkMcp.Firmware

open Codec SharedReceiveQueue

/-- A record as `push` stores it and `read` returns it. -/
def QueueRecord.bytes (record : QueueRecord) : Bytes := record.header ++ record.payload

def queuedBytes (records : List QueueRecord) : Bytes := records.flatMap QueueRecord.bytes

/-- One protocol's records and the count of the records it had no room for. -/
structure Fifo where
  records : List QueueRecord
  overflow : Nat

/-- The longest prefix of the records that takes at most `limit` bytes. -/
def fittingPrefix : Nat → List QueueRecord → List QueueRecord
  | _, [] => []
  | limit, record :: records =>
    if record.bytes.length ≤ limit then
      record :: fittingPrefix (limit - record.bytes.length) records
    else []

/-- All records but the first `count` of the channel. -/
def removeFirst (channel : UInt8) : Nat → List QueueRecord → List QueueRecord
  | 0, records => records
  | _ + 1, [] => []
  | count + 1, record :: records =>
    if record.channel = channel then removeFirst channel count records
    else record :: removeFirst channel (count + 1) records

namespace Fifo

def ofChannel (fifo : Fifo) (channel : UInt8) : List QueueRecord :=
  fifo.records.filter (·.channel = channel)

def push (fifo : Fifo) (record : QueueRecord) : Fifo × Bool :=
  if 11 + record.payload.length ≤ 10922 - (queuedBytes fifo.records).length then
    ({ fifo with records := fifo.records ++ [record] }, true)
  else ({ fifo with overflow := (fifo.overflow + 1) % 2 ^ 32 }, false)

def read (fifo : Fifo) (channel : UInt8) (limit : Nat) (drain : Bool) : Fifo × Bytes :=
  let returned := fittingPrefix limit (fifo.ofChannel channel)
  (if drain then { fifo with records := removeFirst channel returned.length fifo.records } else fifo,
    queuedBytes returned)

def depth (fifo : Fifo) (channel : UInt8) : Nat := (queuedBytes (fifo.ofChannel channel)).length

end Fifo

inductive QueueCall where
  | push (protocol : Nat) (record : QueueRecord)
  | read (protocol : Nat) (channel : UInt8) (limit : Nat) (drain : Bool)
  | depth (protocol : Nat) (channel : UInt8)
  | depthAll (protocol : Nat)
  | overflow (protocol : Nat)

inductive QueueResult where
  | pushed (stored : Bool)
  | output (bytes : Bytes)
  | count (n : Nat)
  deriving DecidableEq, Repr

def SharedReceiveQueue.call (q : SharedReceiveQueue) : QueueCall → SharedReceiveQueue × QueueResult
  | .push protocol record => ((q.push protocol record).1, .pushed (q.push protocol record).2)
  | .read protocol channel limit drain =>
    ((q.read protocol channel limit drain).1, .output (q.read protocol channel limit drain).2)
  | .depth protocol channel => (q, .count (q.depth protocol channel))
  | .depthAll protocol => (q, .count (q.depthAll protocol))
  | .overflow protocol => (q, .count (q.overflow protocol))

/-- The same calls on six independent lists, one for each protocol from UART to GPIO. -/
def callFifos (fifos : Fin kQueueCount → Fifo) : QueueCall → (Fin kQueueCount → Fifo) × QueueResult
  | .push protocol record =>
    match select protocol with
    | none => (fifos, .pushed false)
    | some queue =>
      let out := (fifos queue).push record
      (Function.update fifos queue out.1, .pushed out.2)
  | .read protocol channel limit drain =>
    match select protocol with
    | none => (fifos, .output [])
    | some queue =>
      let out := (fifos queue).read channel limit drain
      (Function.update fifos queue out.1, .output out.2)
  | .depth protocol channel =>
    (fifos, .count ((select protocol).elim 0 fun queue => (fifos queue).depth channel))
  | .depthAll protocol =>
    (fifos, .count ((select protocol).elim 0 fun queue => (queuedBytes (fifos queue).records).length))
  | .overflow protocol =>
    (fifos, .count ((select protocol).elim 0 fun queue => (fifos queue).overflow))

theorem QueueRecord.header_length (record : QueueRecord) : record.header.length = 11 := by
  simp [QueueRecord.header]

theorem QueueRecord.bytes_length (record : QueueRecord) :
    record.bytes.length = 11 + record.payload.length := by
  rw [QueueRecord.bytes, List.length_append, record.header_length]

theorem headerChannel_header (record : QueueRecord) : headerChannel record.header = record.channel := by
  rw [headerChannel, QueueRecord.header, List.headD_cons]

theorem recordSize_header (record : QueueRecord) : recordSize record.header = record.bytes.length := by
  have hl : ((record.header.drop 1).take 2) = leBytes 2 record.payload.length := by
    rw [QueueRecord.header, List.drop_one, List.tail_cons, List.take_left' (leBytes_length _ _)]
  rw [recordSize, hl, leNat_leBytes_of_lt record.short, record.bytes_length]
  rfl

@[simp] theorem queuedBytes_nil : queuedBytes [] = [] := rfl

@[simp] theorem queuedBytes_cons (record : QueueRecord) (records : List QueueRecord) :
    queuedBytes (record :: records) = record.bytes ++ queuedBytes records := rfl

@[simp] theorem queuedBytes_append (xs ys : List QueueRecord) :
    queuedBytes (xs ++ ys) = queuedBytes xs ++ queuedBytes ys := by
  simp [queuedBytes]

section fitting

theorem fittingPrefix_begins (limit : Nat) (records : List QueueRecord) :
    fittingPrefix limit records <+: records := by
  induction records generalizing limit with
  | nil => exact List.prefix_rfl
  | cons record records ih =>
    unfold fittingPrefix
    split
    next => exact List.cons_prefix_cons.mpr ⟨rfl, ih _⟩
    next => exact List.nil_prefix

end fitting

theorem removeFirst_sublist (channel : UInt8) (count : Nat) (records : List QueueRecord) :
    (removeFirst channel count records).Sublist records := by
  induction records generalizing count with
  | nil => cases count <;> simp [removeFirst]
  | cons record records ih =>
    cases count with
    | zero => simp [removeFirst]
    | succ count =>
      unfold removeFirst
      split
      next => exact (ih count).cons record
      next => exact (ih (count + 1)).cons_cons record

end JLinkMcp.Firmware
