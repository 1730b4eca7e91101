import JLinkMcp.FirmwareDelivery
import JLinkMcp.FirmwareReadBack

namespace JLinkMcp.Firmware

open Codec Host

/-- A request of the host, and the calls of `loop()` to which its bytes are available. -/
structure Exchange where
  requestId : Nat
  body : Bytes
  calls : List Bytes

/-- Nothing is written, and the bridge is one of a run. -/
structure Idles (s s' : Bridge) : Prop where
  reached : Reaches anyEvent s'
  serial : s'.serial = s.serial

section loops

variable {s : Bridge} {events : List ReceiverEvent}

theorem Idles.trans {s' s'' : Bridge} (h : Idles s s') (h' : Idles s' s'') : Idles s s'' :=
  ⟨h'.reached, h'.serial.trans h.serial⟩

variable {calls : List Bytes} {rx : Receiver}

end loops

section runs

variable {sketch : Sketch} {exchange : Exchange}

end runs

end JLinkMcp.Firmware
