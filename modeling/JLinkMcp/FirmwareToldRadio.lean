import JLinkMcp.FirmwareTold

namespace JLinkMcp.Firmware

open Codec Host StateProgram

section usb

variable {depth requestId : Nat} {listing : Prop} {reader : TlvReader} {s : Bridge}

section transfer

variable {usb : UsbTransfer} (checked : usb.Checked)

include checked

end transfer

end usb

section ble

variable {depth requestId : Nat} {listing : Prop} {reader : TlvReader} {s : Bridge}

end ble

end JLinkMcp.Firmware
