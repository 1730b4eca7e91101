import JLinkMcp.FirmwareDispatch

namespace JLinkMcp.Firmware

/-- A read of a handler: a number by `getU8`, `getU16` or `getU32`, with the width and what the
variable holds before, or the bytes of a field. -/
inductive FieldRead where
  | number (field : FieldId) (width initial : Nat) (required : Bool)
  | bytes (field : FieldId) (required : Bool)

namespace FieldRead

def u8 (field : FieldId) : FieldRead := number field 1 0 true
def u16 (field : FieldId) : FieldRead := number field 2 0 true
def u32 (field : FieldId) : FieldRead := number field 4 0 true

/-- Both readers give the same. -/
def Agrees (reader other : TlvReader) : FieldRead → Prop
  | number field width initial required =>
    other.getNumber width field.toNat initial required =
      reader.getNumber width field.toNat initial required
  | bytes field required => other.bytes field.toNat required = reader.bytes field.toNat required

end FieldRead

open FieldRead

/-- What the handler of the operation reads. A control transfer reads the setup packet too. -/
def handlerReads (operation : Operation) (reader : TlvReader) : List FieldRead :=
  match operation with
  | .getStatus | .usbEnumerate | .usbReset | .usbRelease | .wifiDisconnect | .bleDisconnect => []
  | .receive =>
    [u8 .protocol, u8 .channel, number .limit 2 4096 true, number .drain 1 1 true, u32 .timeoutMs]
  | .uartConfigure => [u8 .uartPort, u32 .baudrate, u8 .dataBits, u8 .parity, u8 .stopBits]
  | .canConfigure => [u8 .bus, u32 .canBitrate]
  | .usbSelect => [u16 .vid, u16 .pid, number .usbInterface 1 0 false, bytes .serialNumber false]
  | .wifiConnect => [bytes .ssid true, bytes .password true]
  | .wifiSocketOpen =>
    [u8 .socketProtocol, u16 .networkPort, number .localPort 2 0 false, bytes .host true]
  | .wifiSocketClose => [u8 .socketId]
  | .bleScan => [number .scanDurationMs 4 3000 true, bytes .serviceUuid false]
  | .bleConnect => [bytes .bleAddress true]
  | .blePair => [bytes .passkey false]
  | .bleDiscover => [bytes .serviceUuid false]
  | .bleSubscribe =>
    [bytes .serviceUuid true, bytes .characteristicUuid true, number .enabled 1 1 true]
  | .gpioConfigure => [u16 .pin, u8 .gpioMode, u8 .pull, number .initialValue 1 0 false]
  | .gpioWatch => [u16 .pin, u8 .edge]
  | .spiExchange =>
    [u8 .bus, u16 .chipSelect, u32 .clockHz, u8 .mode, u8 .bitOrder, number .fillByte 1 0xFF true,
      u32 .readLength, bytes .data false]
  | .i2cExchange =>
    [u8 .bus, u8 .i2cAddress, u32 .clockHz, u32 .readLength, number .repeatedStart 1 1 true,
      bytes .data false]
  | .uartWrite => [u8 .uartPort, bytes .data true]
  | .canSend => [u8 .bus, u32 .canId, u8 .canExtended, bytes .data true]
  | .usbTransfer =>
    [u8 .transferType, u8 .endpoint, u32 .readLength, bytes .data false] ++
      if reader.u8 .transferType = some 0 then
        [u8 .requestType, u8 .requestCode, u16 .value, u16 .index]
      else []
  | .wifiSend => [u8 .socketId, bytes .data true]
  | .bleRead => [bytes .serviceUuid true, bytes .characteristicUuid true]
  | .bleWrite =>
    [bytes .serviceUuid true, bytes .characteristicUuid true, u8 .writeMode, bytes .data true]
  | .gpioRead => [u16 .pin]
  | .gpioWrite => [u16 .pin, u8 .gpioValue]
  | .gpioPulse => [u16 .pin, u8 .gpioValue, u32 .durationUs]

section agree

variable {reader other : TlvReader}

theorem u8_agrees {field : FieldId} (h : (u8 field).Agrees reader other) :
    other.u8 field = reader.u8 field := h

theorem u16_agrees {field : FieldId} (h : (u16 field).Agrees reader other) :
    other.u16 field = reader.u16 field := h

theorem u32_agrees {field : FieldId} (h : (u32 field).Agrees reader other) :
    other.u32 field = reader.u32 field := h

theorem getU8_agrees {field : FieldId} {initial : Nat} {required : Bool}
    (h : (number field 1 initial required).Agrees reader other) :
    other.getU8 field.toNat initial required = reader.getU8 field.toNat initial required := h

theorem getU16_agrees {field : FieldId} {initial : Nat} {required : Bool}
    (h : (number field 2 initial required).Agrees reader other) :
    other.getU16 field.toNat initial required = reader.getU16 field.toNat initial required := h

theorem getU32_agrees {field : FieldId} {initial : Nat} {required : Bool}
    (h : (number field 4 initial required).Agrees reader other) :
    other.getU32 field.toNat initial required = reader.getU32 field.toNat initial required := h

theorem copyString_agrees {field : FieldId} {capacity : Nat} {required : Bool}
    (h : (bytes field required).Agrees reader other) :
    copyString other field capacity required = copyString reader field capacity required := by
  rw [copyString, copyString, show other.bytes _ _ = reader.bytes _ _ from h]

theorem optionalBytes_agrees {field : FieldId} (h : (bytes field false).Agrees reader other) :
    other.optionalBytes field = reader.optionalBytes field :=
  congrArg (Option.getD · none) h

theorem requiredBytes_agrees {field : FieldId} (h : (bytes field true).Agrees reader other) :
    other.requiredBytes field = reader.requiredBytes field :=
  congrArg (Option.getD · none) h

theorem copiedPair_agrees {requestId : Nat} {write : Bool}
    (hservice : (bytes .serviceUuid true).Agrees reader other)
    (hcharacteristic : (bytes .characteristicUuid true).Agrees reader other)
    (houtput : write = true → bleOutput other = bleOutput reader) :
    bleReadWrite write other requestId = bleReadWrite write reader requestId := by
  have hselector : bleSelector other = bleSelector reader := by
    simp only [bleSelector, copyString_agrees hservice, copyString_agrees hcharacteristic]
  cases write with
  | false => simp only [bleReadWrite, hselector, Bool.false_eq_true, if_false]
  | true => simp only [bleReadWrite, hselector, houtput rfl]

/-- The setup packet is read for a control transfer only. -/
theorem usbTransfer_agrees {requestId : Nat}
    (agree : ∀ read ∈ handlerReads .usbTransfer reader, read.Agrees reader other) :
    usbTransfer other requestId = usbTransfer reader requestId := by
  simp only [handlerReads, List.forall_mem_append, List.forall_mem_cons] at agree
  obtain ⟨⟨htype, hendpoint, hread, hdata, -⟩, hsetup⟩ := agree
  have hfields : ∀ selected, usbTransferFields selected other = usbTransferFields selected reader := by
    intro selected
    simp only [usbTransferFields, u8_agrees htype, u8_agrees hendpoint, u32_agrees hread,
      optionalBytes_agrees hdata]
  have hcontrol : ∀ selected usb, usbTransferFields selected reader = some usb → usb.type = 0 →
      usbSetup usb.endpoint other = usbSetup usb.endpoint reader := by
    intro selected usb husb hzero
    have htype : reader.u8 .transferType = some 0 := by
      simp only [usbTransferFields, Option.bind_eq_bind, Option.bind_eq_some_iff, guard_eq_some, pure,
        Option.some.injEq] at husb
      obtain ⟨-, -, type, htype, -, -, endpoint, -, readLength, -, -, -, rfl⟩ := husb
      exact htype.trans (congrArg some hzero)
    rw [if_pos htype] at hsetup
    simp only [List.forall_mem_cons] at hsetup
    obtain ⟨hrequestType, hrequestCode, hvalue, hindex, -⟩ := hsetup
    simp only [usbSetup, u8_agrees hrequestType, u8_agrees hrequestCode, u16_agrees hvalue,
      u16_agrees hindex]
  unfold usbTransfer
  refine congrArg (getMachine >>= ·) (funext fun machine => ?_)
  rw [hfields]
  split
  next device usb hdevice husb =>
    split
    next hzero => rw [hcontrol _ usb husb hzero]
    next => rfl
  next => rfl

/-- A handler sees nothing of a body but what it reads. -/
theorem runOperation_agrees {operation : Operation} (requestId : Nat)
    (agree : ∀ read ∈ handlerReads operation reader, read.Agrees reader other) :
    runOperation operation other requestId = runOperation operation reader requestId := by
  cases operation with
  | getStatus | usbEnumerate | usbReset | usbRelease | wifiDisconnect | bleDisconnect => rfl
  | usbTransfer => exact usbTransfer_agrees agree
  | bleRead =>
    simp only [handlerReads, List.forall_mem_cons] at agree
    obtain ⟨hservice, hcharacteristic, -⟩ := agree
    exact copiedPair_agrees hservice hcharacteristic (by simp)
  | bleWrite =>
    simp only [handlerReads, List.forall_mem_cons] at agree
    obtain ⟨hservice, hcharacteristic, hmode, hdata, -⟩ := agree
    refine copiedPair_agrees hservice hcharacteristic fun _ => ?_
    simp only [bleOutput, u8_agrees hmode, requiredBytes_agrees hdata]
  | receive =>
    simp only [handlerReads, List.forall_mem_cons] at agree
    obtain ⟨hprotocol, hchannel, hlimit, hdrain, htimeout, -⟩ := agree
    simp only [runOperation, receiveOperation, receiveWindow, u8_agrees hprotocol, u8_agrees hchannel,
      getU16_agrees hlimit, getU8_agrees hdrain, u32_agrees htimeout]
  | uartConfigure =>
    simp only [handlerReads, List.forall_mem_cons] at agree
    obtain ⟨hport, hbaudrate, hdata, hparity, hstop, -⟩ := agree
    simp only [runOperation, configureUart, uartConfiguration, u8_agrees hport, u32_agrees hbaudrate,
      u8_agrees hdata, u8_agrees hparity, u8_agrees hstop]
  | canConfigure =>
    simp only [handlerReads, List.forall_mem_cons] at agree
    obtain ⟨hbus, hbitrate, -⟩ := agree
    simp only [runOperation, configureCan, canConfiguration, u8_agrees hbus, u32_agrees hbitrate]
  | usbSelect =>
    simp only [handlerReads, List.forall_mem_cons] at agree
    obtain ⟨hvid, hpid, hinterface, hserial, -⟩ := agree
    simp only [runOperation, usbSelect, usbSelector, u16_agrees hvid, u16_agrees hpid,
      getU8_agrees hinterface, optionalBytes_agrees hserial]
  | wifiConnect =>
    simp only [handlerReads, List.forall_mem_cons] at agree
    obtain ⟨hssid, hpassword, -⟩ := agree
    simp only [runOperation, wifiConnect, wifiCredentials, copyString_agrees hssid,
      copyString_agrees hpassword]
  | wifiSocketOpen =>
    simp only [handlerReads, List.forall_mem_cons] at agree
    obtain ⟨hprotocol, hport, hlocal, hhost, -⟩ := agree
    simp only [runOperation, wifiSocketOpen, wifiSocket, u8_agrees hprotocol, u16_agrees hport,
      getU16_agrees hlocal, copyString_agrees hhost]
  | wifiSocketClose =>
    simp only [handlerReads, List.forall_mem_cons] at agree
    obtain ⟨hsocket, -⟩ := agree
    simp only [runOperation, wifiSocketClose, wifiSocketId, u8_agrees hsocket]
  | bleScan =>
    simp only [handlerReads, List.forall_mem_cons] at agree
    obtain ⟨hduration, hservice, -⟩ := agree
    simp only [runOperation, bleScan, bleScanFields, getU32_agrees hduration, copyString_agrees hservice]
  | bleConnect =>
    simp only [handlerReads, List.forall_mem_cons] at agree
    obtain ⟨haddress, -⟩ := agree
    simp only [runOperation, bleConnect, copyString_agrees haddress]
  | blePair =>
    simp only [handlerReads, List.forall_mem_cons] at agree
    obtain ⟨hpasskey, -⟩ := agree
    rw [FieldRead.Agrees] at hpasskey
    simp only [runOperation, blePair, hpasskey]
  | bleDiscover =>
    simp only [handlerReads, List.forall_mem_cons] at agree
    obtain ⟨hservice, -⟩ := agree
    simp only [runOperation, bleDiscover, copyString_agrees hservice]
  | bleSubscribe =>
    simp only [handlerReads, List.forall_mem_cons] at agree
    obtain ⟨hservice, hcharacteristic, henabled, -⟩ := agree
    simp only [runOperation, bleSubscribe, bleSelector, bleEnabled, copyString_agrees hservice,
      copyString_agrees hcharacteristic, getU8_agrees henabled]
  | gpioConfigure =>
    simp only [handlerReads, List.forall_mem_cons] at agree
    obtain ⟨hpin, hmode, hpull, hinitial, -⟩ := agree
    simp only [runOperation, gpioConfigure, gpioConfiguration, u16_agrees hpin, u8_agrees hmode,
      u8_agrees hpull, getU8_agrees hinitial]
  | gpioWatch =>
    simp only [handlerReads, List.forall_mem_cons] at agree
    obtain ⟨hpin, hedge, -⟩ := agree
    simp only [runOperation, gpioWatch, gpioWatched, u16_agrees hpin, u8_agrees hedge]
  | spiExchange =>
    simp only [handlerReads, List.forall_mem_cons] at agree
    obtain ⟨hbus, hchip, hclock, hmode, horder, hfill, hread, hdata, -⟩ := agree
    simp only [runOperation, spiExchange, spiTransfer, u8_agrees hbus, u16_agrees hchip, u32_agrees hclock,
      u8_agrees hmode, u8_agrees horder, getU8_agrees hfill, u32_agrees hread, optionalBytes_agrees hdata]
  | i2cExchange =>
    simp only [handlerReads, List.forall_mem_cons] at agree
    obtain ⟨hbus, haddress, hclock, hread, hrepeated, hdata, -⟩ := agree
    simp only [runOperation, i2cExchange, i2cTransaction, u8_agrees hbus, u8_agrees haddress,
      u32_agrees hclock, u32_agrees hread, getU8_agrees hrepeated, optionalBytes_agrees hdata]
  | uartWrite =>
    simp only [handlerReads, List.forall_mem_cons] at agree
    obtain ⟨hport, hdata, -⟩ := agree
    simp only [runOperation, uartWriteOperation, uartOutput, u8_agrees hport, requiredBytes_agrees hdata]
  | canSend =>
    simp only [handlerReads, List.forall_mem_cons] at agree
    obtain ⟨hbus, hidentifier, hextended, hdata, -⟩ := agree
    simp only [runOperation, canSend, canOutput, u8_agrees hbus, u32_agrees hidentifier,
      u8_agrees hextended, requiredBytes_agrees hdata]
  | wifiSend =>
    simp only [handlerReads, List.forall_mem_cons] at agree
    obtain ⟨hsocket, hdata, -⟩ := agree
    simp only [runOperation, wifiSend, wifiOutput, wifiSocketId, u8_agrees hsocket,
      requiredBytes_agrees hdata]
  | gpioRead =>
    simp only [handlerReads, List.forall_mem_cons] at agree
    obtain ⟨hpin, -⟩ := agree
    simp only [runOperation, gpioOperation, gpioPin, u16_agrees hpin, if_true]
  | gpioWrite =>
    simp only [handlerReads, List.forall_mem_cons] at agree
    obtain ⟨hpin, hvalue, -⟩ := agree
    simp [runOperation, gpioOperation, gpioPin, gpioValue, u16_agrees hpin, u8_agrees hvalue]
  | gpioPulse =>
    simp only [handlerReads, List.forall_mem_cons] at agree
    obtain ⟨hpin, hvalue, hduration, -⟩ := agree
    simp only [runOperation, gpioOperation, gpioPin, gpioValue, gpioDuration, u16_agrees hpin,
      u8_agrees hvalue, u32_agrees hduration]

end agree

end JLinkMcp.Firmware
