import JLinkMcp.HostText
import Mathlib.Data.List.Infix
import Mathlib.Data.List.Nodup

namespace JLinkMcp.Discovery

open Host

/-- The fields of a `USBDevice` that the search for its port reads. -/
structure UsbDevice where
  serial : Option PyStr
  deviceNodes : List PyStr

/-- What the search sees of the host: `\d`, the node under `host_dev_root`, and the paths that exist. -/
structure HostView where
  isDecimal : CodePoint → Bool
  hostNode : PyStr → PyStr
  present : PyStr → Bool

/-- The path that is returned, by the branch that returns it. -/
inductive SerialPort where
  | node (path : PyStr)
  | link (name : PyStr)

section ports

variable (view : HostView)

/-- `/dev/tty(?:ACM|USB)\d+` -/
def isTtyNode (node : PyStr) : Bool :=
  [PyStr.ofString "/dev/ttyACM", PyStr.ofString "/dev/ttyUSB"].any fun head =>
    head.isPrefixOf node && node.drop head.length ≠ [] && (node.drop head.length).all view.isDecimal

/-- `serial_port_for_usb`; `byId` has the names of the by-id directory in its order, where there is one. -/
def serialPortForUsb (byId : Option (List PyStr)) (device : UsbDevice) : Option SerialPort :=
  match device.deviceNodes.find? (isTtyNode view) with
  | some node => some (.node (if view.present (view.hostNode node) then view.hostNode node else node))
  | none =>
    (device.serial.filter (· ≠ [])).bind fun serial =>
    byId.bind fun names =>
    (names.find? fun name => serial <:+: name).map .link

end ports

/-- A link by the serial field of its name and what is around it, as in `usb-Vendor_Product_` and `-if00`. -/
structure ByIdLink where
  front : PyStr
  serial : PyStr
  back : PyStr

def ByIdLink.name (link : ByIdLink) : PyStr := link.front ++ link.serial ++ link.back

theorem ByIdLink.serial_infix (link : ByIdLink) : link.serial <:+: link.name := ⟨link.front, link.back, rfl⟩

/-- Boards with serials of their own, and a directory of links each of which is one board's. -/
structure Attachment where
  devices : List UsbDevice
  links : List ByIdLink
  serials : ∀ device ∈ devices, ∃ serial, device.serial = some serial ∧ serial ≠ []
  distinct : (devices.map UsbDevice.serial).Nodup
  owned : ∀ link ∈ links, ∃ device ∈ devices, device.serial = some link.serial
  names : (links.map ByIdLink.name).Nodup

namespace Attachment

variable (attached : Attachment) (view : HostView)

def port (device : UsbDevice) : Option SerialPort :=
  serialPortForUsb view (some (attached.links.map ByIdLink.name)) device

/-- No link is returned for a board that is another's, nor for two boards. -/
structure PortsApart : Prop where
  own : ∀ device ∈ attached.devices, ∀ link ∈ attached.links,
    attached.port view device = some (.link link.name) → device.serial = some link.serial
  once : ∀ device ∈ attached.devices, ∀ other ∈ attached.devices, device ≠ other → ∀ name,
    attached.port view device = some (.link name) → attached.port view other ≠ some (.link name)

/-- Before every link whose name contains the serial of a board without a tty node, the directory lists one of the
board's own, unless the link is that itself. -/
def OwnFirst : Prop :=
  ∀ device ∈ attached.devices, device.deviceNodes.find? (isTtyNode view) = none →
    ∀ serial, device.serial = some serial → ∀ before link after, attached.links = before ++ link :: after →
      serial <:+: link.name → ∃ own ∈ before ++ [link], own.serial = serial

variable {attached : Attachment} {view : HostView} {device : UsbDevice} {serial : PyStr}

theorem serial_injective {other : UsbDevice} (mem : device ∈ attached.devices) (mem' : other ∈ attached.devices)
    (h : device.serial = other.serial) : device = other :=
  List.inj_on_of_nodup_map attached.distinct mem mem' h

theorem name_injective {link other : ByIdLink} (mem : link ∈ attached.links) (mem' : other ∈ attached.links)
    (h : link.name = other.name) : link = other :=
  List.inj_on_of_nodup_map attached.names mem mem' h

/-- A link is returned where the board has no tty node, and its name is the first with the serial. -/
theorem port_eq_link {name : PyStr} (hserial : device.serial = some serial) (ne : serial ≠ []) :
    attached.port view device = some (.link name) ↔ device.deviceNodes.find? (isTtyNode view) = none ∧
      ∃ before link after, attached.links = before ++ link :: after ∧ link.name = name ∧ serial <:+: link.name ∧
        ∀ other ∈ before, ¬serial <:+: other.name := by
  unfold port serialPortForUsb
  cases htty : device.deviceNodes.find? (isTtyNode view) with
  | some node =>
    refine iff_of_false ?_ fun h => nomatch h.1
    intro h
    cases Option.some.inj h
  | none =>
    rw [hserial, Option.filter_some, if_pos (decide_eq_true ne)]
    simp only [Option.bind_some, List.find?_map, Option.map_map, Option.map_eq_some_iff,
      List.find?_eq_some_iff_append, Function.comp_apply, decide_eq_true_eq, SerialPort.link.injEq, true_and]
    constructor
    · rintro ⟨link, ⟨hwithin, before, after, hlinks, hbefore⟩, rfl⟩
      refine ⟨before, link, after, hlinks, rfl, hwithin, fun other hother => ?_⟩
      simpa using hbefore other hother
    · rintro ⟨before, link, after, hlinks, rfl, hwithin, hbefore⟩
      refine ⟨link, ⟨hwithin, before, after, hlinks, fun other hother => ?_⟩, rfl⟩
      simpa using hbefore other hother

/-- Every list with an element that matches has a first one. -/
theorem exists_first {α : Type} (p : α → Prop) {before : List α} {x : α} (hx : p x) :
    ∃ front first back, before ++ [x] = front ++ first :: back ∧ p first ∧ ∀ y ∈ front, ¬p y := by
  classical
  cases hfind : (before ++ [x]).find? (fun y => decide (p y)) with
  | none =>
    have hnone := List.find?_eq_none.mp hfind x (List.mem_append_right _ (List.mem_singleton_self x))
    exact absurd (decide_eq_true hx) hnone
  | some first =>
    obtain ⟨hfirst, front, back, heq, hfront⟩ := List.find?_eq_some_iff_append.mp hfind
    exact ⟨front, first, back, heq, of_decide_eq_true hfirst, fun y hy => by simpa using hfront y hy⟩

theorem portsApart_of_ownFirst (h : attached.OwnFirst view) : attached.PortsApart view := by
  have hown : ∀ device ∈ attached.devices, ∀ link ∈ attached.links,
      attached.port view device = some (.link link.name) → device.serial = some link.serial := by
    intro device hdevice link hlink hport
    obtain ⟨serial, hserial, hne⟩ := attached.serials device hdevice
    obtain ⟨htty, before, found, after, hlinks, hname, hwithin, hbefore⟩ := (port_eq_link hserial hne).mp hport
    have hfound : found ∈ attached.links := by
      rw [hlinks]
      exact List.mem_append_right _ List.mem_cons_self
    obtain rfl := name_injective hfound hlink hname
    obtain ⟨own, hown, rfl⟩ := h device hdevice htty serial hserial before found after hlinks hwithin
    rcases List.mem_append.mp hown with hmem | hmem
    · exact absurd own.serial_infix (hbefore own hmem)
    · obtain rfl := List.mem_singleton.mp hmem
      exact hserial
  refine ⟨hown, ?_⟩
  intro device hdevice other hother hne name hport hport'
  obtain ⟨serial, hserial, hserialne⟩ := attached.serials device hdevice
  obtain ⟨-, before, link, after, hlinks, rfl, -, -⟩ := (port_eq_link hserial hserialne).mp hport
  have hlink : link ∈ attached.links := by
    rw [hlinks]
    exact List.mem_append_right _ List.mem_cons_self
  have howner := hown device hdevice link hlink hport
  have howner' := hown other hother link hlink hport'
  exact hne (serial_injective hdevice hother (howner.trans howner'.symm))

theorem ownFirst_of_portsApart (h : attached.PortsApart view) : attached.OwnFirst view := by
  intro device hdevice htty serial hserial before link after hlinks hwithin
  obtain ⟨serial', hserial', hne⟩ := attached.serials device hdevice
  obtain rfl := Option.some.inj (hserial.symm.trans hserial')
  obtain ⟨front, first, back, hfirst, hmatch, hfront⟩ :=
    @exists_first _ (fun link : ByIdLink => serial <:+: link.name) before link hwithin
  have hlinks' : attached.links = front ++ first :: (back ++ after) := by
    rw [hlinks, List.append_cons, hfirst, List.append_assoc, List.cons_append]
  have hport : attached.port view device = some (.link first.name) :=
    (port_eq_link hserial hne).mpr ⟨htty, front, first, _, hlinks', rfl, hmatch, hfront⟩
  have hmem : first ∈ attached.links := by
    rw [hlinks']
    exact List.mem_append_right _ List.mem_cons_self
  have howner := h.own device hdevice first hmem hport
  refine ⟨first, ?_, (Option.some.inj (hserial.symm.trans howner)).symm⟩
  rw [hfirst]
  exact List.mem_append_right _ List.mem_cons_self

/-- The boards keep their own links exactly where the directory lists them first. -/
theorem portsApart_iff_ownFirst (attached : Attachment) (view : HostView) :
    attached.PortsApart view ↔ attached.OwnFirst view :=
  ⟨ownFirst_of_portsApart, portsApart_of_ownFirst⟩

/-- Serials that no name of another board's link contains are enough, in any order of the directory. -/
theorem portsApart_of_separate
    (separate : ∀ device ∈ attached.devices, ∀ serial, device.serial = some serial →
      ∀ link ∈ attached.links, serial <:+: link.name → link.serial = serial) : attached.PortsApart view := by
  refine portsApart_of_ownFirst ?_
  intro device hdevice _ serial hserial before link after hlinks hwithin
  have hlink : link ∈ attached.links := by
    rw [hlinks]
    exact List.mem_append_right _ List.mem_cons_self
  exact ⟨link, List.mem_append_right _ (List.mem_singleton_self _),
    separate device hdevice serial hserial link hlink hwithin⟩

end Attachment

/-- A host that has no other path. -/
def bareView : HostView := ⟨fun c => 48 ≤ c.val && c.val ≤ 57, id, fun _ => false⟩

/-- The serial of the first board is the beginning of the second's, whose link alone is in the directory. -/
def prefixAttachment : Attachment where
  devices := [⟨some (PyStr.ofString "123"), []⟩, ⟨some (PyStr.ofString "1234"), []⟩]
  links := [⟨PyStr.ofString "usb-Arduino_Giga_", PyStr.ofString "1234", PyStr.ofString "-if00"⟩]
  serials := by
    intro device hdevice
    rcases List.mem_pair.mp hdevice with rfl | rfl
    · exact ⟨_, rfl, by decide⟩
    · exact ⟨_, rfl, by decide⟩
  distinct := by decide
  owned := by
    intro link hlink
    obtain rfl := List.mem_singleton.mp hlink
    exact ⟨_, List.mem_cons_of_mem _ (List.mem_singleton_self _), rfl⟩
  names := List.nodup_singleton _

theorem prefixAttachment_confused : ¬prefixAttachment.PortsApart bareView ∧
    prefixAttachment.devices.map (prefixAttachment.port bareView) =
      List.replicate 2 (some (.link (PyStr.ofString "usb-Arduino_Giga_1234-if00"))) := by
  refine ⟨fun h => ?_, rfl⟩
  have howner := h.own _ List.mem_cons_self _ (List.mem_singleton_self _) rfl
  exact absurd (Option.some.inj howner) (by decide)

/-- Two boards, the link of the second before that of the first. -/
def apartAttachment : Attachment where
  devices := [⟨some (PyStr.ofString "123"), []⟩, ⟨some (PyStr.ofString "456"), []⟩]
  links :=
    [⟨PyStr.ofString "usb-Arduino_Giga_", PyStr.ofString "456", PyStr.ofString "-if00"⟩,
     ⟨PyStr.ofString "usb-Arduino_Giga_", PyStr.ofString "123", PyStr.ofString "-if00"⟩]
  serials := by
    intro device hdevice
    rcases List.mem_pair.mp hdevice with rfl | rfl
    · exact ⟨_, rfl, by decide⟩
    · exact ⟨_, rfl, by decide⟩
  distinct := by decide
  owned := by
    intro link hlink
    rcases List.mem_pair.mp hlink with rfl | rfl
    · exact ⟨_, List.mem_cons_of_mem _ (List.mem_singleton_self _), rfl⟩
    · exact ⟨_, List.mem_cons_self, rfl⟩
  names := by decide

example : apartAttachment.OwnFirst bareView :=
  Attachment.ownFirst_of_portsApart (Attachment.portsApart_of_separate (by
    intro device hdevice serial hserial link hlink
    rcases List.mem_pair.mp hdevice with rfl | rfl <;> rcases List.mem_pair.mp hlink with rfl | rfl <;>
      obtain rfl := Option.some.inj hserial <;> decide))

end JLinkMcp.Discovery
