import JLinkMcp.FirmwareRadio
import JLinkMcp.ResponsePath

namespace JLinkMcp.Firmware

open Codec StateProgram

/-- The event is a `wifi_connect` that gets past the checks and joins a network. -/
def joins (c : Settings) : Event → Bool
  | .poll => false
  | .request _ body =>
    handledOperation body = some .wifiConnect && c.radioMode ≠ 2 && (wifiCredentials ⟨body⟩).isSome

/-- The number of the Wi-Fi session, which begins with a join, and the one every socket was opened in. -/
structure Sessions where
  current : Nat
  openedIn : Nat → Nat

/-- The sessions after an event that led from the first settings to the second ones. -/
def Sessions.after (sessions : Sessions) (c : Settings) (event : Event) (c' : Settings) : Sessions where
  current := if joins c event then sessions.current + 1 else sessions.current
  openedIn socket :=
    if !(c.sockets socket).used && (c'.sockets socket).used then sessions.current
    else sessions.openedIn socket

/-- The states that a row of allowed events can lead to, with the sessions of their sockets. -/
inductive SessionRun (allowed : Settings → Event → Prop) : Bridge → Sessions → Prop
  | powerUp (board : Board) (identity : BuildIdentity) (limits : UsbLimits) :
      SessionRun allowed ⟨.powerUp board identity limits, []⟩ ⟨0, fun _ => 0⟩
  | after {s : Bridge} {sessions : Sessions} {event : Event} (run : SessionRun allowed s sessions)
      (ok : allowed s.machine.settings event) :
      SessionRun allowed (s.after event)
        (sessions.after s.machine.settings event (s.after event).machine.settings)

/-- Nothing joins a network while a socket is in use. -/
def JoinsWithoutSockets (c : Settings) (event : Event) : Prop :=
  joins c event = true → ∀ socket, (c.sockets socket).used = false

/-- Every socket in use belongs to the session, and there is one. -/
structure SocketsLive (c : Settings) (sessions : Sessions) : Prop where
  slot : ∀ socket, (c.sockets socket).used = true → socket < 8
  connected : ∀ socket, (c.sockets socket).used = true → c.wifiConnected = true
  current : ∀ socket, (c.sockets socket).used = true → sessions.openedIn socket = sessions.current

section kept

variable {c c' : Settings} {sessions : Sessions} {event : Event}

/-- Where no socket is opened, and the ones in use keep their connection. -/
theorem SocketsLive.kept (live : SocketsLive c sessions) (ok : JoinsWithoutSockets c event)
    (h : ∀ socket, (c'.sockets socket).used = true →
      (c.sockets socket).used = true ∧ (joins c event = false → c'.wifiConnected = c.wifiConnected)) :
    SocketsLive c' (sessions.after c event c') := by
  have hjoins : ∀ socket, (c'.sockets socket).used = true → joins c event = false := by
    intro socket hused
    refine Bool.eq_false_iff.mpr fun hjoins => ?_
    cases (ok hjoins socket).symm.trans (h socket hused).1
  refine ⟨fun socket hused => live.slot socket (h socket hused).1, fun socket hused => ?_,
    fun socket hused => ?_⟩
  · exact ((h socket hused).2 (hjoins socket hused)).trans (live.connected socket (h socket hused).1)
  · have hcurrent := live.current socket (h socket hused).1
    simp [Sessions.after, (h socket hused).1, hjoins socket hused, hcurrent]

theorem SocketsLive.opened {socket : Nat} {slot : SocketSlot} (live : SocketsLive c sessions)
    (bound : socket < 8) (connected : c.wifiConnected = true) (free : (c.sockets socket).used = false)
    (hjoins : joins c event = false) :
    SocketsLive { c with sockets := setAt c.sockets socket slot }
      (sessions.after c event { c with sockets := setAt c.sockets socket slot }) := by
  have hother : ∀ {other}, other ≠ socket → setAt c.sockets socket slot other = c.sockets other :=
    fun hne => setAt_ne c.sockets slot hne
  refine ⟨fun other hused => ?_, fun _ _ => connected, fun other hused => ?_⟩
  · by_cases hne : other = socket
    · exact hne ▸ bound
    · exact live.slot other (hother hne ▸ hused)
  · by_cases hne : other = socket
    · subst hne
      simp [Sessions.after, hjoins, free, show (setAt c.sockets other slot other).used = true from hused]
    · have hold : (c.sockets other).used = true := hother hne ▸ hused
      simp [Sessions.after, hjoins, hold, live.current other hold]

theorem joins_of_effect {requestId : Nat} {body : Bytes} {wifi : WifiCredentials}
    (hoperation : handledOperation body = some .wifiConnect) (radio : c.radioMode ≠ 2)
    (h : wifiCredentials ⟨body⟩ = some wifi) : joins c (.request requestId body) = true := by
  simp [joins, hoperation, radio, h]

theorem joins_of_ne {requestId : Nat} {body : Bytes} {operation : Operation}
    (hoperation : handledOperation body = some operation) (ne : operation ≠ .wifiConnect) :
    joins c (.request requestId body) = false := by
  simp [joins, hoperation, ne]

theorem wifiSocket_connected {connected : Bool} {reader : TlvReader} {wifi : WifiSocket}
    (h : wifiSocket connected reader = some wifi) : connected = true := by
  simp only [wifiSocket, Option.bind_eq_bind, Option.bind_eq_some_iff, guard_eq_some] at h
  obtain ⟨_, hconnected, -⟩ := h
  exact hconnected

/-- The slot that a search of the first eight finds. -/
theorem free_of_find {socket : Nat}
    (h : (List.range 8).find? (fun socket => !(c.sockets socket).used) = some socket) :
    socket < 8 ∧ (c.sockets socket).used = false :=
  ⟨List.mem_range.mp (List.mem_of_find?_eq_some h), by simpa using List.find?_some h⟩

theorem socketsLive_effect {requestId : Nat} {body : Bytes} {operation : Operation} {response : Response}
    (live : SocketsLive c sessions) (ok : JoinsWithoutSockets c (.request requestId body))
    (hoperation : handledOperation body = some operation) (h : Effect ⟨body⟩ c operation response c') :
    SocketsLive c' (sessions.after c (.request requestId body) c') := by
  cases h with
  | received _ h =>
    rcases h with rfl | rfl <;> exact live.kept ok fun socket hused => ⟨hused, fun _ => rfl⟩
  | wifiConnected _ radio h | wifiLost _ radio h =>
    refine live.kept ok fun socket hused => ⟨hused, fun hfalse => ?_⟩
    cases hfalse.symm.trans (joins_of_effect hoperation radio h)
  | wifiDisconnected =>
    refine live.kept ok fun socket hused => ?_
    dsimp only at hused
    split at hused
    · cases hused
    next hbound => exact absurd (live.slot socket hused) hbound
  | socketOpened _ h free =>
    obtain ⟨hbound, hfree⟩ := free_of_find free
    exact live.opened hbound (wifiSocket_connected h) hfree (joins_of_ne hoperation nofun)
  | @socketClosed _ closed =>
    refine live.kept ok fun socket hused => ⟨?_, fun _ => rfl⟩
    dsimp only at hused
    by_cases hne : socket = closed
    · subst hne
      rw [setAt_self] at hused
      cases hused
    · rwa [setAt_ne c.sockets _ hne] at hused
  | _ => exact live.kept ok fun socket hused => ⟨hused, fun _ => rfl⟩

theorem socketsLive_event (live : SocketsLive c sessions) (ok : JoinsWithoutSockets c event)
    (h : EventEffect event c c') : SocketsLive c' (sessions.after c event c') := by
  have hsame : SocketsLive c (sessions.after c event c) :=
    live.kept ok fun socket hused => ⟨hused, fun _ => rfl⟩
  cases event with
  | poll =>
    rcases h with rfl | rfl
    · exact hsame
    · exact live.kept ok fun socket hused => ⟨hused, fun _ => rfl⟩
  | request requestId body =>
    obtain ⟨response, heffect⟩ := h
    rcases dispatchEffect_cases heffect with ⟨-, rfl⟩ | ⟨operation, hoperation, heffect⟩
    · exact hsame
    · exact socketsLive_effect live ok hoperation heffect

end kept

theorem socketsLive_of_run {s : Bridge} {sessions : Sessions}
    (run : SessionRun JoinsWithoutSockets s sessions) : SocketsLive s.machine.settings sessions := by
  induction run with
  | powerUp board identity limits => exact ⟨nofun, nofun, nofun⟩
  | @after s sessions event _ ok ih => exact socketsLive_event ih ok (eventEffect_after s event)

/-- The request is answered with the status zero. -/
def AnswersOk (requestId : Nat) (s s' : Bridge) : Prop :=
  ∃ response machine, response.status = kStatusOk ∧
    (responseBody response (timestampUs machine)).isSome ∧
    s'.serial = s.serial ++ responseMessage requestId response (timestampUs machine)

/-- A socket that was free is in use, the answer names it, and the other sockets are as before. -/
def OpensFreeSocket (requestId : Nat) (s s' : Bridge) : Prop :=
  ∃ socket protocol response machine, socket < 8 ∧
    (s.machine.settings.sockets socket).used = false ∧
    (s'.machine.settings.sockets socket).used = true ∧
    (∀ other, other ≠ socket → s'.machine.settings.sockets other = s.machine.settings.sockets other) ∧
    s'.serial = s.serial ++ responseMessage requestId response (timestampUs machine) ∧
    response.metadata = metadata [text "\x7b\"socket_id\":", decimal socket, text ",\"protocol\":\"",
      text protocol, text "\"\x7d"]

/-- The socket of the request is in use since the current session. -/
def SendsInSession (sessions : Sessions) (c : Settings) (body : Bytes) : Prop :=
  ∃ output, wifiOutput (fun socket => (c.sockets socket).used) ⟨body⟩ = some output ∧
    (c.sockets output.socket).used = true ∧ sessions.openedIn output.socket = sessions.current

theorem Handles.ok {requestId : Nat} {drives : PinResources → Nat → Prop}
    {outcome : Response → Settings → Prop} {c : Settings} {program : BridgeM Unit}
    (h : Handles requestId drives outcome c program) (id_lt : requestId < 2 ^ 32) {s : Bridge}
    (hs : s.machine.settings = c) (answered : AnswersOk requestId s (program s).2) :
    ∃ response machine, response.status = kStatusOk ∧
      outcome response (program s).2.machine.settings ∧
      (program s).2.serial = s.serial ++ responseMessage requestId response (timestampUs machine) := by
  obtain ⟨response, machine, hout, hserial, -⟩ := h s hs
  obtain ⟨response', machine', hok, hfits, hserial'⟩ := answered
  refine ⟨response, machine, ?_, hout, hserial⟩
  by_contra hfailed
  exact responseMessage_ne id_lt hok hfits hfailed (List.append_cancel_left (hserial'.symm.trans hserial))

section answers

variable {c c' : Settings} {body : Bytes} {response : Response}

theorem opensFreeSocket_of_effect {requestId : Nat} {s s' : Bridge} {machine : Machine}
    (hoperation : handledOperation body = some .wifiSocketOpen)
    (h : DispatchEffect body s.machine.settings response s'.machine.settings)
    (ok : response.status = kStatusOk)
    (hserial : s'.serial = s.serial ++ responseMessage requestId response (timestampUs machine)) :
    OpensFreeSocket requestId s s' := by
  rw [DispatchEffect, hoperation] at h
  generalize hc' : s'.machine.settings = c' at h
  cases h with
  | failed failed => exact absurd ok failed
  | asked asks => cases asks
  | bleStarted ble => rcases ble with h | h <;> cases h
  | @socketOpened _ wifi socket _ _ free id =>
    obtain ⟨hbound, hfree⟩ := free_of_find free
    refine ⟨socket, _, response, machine, hbound, hfree, ?_, fun other hne => ?_, hserial, id⟩
    · rw [hc']
      exact congrArg SocketSlot.used (setAt_self _ _ _)
    · rw [hc']
      exact setAt_ne _ _ hne

theorem wifiOutput_used {used : Nat → Bool} {reader : TlvReader} {output : WifiOutput}
    (h : wifiOutput used reader = some output) : used output.socket = true := by
  simp only [wifiOutput, wifiSocketId, Option.bind_eq_bind, Option.bind_eq_some_iff, guard_eq_some, pure,
    Option.some.injEq] at h
  obtain ⟨socket, ⟨_, -, -, hguard, rfl⟩, data, -, rfl⟩ := h
  exact hguard.2

theorem sendsInSession_of_effect {sessions : Sessions} (live : SocketsLive c sessions)
    (hoperation : handledOperation body = some .wifiSend) (h : DispatchEffect body c response c')
    (ok : response.status = kStatusOk) : SendsInSession sessions c body := by
  rw [DispatchEffect, hoperation] at h
  cases h with
  | failed failed => exact absurd ok failed
  | asked asks => cases asks
  | bleStarted ble => rcases ble with h | h <;> cases h
  | @wifiSent _ output _ h =>
    have hused := wifiOutput_used h
    exact ⟨output, h, hused, live.current _ hused⟩

end answers

/-- In every run that joins no network while a socket is in use: a socket in use has a connection, a
socket that is opened was free and no other one changes, and data goes only to the sockets of the
session. -/
theorem sockets_in_session_of_joinsWithoutSockets {s : Bridge} {sessions : Sessions}
    (run : SessionRun JoinsWithoutSockets s sessions) :
    (∀ socket, (s.machine.sockets socket).used = true → s.machine.wifiConnected = true) ∧
    ∀ requestId body, requestId < 2 ^ 32 →
      AnswersOk requestId s (s.after (.request requestId body)) →
      (handledOperation body = some .wifiSocketOpen →
        OpensFreeSocket requestId s (s.after (.request requestId body))) ∧
      (handledOperation body = some .wifiSend → SendsInSession sessions s.machine.settings body) := by
  have live := socketsLive_of_run run
  refine ⟨live.connected, fun requestId body id_lt answered => ?_⟩
  obtain ⟨response, machine, hok, heffect, hserial⟩ := handles_dispatch.ok id_lt rfl answered
  exact ⟨fun hoperation => opensFreeSocket_of_effect hoperation heffect hok hserial,
    fun hoperation => sendsInSession_of_effect live hoperation heffect hok⟩

/-- The network is there for the first four calls: the three of a join, and one that opens a socket. -/
def fadingBoard : Board := ⟨fun calls => ⟨if calls.length ≤ 4 then wlConnected else 0, [], 0⟩, .init, [], 0⟩

def fadingBridge : Bridge := ⟨.powerUp fadingBoard ⟨[], 1, [], []⟩ ⟨0, 0⟩, []⟩

/-- `wifi_socket_open` over TCP, port 80. -/
def socketItems : List Tlv :=
  [(1, leBytes 2 Operation.wifiSocketOpen.toNat), (35, [0]), (33, leBytes 2 80), (32, [97])]

theorem socketItems_representable : Representable socketItems := by
  intro item hitem
  simp only [socketItems, List.mem_cons, List.not_mem_nil, or_false] at hitem
  rcases hitem with rfl | rfl | rfl | rfl <;> exact ⟨by decide, by decide⟩

theorem socketItems_handled : handledOperation (tlvBytes socketItems) = some .wifiSocketOpen :=
  handledOperation_tlvBytes socketItems_representable (by decide) rfl (by decide)

/-- A network is joined, and a socket is opened. -/
def openSession : Bridge :=
  (fadingBridge.after (.request 1 (tlvBytes connectItems))).after (.request 2 (tlvBytes socketItems))

theorem sockets_in_session_of_joinsWithoutSockets_open : openSession.machine.wifiConnected = true := by
  refine (sockets_in_session_of_joinsWithoutSockets (.after (.after (.powerUp _ _ _) ?_) ?_)).1 0
    (by decide +kernel)
  · exact fun _ _ => rfl
  · exact fun hjoins => absurd hjoins (by rw [joins_of_ne socketItems_handled nofun]; decide)

/-- The network is joined again in vain: the connection is gone, the socket is still in use. -/
theorem sockets_in_session_fails : ¬∀ s sessions, SessionRun anyEvent s sessions →
    ∀ socket, (s.machine.sockets socket).used = true → s.machine.wifiConnected = true := by
  intro h
  have hstart : SessionRun anyEvent fadingBridge ⟨0, fun _ => 0⟩ := .powerUp _ _ _
  have hconnected := h (openSession.after (.request 3 (tlvBytes connectItems))) _
    (((hstart.after trivial).after trivial).after trivial) 0 (by decide +kernel)
  exact absurd hconnected (by decide +kernel)

end JLinkMcp.Firmware
