import JLinkMcp.ServiceOperations

namespace JLinkMcp.Service

open Host Audit TaskProgram

/-- Whether an item of a GDB response has this text under this name. -/
def itemHas (item : PyJson) (name text : String) : Bool :=
  match item with
  | .dict fields => fields.any fun entry => entry.1 = PyStr.ofString name && match entry.2 with
    | .str value => value = PyStr.ofString text
    | _ => false
  | _ => false

/-- `item.get("message") == "error"` for an item of the response -/
def hasError (response : List PyJson) : Bool := response.any fun item => itemHas item "message" "error"

section gdb

variable (registry : TargetRegistry)

/-- `server.terminate()`, which raises where there is no process any more. -/
def terminateServer (server : Nat) : Coroutine Unit := do
  let found ← ExceptT.mk (.call (Call.terminate server))
  if found then return () else throw .raised

/-- The rounds of `_wait_for_port`. -/
def waitForPort (port server : Nat) : Nat → Coroutine Unit
  | 0 => do
    terminateServer server
    ExceptT.mk (.call (Call.awaitExit server))
    throw (.timeoutError (PyStr.ofString "GDB Server did not listen on port " ++ decimal port))
  | rounds + 1 => do
    let exited : Bool ← ask (.exited server)
    if exited then
      let output ← ExceptT.mk (.call (Call.readOutput server))
      raiseRuntime (PyStr.ofString "GDB Server exited before listening: " ++ output)
    else
      let connected ← ExceptT.mk (.call (Call.connectPort port))
      if connected then return ()
      else
        sleep
        waitForPort port server rounds

/-- `-target-select remote 127.0.0.1:{gdb_port}` -/
def targetSelect (port : Nat) : PyStr := PyStr.ofString "-target-select remote 127.0.0.1:" ++ decimal port

/-- `-file-exec-and-symbols "{elf_path}"` -/
def fileExecAndSymbols (elfPath : PyStr) : PyStr :=
  PyStr.ofString "-file-exec-and-symbols \"" ++ elfPath ++ PyStr.ofString "\""

def writeController (controller : Nat) (command : PyStr) : Coroutine (List PyJson) :=
  ExceptT.mk (.call (Call.controllerWrite controller command))

/-- Loads the symbols of the ELF file, where there is one. -/
def loadSymbols (controller : Nat) : Option PyStr → Coroutine Unit
  | none => pure ()
  | some path => discard (writeController controller (fileExecAndSymbols path))

/-- What `GDBBackend.start` does where the target is not reached. -/
def abandonServer {α : Type} (server controller : Nat) (response : List PyJson) : Coroutine α := do
  ExceptT.mk (.call (Call.exitController controller))
  terminateServer server
  ExceptT.mk (.call (Call.awaitExit server))
  raiseRuntime (PyStr.ofString "GDB target connection failed: " ++ dumps (.list response))

/-- `GDBBackend.start`. The session gets its id and its entry in the turn in which it is returned, and the
caller makes its own entries in that turn too. -/
def gdbStart (selector : Resolved) (elfPath : Option PyStr) : Coroutine GdbSession := do
  let ports ← ExceptT.mk (.call (Call.prepareGdb selector))
  let server ← ExceptT.mk (.call (Call.spawnServer selector ports))
  let rounds ← ask .deadline
  waitForPort ports.gdb server rounds
  let controller ← ExceptT.mk (.call Call.openController)
  loadSymbols controller elfPath
  let response ← writeController controller (targetSelect ports.gdb)
  if hasError response then abandonServer server controller response
  else return { selector, ports, server, controller, elfPath }

/-- `session_info` -/
def SessionInfo.json (info : SessionInfo) : JsonDict :=
  [field "session_id" (.str (idText info.sessionId)), field "probe_serial" (.str info.session.selector.probeSerial),
    field "gdb_port" (.int info.session.ports.gdb), field "swo_port" (.int info.session.ports.swo),
    field "telnet_port" (.int info.session.ports.telnet), field "rtt_port" (.int info.session.ports.rtt),
    field "created_at" (.str info.createdAt), field "elf_path" (textOrNull info.session.elfPath)]

/-- The result that the service makes up for what it does itself. -/
def ownResult (stamp : Stamp) (sessionId : Nat) (backend : String) (command : List PyStr) : CommandResult where
  operationId := stamp.operationId
  sessionId := some (idText sessionId)
  backend := PyStr.ofString backend
  command := command
  startedAt := stamp.now
  finishedAt := stamp.now
  durationMs := 0
  returnCode := some 0

def probeOf (resolved : Resolved) : JsonDict := [field "serial" (.str resolved.probeSerial)]

def targetOf (resolved : Resolved) : JsonDict :=
  [field "board_serial" (textOrNull resolved.boardSerial), field "target_profile" (.str resolved.targetProfile),
    field "core" (.str resolved.core)]

/-- `self.settings.resolve_allowed_path(path)`, where there is one -/
def allowedPath? : Option PyStr → Coroutine (Option PyStr)
  | none => pure none
  | some path => do
    let path ← files (.allowedPath path)
    return some path

/-- What runs under a lease that is released where it raises. -/
def orRelease {α : Type} (leaseId : Nat) (body : Coroutine α) : Coroutine α :=
  catching body anyError fun error => do
    ask (.release leaseId)
    throw error

/-- What `start_gdb` does with its lease. -/
def openGdbSession (resolved : Resolved) (path : Option PyStr) (leaseId : Nat) : Coroutine SessionInfo := do
  let info : SessionInfo ← orRelease leaseId do
    let identity ← identityPreflight registry resolved leaseId
    let session ← gdbStart resolved path
    ask (.openGdb session leaseId identity.observed)
  ExceptT.mk (.call (Call.upsertSession info))
  let stamp ← ask .stamp
  let result := ownResult stamp info.sessionId "jlink-gdb" [PyStr.ofString "start-session", path.getD []]
  append (entry { result with parsed := info.json, probeIdentity := probeOf resolved
                              targetIdentity := targetOf resolved }
    (PyStr.ofString "start_gdb_session") (some resolved.probeSerial) true
    (some [field "elf_path" (textOrNull path)]))
  return info

/-- `start_gdb` -/
def startGdb (selector : DeviceSelector) (elfPath : Option PyStr) : Coroutine SessionInfo := do
  let resolved ← resolveSelectorWait registry selector
  let path ← allowedPath? elfPath
  let leaseId ← ExceptT.mk (.call (Call.acquire resolved.probeSerial (PyStr.ofString "gdb_session")))
  openGdbSession registry resolved path leaseId

/-- Three seconds for a process that was sent `SIGTERM`, and `SIGKILL`. -/
def awaitEnd (process : Nat) : Coroutine Unit := do
  let ended ← ExceptT.mk (.call (Call.awaitExitBriefly process))
  if ended then return ()
  else
    ExceptT.mk (.call (Call.kill process))
    ExceptT.mk (.call (Call.awaitExit process))

/-- `GDBBackend.stop` for the session that was taken out of the table. -/
def gdbStop (taken : Option SessionInfo) (resume : Bool) : Coroutine Unit :=
  match taken with
  | none => pure ()
  | some info => do
    suppressing (if resume then discard (writeController info.session.controller (PyStr.ofString "-exec-continue"))
      else pure ())
    ensuring (ExceptT.mk (.call (Call.exitController info.session.controller))) do
      let exited : Bool ← ask (.exited info.session.server)
      if exited then return ()
      else
        discard (ExceptT.mk (.call (Call.terminate info.session.server)))
        awaitEnd info.session.server

/-- Takes the entries of a session and releases its lease. -/
def releaseEntry (forgotten : Option Nat) : Coroutine Unit :=
  match forgotten with
  | none => pure ()
  | some leaseId => ask (.release leaseId)

/-- The record of a session that was stopped. -/
def recordStopGdb (taken : Option SessionInfo) (resume : Bool) : Coroutine Unit :=
  match taken with
  | none => pure ()
  | some info => do
    let stamp ← ask .stamp
    let resumeText := PyStr.ofString (if resume then "resume=True" else "resume=False")
    let result := ownResult stamp info.sessionId "jlink-gdb" [PyStr.ofString "stop-session", resumeText]
    let parsed := [field "session_id" (.str (idText info.sessionId)), field "resume" (.bool resume)]
    append (entry { result with parsed, probeIdentity := probeOf info.session.selector }
      (PyStr.ofString "stop_gdb_session") (some info.session.selector.probeSerial) resume (some parsed))

/-- `stop_gdb`; `session_info` and the `pop` of `GDBBackend.stop` see the same table. -/
def stopGdb (sessionId : Nat) (resume : Bool) : Coroutine Unit := do
  let taken : Option SessionInfo ← ask (.takeGdb sessionId)
  ensuring (do
    gdbStop taken resume
    ExceptT.mk (.call (Call.deleteSession sessionId)))
    (do releaseEntry (← ask (.forgetGdb sessionId)))
  recordStopGdb taken resume

/-- `self._session(session_id)` -/
def gdbSession (sessionId : Nat) : Coroutine SessionInfo := do
  match ← (ask (.gdbInfo sessionId) : Coroutine (Option SessionInfo)) with
  | some info => return info
  | none => throw (.unknownSession sessionId)

def startsWithOneOf (command : PyStr) (starts : List String) : Bool :=
  starts.any fun start => (PyStr.ofString start).isPrefixOf command

/-- `state_after` of `GDBBackend.command` -/
def stateAfterGdb (command : PyStr) : TargetState :=
  if startsWithOneOf command ["-exec-continue", "continue"] then .running
  else if startsWithOneOf command ["-exec-step", "-exec-next", "step", "next"] then .halted
  else .unknown

/-- The result of `GDBBackend.command`. -/
def gdbResult (sessionId : Nat) (info : SessionInfo) (command : PyStr) (stamp : Stamp) (reply : GdbReply) :
    CommandResult :=
  let response := match reply with
    | .response items => items
    | .timeout _ => []
  let own := ownResult stamp sessionId "jlink-gdb" [command]
  { own with
    returnCode := match reply with
      | .response items => some (if hasError items then 1 else 0)
      | .timeout _ => none
    timedOut := match reply with
      | .response _ => false
      | .timeout _ => true
    stderr := match reply with
      | .response _ => []
      | .timeout message => message
    parsed := [field "mi" (.list response), field "session_id" (.str (idText sessionId))]
    targetStateAfter := stateAfterGdb command
    probeIdentity := probeOf info.session.selector
    targetIdentity := targetOf info.session.selector }

/-- `gdb_command`; the times of the result are those of one stamp. -/
def gdbCommand (sessionId : Nat) (command : PyStr) : Coroutine CommandResult := do
  ExceptT.mk (.call (Call.validateGdb command))
  let session ← gdbSession sessionId
  let reply ← started (.call (Call.gdbWrite sessionId command))
  let stamp ← ask .stamp
  let result := gdbResult sessionId session command stamp reply
  let info ← gdbSession sessionId
  append (entry result (PyStr.ofString "gdb_command") (some info.session.selector.probeSerial) true
    (some [field "session_id" (.str (idText sessionId)), field "command" (.str command)]))
  return result

/-- `capture_gdb_channel` -/
def captureGdbChannel (sessionId : Nat) (channel : String) (duration : PyStr) (write : Option PyStr) :
    Coroutine CommandResult := do
  let result ← ExceptT.mk (.call (Call.captureChannel sessionId (PyStr.ofString channel)))
  let info ← gdbSession sessionId
  append (entry result (PyStr.ofString ("capture_" ++ channel)) (some info.session.selector.probeSerial)
    write.isSome (some [field "session_id" (.str (idText sessionId)), field "duration" (.float duration)]))
  return result

end gdb

section gui

variable (registry : TargetRegistry)

/-- `GUIBackend.launch`, without the entry that it makes when it returns. -/
def guiLaunch (application : PyStr) (arguments : List PyStr) : Coroutine Nat := do
  ExceptT.mk (.call (Call.prepareGui application arguments))
  let process ← ExceptT.mk (.call (Call.spawnGui application arguments))
  sleep
  let exited : Bool ← ask (.exited process)
  if exited then
    let output ← ExceptT.mk (.call (Call.readOutput process))
    raiseRuntime (application ++ PyStr.ofString " exited during GUI startup: " ++ output)
  else return process

/-- `start_gui` -/
def startGui (application : PyStr) (arguments : List PyStr) (selector : DeviceSelector) : Coroutine Nat := do
  let resolved ← resolveSelectorWait registry selector
  let owner := PyStr.ofString "gui:" ++ application
  let leaseId ← ExceptT.mk (.call (Call.acquire resolved.probeSerial owner))
  let (identity, sessionId) ← orRelease leaseId do
    let identity ← identityPreflight registry resolved leaseId
    let process ← guiLaunch application arguments
    let sessionId : Nat ← ask (.openGui resolved process leaseId)
    return (identity, sessionId)
  let stamp ← ask .stamp
  let result := attachIdentities (ownResult stamp sessionId "segger-gui" (application :: arguments)) resolved
    identity.observed
  append (entry result (PyStr.ofString "launch_gui") (some resolved.probeSerial) true
    (some [field "application" (.str application), field "args" (textList arguments)]))
  return sessionId

/-- `GUIBackend.stop` for the process that was taken out of the table. -/
def guiStop (taken : Option (Resolved × Nat)) : Coroutine Unit :=
  match taken with
  | none => pure ()
  | some (_, process) => do
    let exited : Bool ← ask (.exited process)
    if exited then return ()
    else
      let found ← ExceptT.mk (.call (Call.terminate process))
      if found then awaitEnd process else return ()

/-- The record of a GUI session that was stopped. -/
def recordStopGui (sessionId : Nat) (taken : Option (Resolved × Nat)) : Coroutine Unit :=
  match taken with
  | none => pure ()
  | some (selector, _) => do
    let stamp ← ask .stamp
    let result := ownResult stamp sessionId "segger-gui" [PyStr.ofString "stop-session"]
    append (entry { result with probeIdentity := probeOf selector, targetIdentity := targetOf selector }
      (PyStr.ofString "stop_gui") (some selector.probeSerial) false
      (some [field "session_id" (.str (idText sessionId))]))

/-- `stop_gui` -/
def stopGui (sessionId : Nat) : Coroutine Unit := do
  let taken : Option (Resolved × Nat) ← ask (.takeGui sessionId)
  ensuring (guiStop taken) (do releaseEntry (← ask (.forgetGui sessionId)))
  recordStopGui sessionId taken

end gui

end JLinkMcp.Service
