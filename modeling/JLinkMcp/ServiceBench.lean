import JLinkMcp.GigaWorkflows

namespace JLinkMcp.Giga

open Host Audit Service TaskProgram

/-- The profile of the Arduino GIGA R1. -/
def gigaR1 : TargetProfile where
  id := pyText "arduino_giga_r1"
  cores := [(pyText "m7", ⟨pyText "Cortex-M7", 0x411FC271⟩), (pyText "m4", ⟨pyText "Cortex-M4", 0x410FC241⟩)]
  defaultCore := pyText "m7"
  expectedDpidr := 0x6BA02477
  minimumTargetVoltage := 3
  defaultInterface := pyText "SWD"
  defaultSpeedKhz := 4000

/-- A result of a tool that succeeded. -/
def succeeded (others : JsonDict) : CommandResult where
  operationId := pyText "op"
  backend := pyText "bench"
  command := []
  startedAt := pyText "now"
  finishedAt := pyText "now"
  durationMs := 1
  returnCode := some 0
  parsed := others

/-- What Commander shows of a core whose memory holds a number that grows. -/
def benchObserved (resolved : Resolved) (count : Nat) : Observed where
  targetVoltage := some ⟨pyText "3.3", 33 / 10⟩
  core := some (if resolved.core = pyText "m7" then pyText "Cortex-M7" else pyText "Cortex-M4")
  probeSerial := some resolved.probeSerial
  cpuid := some (if resolved.core = pyText "m7" then ⟨pyText "411FC271", by decide, by decide⟩
    else ⟨pyText "410FC241", by decide, by decide⟩)
  dpidr := some ⟨pyText "6BA02477", by decide, by decide⟩
  connected := some true
  others := [field "memory" (.list [.dict [field "values"
    (.list [.str (pyText "0x" ++ decimal (1000 + count))])]])]

def benchFile (path kind : PyStr) : Artifact := ⟨path, List.replicate 64 97, 1, kind⟩

/-- What the files of a bench are like on which everything is there. -/
def benchFiles : (work : FileWork) → work.Value
  | .allowedPath path | .resolveSketch path => path
  | .fileDigest _ => List.replicate 64 97
  | .newPath stem suffix => stem ++ suffix
  | .readText _ => []
  | .buildDirectory _ core => pyText "/build/" ++ core ++ pyText "-1"
  | .sourceTreeIdentity => []
  | .stageSketch sketch _ _ => sketch
  | .compilerPath _ => pyText "/usr/bin"
  | .artifact path kind => benchFile path kind
  | .registerArtifact _ | .copySlice _ _ _ _ | .writeText _ _ | .finalizeElf _ => ()
  | .pathExists _ | .doctor | .evidence _ => true
  | .fileSize _ => (1 : Nat)
  | .testSymbols _ => [(pyText "jlink_mcp_heartbeat", 0x24000000)]
  | .findElf directory => some (directory ++ pyText "/fixture.elf")
  | .buildOutputs directory => [benchFile (directory ++ pyText "/fixture.elf") (pyText "elf"),
      benchFile (directory ++ pyText "/fixture.bin") (pyText "bin")]
  | .writeBuildManifest directory _ => [benchFile (directory ++ pyText "/manifest.json") (pyText "manifest")]
  | .buildManifest _ => ⟨0x08040000, .null, .null⟩
  | .bridgeRelease => ⟨[], [], 1, []⟩
  | .validationReport _ => (true, [])

/-- A bench on which every tool succeeds. -/
def bench (count : Nat) : (call : Call) → Service.Reply call
  | .discover => .ok ⟨⟨[pyText "1"], [⟨some (pyText "b"), some gigaR1.id, some (pyText "/dev/ttyACM0")⟩],
      [pyText "/dev/ttyACM0"]⟩, fun _ _ => .ok true⟩
  | .deadline => (3 : Nat)
  | .sleep | .append _ | .kill _ | .awaitExit _ | .exitController _ | .validateGdb _ | .upsertSession _ |
    .deleteSession _ | .prepareGui _ _ => .ok ()
  | .stamp => ⟨pyText "op", pyText "now"⟩
  | .enter _ _ | .acquire _ _ | .spawnServer _ _ | .openController | .spawnGui _ _ => .ok count
  | .leave _ | .release _ => ()
  | .commander _ resolved => .finished ⟨succeeded [], benchObserved resolved count⟩
  | .application _ _ | .exchange _ _ => .finished (succeeded [])
  | .run _ _ | .captureChannel _ _ => .ok (succeeded [])
  | .matchingGdb _ => none
  | .prepareGdb _ => .ok ⟨1, 2, 3, 4⟩
  | .exited _ => false
  | .readOutput _ => .ok []
  | .terminate _ | .connectPort _ | .awaitExitBriefly _ => .ok true
  | .controllerWrite _ _ => .ok []
  | .openGdb session _ _ => ⟨count, session, pyText "now"⟩
  | .takeGdb _ | .gdbInfo _ => none
  | .forgetGdb _ | .forgetGui _ => none
  | .gdbWrite _ _ => .finished (.response [])
  | .openGui _ _ _ => count
  | .takeGui _ => none
  | .files work => .ok (benchFiles work)

end JLinkMcp.Giga
