import JLinkMcp.ServiceSessions

namespace JLinkMcp.Service

open Host Audit

/-- `f"{n:X}"` -/
def hexUpper (n : Nat) : PyStr := (Nat.toDigits 16 n).map fun c => Fin.ofNat 0x110000 c.toUpper.toNat

/-- `f"0x{n:08X}"` -/
def address8 (n : Nat) : PyStr :=
  PyStr.ofString "0x" ++ List.replicate (8 - (hexUpper n).length) 48 ++ hexUpper n

/-- `f"{command} {operands}"` -/
def withOperands (command : String) (operands : PyStr) : PyStr := PyStr.ofString command ++ 32 :: operands

def quoted (path : PyStr) : PyStr := 34 :: path ++ [34]

section commands

variable (registry : TargetRegistry)

def connect (selector : DeviceSelector) : Coroutine CommandResult :=
  commanderCommands registry identityCommands selector "connect" false

def reset (selector : DeviceSelector) (halt : Bool) (resetType : Option Int) : Coroutine CommandResult :=
  if resetType.any fun n => ¬(0 ≤ n ∧ n ≤ 15) then raiseValue "reset_type must be between 0 and 15"
  else
    let setType := (resetType.map fun n => withOperands "RSetType" (dumpsInt n)).toList
    let commands := setType ++ (if halt then ["Reset", "Halt"] else ["Reset", "Go"]).map PyStr.ofString
    commanderCommands registry commands selector (if halt then "reset_halt" else "reset_run") true

def readMemory (address : Int) (count width : Nat) (selector : DeviceSelector) : Coroutine CommandResult :=
  if address < 0 ∨ count < 1 ∨ 65536 < count then raiseValue "invalid address or count"
  else if width ∉ [8, 16, 32] then raiseValue "width must be 8, 16, or 32"
  else
    let command := withOperands s!"Mem{width}" (address8 address.toNat ++ 32 :: decimal count)
    commanderCommands registry [command] selector "read_memory" false

/-- `" ".join(f"0x{value:X}" for value in values)` -/
def hexValues (values : List Int) : PyStr :=
  (values.map fun value => PyStr.ofString "0x" ++ hexUpper value.toNat).intersperse [32] |>.flatten

def writeMemory (address : Int) (values : List Int) (width : Nat) (selector : DeviceSelector) :
    Coroutine CommandResult :=
  if address < 0 ∨ values = [] ∨ 4096 < values.length then raiseValue "invalid address or values"
  else if width ∉ [8, 16, 32] then raiseValue "width must be 8, 16, or 32"
  else if values.any fun value => value < 0 ∨ 2 ^ width - 1 < value then
    raiseValue s!"values must fit in {width} bits"
  else
    let command := withOperands s!"W{width / 8}" (address8 address.toNat ++ 32 :: hexValues values)
    commanderCommands registry [command] selector "write_memory" true

/-- `Path(path).suffix.lower()` of a text that is compared with ASCII ones -/
def suffixLower (path : PyStr) : PyStr :=
  let name := (path.reverse.takeWhile fun c => c.val ≠ 47).reverse
  let ending := (name.reverse.takeWhile fun c => c.val ≠ 46).reverse
  if ending.length + 1 < name.length ∧ ending ≠ [] then 46 :: lowerAscii ending else []

def hasSuffix (path : PyStr) (suffixes : List String) : Bool :=
  suffixes.any fun suffix => suffixLower path = PyStr.ofString suffix

def verifyBinary (path : PyStr) (address : Int) (selector : DeviceSelector) : Coroutine CommandResult := do
  let artifact ← files (.allowedPath path)
  if !hasSuffix artifact [".bin"] || address < 0 then
    raiseValue "verification requires a BIN and destination address"
  else
    let operands := quoted artifact ++ PyStr.ofString ", 0x" ++ hexUpper address.toNat
    commanderCommands registry [withOperands "VerifyBin" operands] selector "verify_binary" false

/-- `_READ_ONLY_COMMANDER_COMMANDS` -/
def readOnlyCommanderCommands : List String :=
  ["mem", "mem8", "mem16", "mem32", "rreg", "regs", "savebin", "showconf", "showemulist", "showfwinfo",
    "showhwstatus", "sworead", "swospeed", "swostat", "uptime", "verifybin"]

/-- A blank of ASCII. -/
def isBlank (c : CodePoint) : Bool := c.val = 32 || (9 ≤ c.val && c.val ≤ 13)

/-- The first word of a command, in lower case. -/
def commandName (command : PyStr) : PyStr := lowerAscii ((command.dropWhile isBlank).takeWhile fun c => !isBlank c)

/-- The names of the commands of Commander with which the sources program or erase flash. -/
def flashCommandNames : List String := ["loadfile", "loadbin", "erase"]

def changesFlash (command : PyStr) : Bool :=
  flashCommandNames.any fun name => commandName command = PyStr.ofString name

/-- A run of Commander that programs or erases flash. -/
def Call.changesFlash : Call → Bool
  | .commander commands _ => commands.any Service.changesFlash
  | _ => false

def raw (commands : List PyStr) (selector : DeviceSelector) (destructive : Bool) : Coroutine CommandResult :=
  let derivedDestructive := commands.any fun command =>
    commandName command ≠ [] &&
      !(readOnlyCommanderCommands.any fun name => commandName command = PyStr.ofString name)
  commanderCommands registry commands selector "raw_commander" (destructive || derivedDestructive)

end commands

/-- The name of a command with operands, where the name is a word. -/
theorem commandName_withOperands {command : String} (operands : PyStr) (nonempty : PyStr.ofString command ≠ [])
    (word : ∀ c ∈ PyStr.ofString command, isBlank c = false) :
    commandName (withOperands command operands) = lowerAscii (PyStr.ofString command) := by
  rw [commandName, withOperands]
  generalize PyStr.ofString command = name at nonempty word
  have hdrop : (name ++ 32 :: operands).dropWhile isBlank = name ++ 32 :: operands := by
    obtain ⟨c, rest, rfl⟩ := List.exists_cons_of_ne_nil nonempty
    have hc := word c List.mem_cons_self
    exact List.dropWhile_cons_of_neg (by rw [hc]; exact Bool.false_ne_true)
  have htake : (name ++ 32 :: operands).takeWhile (fun c => !isBlank c) = name := by
    have hstop : (32 :: operands : PyStr).takeWhile (fun c => !isBlank c) = [] :=
      List.takeWhile_cons_of_neg (by decide)
    rw [List.takeWhile_append_of_pos fun c hc => by rw [word c hc]; rfl, hstop, List.append_nil]
  rw [hdrop, htake]

/-- A word that is the name of no command that changes flash. -/
def harmlessName (command : String) : Bool :=
  PyStr.ofString command ≠ [] && (PyStr.ofString command).all (fun c => !isBlank c) &&
    flashCommandNames.all fun name => lowerAscii (PyStr.ofString command) ≠ PyStr.ofString name

theorem changesFlash_withOperands {command : String} (operands : PyStr) (h : harmlessName command = true) :
    changesFlash (withOperands command operands) = false := by
  rw [harmlessName, Bool.and_eq_true, Bool.and_eq_true] at h
  obtain ⟨⟨nonempty, word⟩, other⟩ := h
  have hname : commandName (withOperands command operands) = lowerAscii (PyStr.ofString command) := by
    refine commandName_withOperands operands (of_decide_eq_true nonempty) fun c hc => ?_
    have hc := List.all_eq_true.mp word c hc
    rwa [Bool.not_eq_true'] at hc
  rw [changesFlash, hname, List.any_eq_false]
  intro name hmem hsame
  have hother := List.all_eq_true.mp other name hmem
  exact of_decide_eq_true hother (of_decide_eq_true hsame)

end JLinkMcp.Service
