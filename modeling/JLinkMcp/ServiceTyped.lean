import JLinkMcp.ServiceCommands
import JLinkMcp.SecurityPaths

namespace JLinkMcp.Service

open Host Audit Security

/-- `str.isalnum()` of a character, of which the letters and digits of ASCII are known and that no space has it. -/
structure Alphanumeric where
  isalnum : CodePoint → Bool
  ascii : ∀ c, c.val < 128 → isalnum c = (isLetter c || isDigit c)
  unspaced : ∀ c, isalnum c = true → isSpace c = false

/-- The commands that a typed request generates, or the text of its `ValueError`. -/
abbrev Generated := Except String (List PyStr)

/-- `f"0x{n:08X}"` of any number; the sign is one of the eight. -/
def signedAddress8 (n : Int) : PyStr :=
  if n < 0 then PyStr.ofString "0x-" ++ List.replicate (7 - (hexUpper n.natAbs).length) 48 ++ hexUpper n.natAbs
  else address8 n.toNat

/-- `f"0x{n:X}"` -/
def hexText (n : Int) : PyStr := PyStr.ofString "0x" ++ hexUpper n.toNat

/-- `text.upper()` of a text that is compared with ASCII ones -/
def upperAscii (text : PyStr) : PyStr :=
  text.map fun c => if 97 ≤ c.val ∧ c.val ≤ 122 then Fin.ofNat 0x110000 (c.val - 32) else c

section commands

def resetCommands (halt : Bool) (resetType : Option Int) : Generated :=
  if resetType.any fun n => ¬(0 ≤ n ∧ n ≤ 15) then .error "reset_type must be between 0 and 15"
  else
    let setType := (resetType.map fun n => withOperands "RSetType" (dumpsInt n)).toList
    .ok (setType ++ (if halt then ["Reset", "Halt"] else ["Reset", "Go"]).map PyStr.ofString)

def stepCommands (count : Int) : Generated :=
  if ¬(1 ≤ count ∧ count ≤ 10000) then .error "count must be between 1 and 10000"
  else .ok (("Halt" :: List.replicate count.toNat "Step" ++ ["Regs"]).map PyStr.ofString)

def readMemoryCommands (address count width : Int) : Generated :=
  if address < 0 ∨ count < 1 ∨ 65536 < count then .error "invalid address or count"
  else if width ∉ [8, 16, 32] then .error "width must be 8, 16, or 32"
  else .ok [withOperands s!"Mem{width.toNat}" (address8 address.toNat ++ 32 :: decimal count.toNat)]

def writeMemoryCommands (address : Int) (values : List Int) (width : Int) : Generated :=
  if address < 0 ∨ values = [] ∨ 4096 < values.length then .error "invalid address or values"
  else if width ∉ [8, 16, 32] then .error "width must be 8, 16, or 32"
  else if values.any fun value => value < 0 ∨ 2 ^ width.toNat - 1 < value then
    .error s!"values must fit in {width.toNat} bits"
  else .ok [withOperands s!"W{width.toNat / 8}" (address8 address.toNat ++ 32 :: hexValues values)]

def setBreakpointCommands (address : Int) : Generated := .ok [withOperands "SetBP" (signedAddress8 address)]

/-- `name.replace("_", "").isalnum() and len(name) <= 32` -/
def isRegisterName (unicode : Alphanumeric) (name : PyStr) : Bool :=
  let letters := name.filter fun c => c.val ≠ 95
  letters ≠ [] && letters.all unicode.isalnum && name.length ≤ 32

def readRegisterCommands (unicode : Alphanumeric) (name : PyStr) : Generated :=
  if !isRegisterName unicode name then .error "invalid register name" else .ok [withOperands "RReg" name]

def writeRegisterCommands (unicode : Alphanumeric) (name : PyStr) (value : Int) : Generated :=
  if !isRegisterName unicode name then .error "invalid register name"
  else if value < 0 ∨ 0xFFFFFFFFFFFFFFFF < value then .error "register value is out of range"
  else .ok [withOperands "WReg" (name ++ PyStr.ofString ", " ++ hexText value)]

def setWatchpointCommands (address : Int) (access : PyStr) : Generated :=
  if address < 0 ∨ upperAscii access ∉ ["R", "W"].map PyStr.ofString then
    .error "invalid watchpoint address or access"
  else .ok [withOperands "SetWP" (address8 address.toNat ++ 32 :: upperAscii access)]

/-- Clearing by a handle. -/
def clearCommands (command message : String) (handle : Int) : Generated :=
  if handle < 0 ∨ 255 < handle then .error message else .ok [withOperands command (dumpsInt handle)]

def clearWatchpointCommands (handle : Int) : Generated := clearCommands "ClearWP" "invalid watchpoint handle" handle

def clearBreakpointCommands (handle : Int) : Generated := clearCommands "ClearBP" "invalid breakpoint handle" handle

def eraseFlashCommands : Option Int → Option Int → Generated
  | none, none => .ok [PyStr.ofString "Erase"]
  | some start, some stop =>
    if start < 0 ∨ stop ≤ start then .error "invalid erase range"
    else .ok [withOperands "Erase" (hexText start ++ PyStr.ofString ", " ++ hexText stop)]
  | _, _ => .error "start and end must be provided together"

def swoCommands (action : PyStr) (speedHz : Option Int) (captureMs : Int) : Generated :=
  let action := Security.lowerAscii action
  if action = PyStr.ofString "speeds" then .ok [PyStr.ofString "SWOSpeed"]
  else if action = PyStr.ofString "status" then .ok [PyStr.ofString "SWOStat"]
  else if action = PyStr.ofString "stop" then .ok [PyStr.ofString "SWOStop"]
  else if action = PyStr.ofString "capture" then
    if ¬(1 ≤ captureMs ∧ captureMs ≤ 300000) then .error "capture_ms must be between 1 and 300000"
    else if speedHz.any fun speed => ¬(1 ≤ speed ∧ speed ≤ 4000000) then
      .error "EDU Mini SWO speed cannot exceed 4 MHz"
    else
      let start :=
        match speedHz with
        | none => PyStr.ofString "SWOStart"
        | some speed => withOperands "SWOStart" (dumpsInt speed)
      .ok [start, withOperands "Sleep" (dumpsInt captureMs), PyStr.ofString "SWORead", PyStr.ofString "SWOStop"]
  else .error "action must be speeds, status, stop, or capture"

end commands

/-- The typed requests for Commander, with their arguments. -/
inductive TypedRequest where
  | reset (halt : Bool) (resetType : Option Int)
  | step (count : Int)
  | readMemory (address count width : Int)
  | writeMemory (address : Int) (values : List Int) (width : Int)
  | setBreakpoint (address : Int)
  | clearBreakpoint (handle : Int)
  | readRegister (name : PyStr)
  | writeRegister (name : PyStr) (value : Int)
  | setWatchpoint (address : Int) (access : PyStr)
  | clearWatchpoint (handle : Int)
  | eraseFlash (start stop : Option Int)
  | swo (action : PyStr) (speedHz : Option Int) (captureMs : Int)

/-- What the checks of the request's arguments let through. -/
def TypedRequest.commands (unicode : Alphanumeric) : TypedRequest → Generated
  | reset halt resetType => resetCommands halt resetType
  | step count => stepCommands count
  | readMemory address count width => readMemoryCommands address count width
  | writeMemory address values width => writeMemoryCommands address values width
  | setBreakpoint address => setBreakpointCommands address
  | clearBreakpoint handle => clearBreakpointCommands handle
  | readRegister name => readRegisterCommands unicode name
  | writeRegister name value => writeRegisterCommands unicode name value
  | setWatchpoint address access => setWatchpointCommands address access
  | clearWatchpoint handle => clearWatchpointCommands handle
  | eraseFlash start stop => eraseFlashCommands start stop
  | swo action speedHz captureMs => swoCommands action speedHz captureMs

section texts

variable {unicode : Alphanumeric} {text before : PyStr} {c : CodePoint}

/-- A word that no check of a command's text refuses. -/
structure Word (text : PyStr) : Prop where
  nonempty : text ≠ []
  plain : ∀ c ∈ text, isPlain c = true
  unspaced : ∀ c ∈ text, isSpace c = false

/-- Operands that no check of a command's text refuses, and that end with a word. -/
structure Operands (text : PyStr) : Prop where
  plain : ∀ c ∈ text, isPlain c = true
  last : ∃ before c, text = before ++ [c] ∧ isSpace c = false

theorem Word.operands (h : Word text) : Operands text := by
  refine ⟨h.plain, text.dropLast, text.getLast h.nonempty, (List.dropLast_concat_getLast h.nonempty).symm, ?_⟩
  exact h.unspaced _ (List.getLast_mem h.nonempty)

theorem Operands.append (h : Operands text) (hbefore : ∀ c ∈ before, isPlain c = true) :
    Operands (before ++ text) := by
  obtain ⟨initial, c, rfl, hc⟩ := h.last
  refine ⟨fun other hother => ?_, before ++ initial, c, (List.append_assoc _ _ _).symm, hc⟩
  rcases List.mem_append.mp hother with hother | hother
  · exact hbefore other hother
  · exact h.plain other hother

theorem Word.append (h : Word text) (hbefore : Word before) : Word (before ++ text) := by
  refine ⟨fun hnil => h.nonempty (List.append_eq_nil_iff.mp hnil).2, fun c hc => ?_, fun c hc => ?_⟩
  · exact (List.mem_append.mp hc).elim (hbefore.plain c) (h.plain c)
  · exact (List.mem_append.mp hc).elim (hbefore.unspaced c) (h.unspaced c)

/-- Letters, digits, the underline and the signs of numbers. -/
def isWordChar (c : CodePoint) : Bool := isLetter c || isDigit c || c.val = 95 || c.val = 45

theorem plain_of_isWordChar (h : isWordChar c = true) : isPlain c = true ∧ isSpace c = false := by
  simp only [isWordChar, isLetter, isDigit, Bool.or_eq_true, Bool.and_eq_true, decide_eq_true_eq] at h
  constructor
  · apply isPlain_of_not_mem
    simp only [List.mem_cons, List.not_mem_nil, or_false]
    omega
  · simp only [isSpace, Bool.or_eq_false_iff, Bool.and_eq_false_iff, decide_eq_false_iff_not]
    omega

theorem word_of_isWordChar (nonempty : text ≠ []) (h : ∀ c ∈ text, isWordChar c = true) : Word text :=
  ⟨nonempty, fun c hc => (plain_of_isWordChar (h c hc)).1, fun c hc => (plain_of_isWordChar (h c hc)).2⟩

theorem mem_toDigits_sixteen (n : Nat) : ∀ c ∈ Nat.toDigits 16 n, c ∈ "0123456789abcdef".toList := by
  have hdigit : ∀ d < 16, Nat.digitChar d ∈ "0123456789abcdef".toList := by decide
  induction n using Nat.strongRecOn with
  | ind n ih =>
    rw [Nat.toDigits_eq_if (by decide)]
    split
    next hlt =>
      intro c hc
      rw [List.mem_singleton.mp hc]
      exact hdigit n hlt
    next hge =>
      intro c hc
      rcases List.mem_append.mp hc with hc | hc
      · exact ih (n / 16) (by omega) c hc
      · rw [List.mem_singleton.mp hc]
        exact hdigit _ (Nat.mod_lt n (by decide))

theorem hexUpper_word (n : Nat) : Word (hexUpper n) := by
  have hchar : "0123456789abcdef".toList.all (fun c => isWordChar (Fin.ofNat 0x110000 c.toUpper.toNat)) = true := by
    decide
  refine word_of_isWordChar (fun h => Nat.toDigits_ne_nil (List.map_eq_nil_iff.mp h)) fun c hc => ?_
  obtain ⟨digit, hdigit, rfl⟩ := List.mem_map.mp hc
  exact List.all_eq_true.mp hchar digit (mem_toDigits_sixteen n digit hdigit)

theorem zeros_isWordChar (n : Nat) : ∀ c ∈ List.replicate n (48 : CodePoint), isWordChar c = true := by
  intro c hc
  rw [List.eq_of_mem_replicate hc]
  rfl

/-- A literal of letters, digits and signs. -/
theorem ofString_word {literal : String}
    (h : ((PyStr.ofString literal).isEmpty || !(PyStr.ofString literal).all isWordChar) = false) :
    Word (PyStr.ofString literal) := by
  rw [Bool.or_eq_false_iff, Bool.not_eq_false'] at h
  refine word_of_isWordChar (fun hnil => ?_) (List.all_eq_true.mp h.2)
  rw [hnil] at h
  cases h.1

/-- What both validators leave unchanged. -/
structure Accepted (text : PyStr) : Prop where
  command : validateRawCommand text = .ok text
  paths : ∀ files roots, validateEmbeddedPaths files roots text = .ok ()

/-- The name of a command, without question marks. -/
def isTypedName (name : String) : Bool :=
  isCommandName (PyStr.ofString name) && (PyStr.ofString name).all isWordChar

theorem accepted_of_plain (nonempty : text ≠ []) (plain : ∀ c ∈ text, isPlain c = true) (hstrip : strip text = text)
    (named : isCommandName (firstWord text) = true) : Accepted text := by
  refine ⟨?_, fun files roots => validateEmbeddedPaths_plain plain⟩
  rw [validateRawCommand, hstrip, if_neg nonempty, isDangerous_plain plain, named]
  rfl

theorem accepted_withOperands {name : String} (hname : isTypedName name = true) (h : Operands text) :
    Accepted (withOperands name text) := by
  rw [isTypedName, Bool.and_eq_true] at hname
  obtain ⟨hcommand, hword⟩ := hname
  rw [withOperands]
  generalize PyStr.ofString name = letters at hcommand hword
  have hletters : ∀ c ∈ letters, isPlain c = true ∧ isSpace c = false := fun c hc =>
    plain_of_isWordChar (List.all_eq_true.mp hword c hc)
  have hfirst : firstWord (letters ++ 32 :: text) = letters :=
    firstWord_append (fun c hc => (hletters c hc).2) rfl
  have hplain : ∀ c ∈ letters ++ 32 :: text, isPlain c = true := by
    intro c hc
    rcases List.mem_append.mp hc with hc | hc
    · exact (hletters c hc).1
    · rcases List.mem_cons.mp hc with rfl | hc
      · rfl
      · exact h.plain c hc
  have hstrip : strip (letters ++ 32 :: text) = letters ++ 32 :: text := by
    obtain ⟨before, last, rfl, hlast⟩ := h.last
    cases letters with
    | nil => cases hcommand
    | cons initial others =>
      have hsplit : initial :: others ++ 32 :: (before ++ [last]) = initial ::
          (others ++ 32 :: before) ++ [last] := by
        simp only [List.cons_append, List.append_assoc]
      rw [hsplit]
      exact strip_between (hletters initial List.mem_cons_self).2 hlast
  refine accepted_of_plain (fun hnil => ?_) hplain hstrip (by rwa [hfirst])
  cases (List.append_eq_nil_iff.mp hnil).2

/-- A command without operands that is a word. -/
def isBareCommand (name : String) : Bool :=
  isTypedName name && PyStr.ofString name ≠ [] && strip (PyStr.ofString name) = PyStr.ofString name &&
    firstWord (PyStr.ofString name) = PyStr.ofString name

theorem accepted_bare {name : String} (h : isBareCommand name = true) : Accepted (PyStr.ofString name) := by
  rw [isBareCommand, Bool.and_eq_true, Bool.and_eq_true, Bool.and_eq_true, decide_eq_true_eq, decide_eq_true_eq,
    decide_eq_true_eq, isTypedName, Bool.and_eq_true] at h
  obtain ⟨⟨⟨⟨hcommand, hword⟩, nonempty⟩, hstrip⟩, hfirst⟩ := h
  refine accepted_of_plain nonempty (fun c hc => ?_) hstrip (by rwa [hfirst])
  exact (plain_of_isWordChar (List.all_eq_true.mp hword c hc)).1

theorem decimalText_word (n : Nat) : Word (decimalText n) := by
  refine word_of_isWordChar (fun h => Nat.toDigits_ne_nil (List.map_eq_nil_iff.mp h)) fun c hc => ?_
  have hdigit := decimalText_digits n c hc
  simp only [isAsciiDigit, Bool.and_eq_true, decide_eq_true_eq] at hdigit
  simp only [isWordChar, isDigit, Bool.or_eq_true, Bool.and_eq_true, decide_eq_true_eq]
  omega

theorem dumpsInt_word (n : Int) : Word (dumpsInt n) := by
  rw [dumpsInt]
  split
  · exact (decimalText_word n.natAbs).append (word_of_isWordChar (List.cons_ne_nil _ _) fun c hc => by
      rw [List.mem_singleton.mp hc]
      rfl)
  · exact decimalText_word n.natAbs

theorem prefixed_word {literal : String} (h : (PyStr.ofString literal).all isWordChar = true) (zeros n : Nat) :
    Word (PyStr.ofString literal ++ List.replicate zeros 48 ++ hexUpper n) := by
  have hhex := hexUpper_word n
  refine ⟨fun hnil => hhex.nonempty (List.append_eq_nil_iff.mp hnil).2, fun c hc => ?_, fun c hc => ?_⟩
  all_goals
    rcases List.mem_append.mp hc with hc | hc
    · have hchar : isWordChar c = true := by
        rcases List.mem_append.mp hc with hc | hc
        · exact List.all_eq_true.mp h c hc
        · exact zeros_isWordChar zeros c hc
      first
      | exact (plain_of_isWordChar hchar).1
      | exact (plain_of_isWordChar hchar).2
    · first
      | exact hhex.plain c hc
      | exact hhex.unspaced c hc

theorem address8_word (n : Nat) : Word (address8 n) := prefixed_word (by decide) _ n

theorem signedAddress8_word (n : Int) : Word (signedAddress8 n) := by
  rw [signedAddress8]
  split
  · exact prefixed_word (by decide) _ n.natAbs
  · exact address8_word n.toNat

theorem hexText_word (n : Int) : Word (hexText n) := by
  have hword : Word (PyStr.ofString "0x" ++ List.replicate 0 48 ++ hexUpper n.toNat) :=
    prefixed_word (by decide) 0 n.toNat
  rwa [List.replicate_zero, List.append_nil] at hword

/-- A word, a blank and more operands. -/
theorem Operands.spaced (h : Operands text) (hbefore : Word before) : Operands (before ++ 32 :: text) := by
  have hblank : Operands ([32] ++ text) := h.append fun c hc => by
    rw [List.mem_singleton.mp hc]
    rfl
  exact hblank.append hbefore.plain

theorem hexValues_operands {values : List Int} (nonempty : values ≠ []) : Operands (hexValues values) := by
  induction values with
  | nil => exact absurd rfl nonempty
  | cons value values ih =>
    cases values with
    | nil =>
      have hsingle : hexValues [value] = hexText value := List.append_nil _
      rw [hsingle]
      exact (hexText_word value).operands
    | cons next values =>
      have hmore : hexValues (value :: next :: values) = hexText value ++ 32 :: hexValues (next :: values) := rfl
      rw [hmore]
      exact (ih (List.cons_ne_nil _ _)).spaced (hexText_word value)

/-- The name of a register in a command. -/
theorem isRegisterName_word (h : isRegisterName unicode text = true) : Word text := by
  rw [isRegisterName, Bool.and_eq_true, Bool.and_eq_true, decide_eq_true_eq] at h
  obtain ⟨⟨nonempty, hletters⟩, -⟩ := h
  have hchar : ∀ c ∈ text, isPlain c = true ∧ isSpace c = false := by
    intro c hc
    by_cases hline : c.val = 95
    · refine plain_of_isWordChar ?_
      simp only [isWordChar, Bool.or_eq_true, decide_eq_true_eq]
      omega
    · have halnum := List.all_eq_true.mp hletters c (List.mem_filter.mpr ⟨hc, decide_eq_true hline⟩)
      by_cases hascii : c.val < 128
      · refine plain_of_isWordChar ?_
        rw [unicode.ascii c hascii] at halnum
        rw [isWordChar, halnum]
        rfl
      · refine ⟨?_, unicode.unspaced c halnum⟩
        apply isPlain_of_not_mem
        simp only [List.mem_cons, List.not_mem_nil, or_false]
        omega
  refine ⟨fun hnil => ?_, fun c hc => (hchar c hc).1, fun c hc => (hchar c hc).2⟩
  rw [hnil] at nonempty
  exact nonempty rfl

end texts

section accepted

variable {unicode : Alphanumeric} {commands : List PyStr} {request : TypedRequest} {operands : PyStr}

/-- A short list of accepted commands. -/
structure AcceptedBatch (commands : List PyStr) : Prop where
  nonempty : commands ≠ []
  short : commands.length ≤ 4
  accepted : ∀ command ∈ commands, Accepted command

theorem accepted_one {name : String} (hname : isTypedName name = true) (h : Operands operands) :
    AcceptedBatch [withOperands name operands] := by
  refine ⟨List.cons_ne_nil _ _, Nat.le_add_left 1 3, fun command hcommand => ?_⟩
  rw [List.mem_singleton.mp hcommand]
  exact accepted_withOperands hname h

theorem accepted_bare_all {names : List String} (h : names.all isBareCommand = true) :
    ∀ command ∈ names.map PyStr.ofString, Accepted command := by
  intro command hcommand
  obtain ⟨name, hname, rfl⟩ := List.mem_map.mp hcommand
  exact accepted_bare (List.all_eq_true.mp h name hname)

theorem accepted_name {name : String} (h : isBareCommand name = true) : AcceptedBatch [PyStr.ofString name] := by
  refine ⟨List.cons_ne_nil _ _, Nat.le_add_left 1 3, fun command hcommand => ?_⟩
  rw [List.mem_singleton.mp hcommand]
  exact accepted_bare h

theorem resetCommands_accepted {halt : Bool} {resetType : Option Int}
    (h : resetCommands halt resetType = .ok commands) : AcceptedBatch commands := by
  rw [resetCommands] at h
  split at h
  next => cases h
  next =>
    obtain rfl := Except.ok.inj h
    have hbare : (if halt then ["Reset", "Halt"] else ["Reset", "Go"]).all isBareCommand = true := by
      cases halt <;> decide
    refine ⟨?_, ?_, fun command hcommand => ?_⟩
    · cases halt <;> exact List.append_ne_nil_of_right_ne_nil _ (List.cons_ne_nil _ _)
    · have hset : (resetType.map fun n => withOperands "RSetType" (dumpsInt n)).toList.length ≤ 1 := by
        cases resetType with
        | none => exact Nat.zero_le 1
        | some n => exact Nat.le_refl 1
      have hgo : (if halt then ["Reset", "Halt"] else ["Reset", "Go"]).length = 2 := by cases halt <;> rfl
      rw [List.length_append, List.length_map, hgo]
      omega
    · rcases List.mem_append.mp hcommand with hcommand | hcommand
      · cases resetType with
        | none => cases hcommand
        | some n =>
          rw [List.mem_singleton.mp hcommand]
          exact accepted_withOperands (by decide) (dumpsInt_word n).operands
      · exact accepted_bare_all hbare command hcommand

theorem stepCommands_accepted {count : Int} (h : stepCommands count = .ok commands) :
    (∀ command ∈ commands, Accepted command) ∧ commands.length = count.toNat + 2 := by
  rw [stepCommands] at h
  split at h
  next => cases h
  next =>
    obtain rfl := Except.ok.inj h
    constructor
    · apply accepted_bare_all
      rw [List.all_append, List.all_cons, List.all_replicate]
      have hhalt : isBareCommand "Halt" = true := by decide
      have hstep : isBareCommand "Step" = true := by decide
      have hregs : ["Regs"].all isBareCommand = true := by decide
      rw [hhalt, hstep, hregs]
      split <;> rfl
    · rw [List.length_map, List.length_append, List.length_cons, List.length_replicate]
      rfl

theorem readMemoryCommands_accepted {address count width : Int}
    (h : readMemoryCommands address count width = .ok commands) : AcceptedBatch commands := by
  rw [readMemoryCommands] at h
  split at h
  next => cases h
  next =>
    split at h
    next => cases h
    next hwidth =>
      obtain rfl := Except.ok.inj h
      have hname : isTypedName s!"Mem{width.toNat}" = true := by
        simp only [List.mem_cons, List.not_mem_nil, or_false, not_not] at hwidth
        rcases hwidth with rfl | rfl | rfl <;> decide
      exact accepted_one hname ((decimalText_word count.toNat).operands.spaced (address8_word address.toNat))

theorem writeMemoryCommands_accepted {address width : Int} {values : List Int}
    (h : writeMemoryCommands address values width = .ok commands) : AcceptedBatch commands := by
  rw [writeMemoryCommands] at h
  split at h
  next => cases h
  next hvalues =>
    split at h
    next => cases h
    next hwidth =>
      split at h
      next => cases h
      next =>
        obtain rfl := Except.ok.inj h
        have hname : isTypedName s!"W{width.toNat / 8}" = true := by
          simp only [List.mem_cons, List.not_mem_nil, or_false, not_not] at hwidth
          rcases hwidth with rfl | rfl | rfl <;> decide
        have nonempty : values ≠ [] := fun hnil => hvalues (Or.inr (Or.inl hnil))
        exact accepted_one hname ((hexValues_operands nonempty).spaced (address8_word address.toNat))

theorem readRegisterCommands_accepted {name : PyStr} (h : readRegisterCommands unicode name = .ok commands) :
    AcceptedBatch commands := by
  rw [readRegisterCommands] at h
  split at h
  next => cases h
  next hname =>
    obtain rfl := Except.ok.inj h
    rw [Bool.not_eq_true', Bool.not_eq_false] at hname
    exact accepted_one (by decide) (isRegisterName_word hname).operands

theorem isPlain_comma : ∀ c ∈ PyStr.ofString ", ", isPlain c = true := by
  have hall : (PyStr.ofString ", ").all isPlain = true := by decide
  exact List.all_eq_true.mp hall

theorem writeRegisterCommands_accepted {name : PyStr} {value : Int}
    (h : writeRegisterCommands unicode name value = .ok commands) : AcceptedBatch commands := by
  rw [writeRegisterCommands] at h
  split at h
  next => cases h
  next hname =>
    split at h
    next => cases h
    next =>
      obtain rfl := Except.ok.inj h
      rw [Bool.not_eq_true', Bool.not_eq_false] at hname
      have hoperands := ((hexText_word value).operands.append isPlain_comma).append
          (isRegisterName_word hname).plain
      rw [← List.append_assoc] at hoperands
      exact accepted_one (by decide) hoperands

theorem setWatchpointCommands_accepted {address : Int} {access : PyStr}
    (h : setWatchpointCommands address access = .ok commands) : AcceptedBatch commands := by
  rw [setWatchpointCommands] at h
  split at h
  next => cases h
  next haccess =>
    obtain rfl := Except.ok.inj h
    have hmem : upperAscii access ∈ ["R", "W"].map PyStr.ofString := by
      by_cases hmem : upperAscii access ∈ ["R", "W"].map PyStr.ofString
      · exact hmem
      · exact absurd (Or.inr hmem) haccess
    obtain ⟨letter, hletter, haccess⟩ := List.mem_map.mp hmem
    rw [← haccess]
    have hword : Word (PyStr.ofString letter) := by
      apply ofString_word
      rcases List.mem_cons.mp hletter with rfl | hletter
      · decide
      · rw [List.mem_singleton.mp hletter]
        decide
    exact accepted_one (by decide) (hword.operands.spaced (address8_word address.toNat))

theorem clearCommands_accepted {command message : String} {handle : Int} (hname : isTypedName command = true)
    (h : clearCommands command message handle = .ok commands) : AcceptedBatch commands := by
  rw [clearCommands] at h
  split at h
  next => cases h
  next =>
    obtain rfl := Except.ok.inj h
    exact accepted_one hname (dumpsInt_word handle).operands

theorem eraseFlashCommands_accepted {start stop : Option Int} (h : eraseFlashCommands start stop = .ok commands) :
    AcceptedBatch commands := by
  cases start with
  | none =>
    cases stop with
    | none =>
      obtain rfl := Except.ok.inj h
      exact accepted_name (by decide)
    | some stop => cases h
  | some start =>
    cases stop with
    | none => cases h
    | some stop =>
      rw [eraseFlashCommands] at h
      split at h
      next => cases h
      next =>
        obtain rfl := Except.ok.inj h
        have hoperands := ((hexText_word stop).operands.append isPlain_comma).append (hexText_word start).plain
        rw [← List.append_assoc] at hoperands
        exact accepted_one (by decide) hoperands

theorem swoCommands_accepted {action : PyStr} {speedHz : Option Int} {captureMs : Int}
    (h : swoCommands action speedHz captureMs = .ok commands) :
    AcceptedBatch commands := by
  have hstart : isBareCommand "SWOStart" = true := by decide
  have hread : ["SWORead", "SWOStop"].all isBareCommand = true := by decide
  unfold swoCommands at h
  dsimp only at h
  split at h
  next =>
    obtain rfl := Except.ok.inj h
    exact accepted_name (by decide)
  next =>
    split at h
    next =>
      obtain rfl := Except.ok.inj h
      exact accepted_name (by decide)
    next =>
      split at h
      next =>
        obtain rfl := Except.ok.inj h
        exact accepted_name (by decide)
      next =>
        split at h
        next =>
          split at h
          next => cases h
          next =>
            split at h
            next => cases h
            next =>
              obtain rfl := Except.ok.inj h
              refine ⟨List.cons_ne_nil _ _, Nat.le_refl 4, fun command hcommand => ?_⟩
              rcases List.mem_cons.mp hcommand with rfl | hcommand
              · cases speedHz with
                | none => exact accepted_bare hstart
                | some speed => exact accepted_withOperands (by decide) (dumpsInt_word speed).operands
              · rcases List.mem_cons.mp hcommand with rfl | hcommand
                · exact accepted_withOperands (by decide) (dumpsInt_word captureMs).operands
                · exact accepted_bare_all hread command hcommand
        next => cases h

/-- The requests whose commands are not too many for one run. -/
def TypedRequest.fits : TypedRequest → Bool
  | step count => count ≤ 254
  | _ => true

theorem commands_accepted (h : request.commands unicode = .ok commands) : commands ≠ [] ∧
    (∀ command ∈ commands, Accepted command) ∧ (commands.length ≤ 256 ↔ request.fits = true) := by
  have hbatch (hbatch : AcceptedBatch commands) (hfits : request.fits = true) : commands ≠ [] ∧
      (∀ command ∈ commands, Accepted command) ∧ (commands.length ≤ 256 ↔ request.fits = true) := by
    have hshort := hbatch.short
    exact ⟨hbatch.nonempty, hbatch.accepted, fun _ => hfits, fun _ => by omega⟩
  cases request with
  | reset halt resetType => exact hbatch (resetCommands_accepted h) rfl
  | step count =>
    obtain ⟨haccepted, hlength⟩ := stepCommands_accepted h
    refine ⟨List.ne_nil_of_length_pos (by omega), haccepted, ?_⟩
    rw [hlength, TypedRequest.fits, decide_eq_true_eq]
    omega
  | readMemory address count width => exact hbatch (readMemoryCommands_accepted h) rfl
  | writeMemory address values width => exact hbatch (writeMemoryCommands_accepted h) rfl
  | setBreakpoint address =>
    obtain rfl := Except.ok.inj h
    exact hbatch (accepted_one (by decide) (signedAddress8_word address).operands) rfl
  | clearBreakpoint handle => exact hbatch (clearCommands_accepted (by decide) h) rfl
  | readRegister name => exact hbatch (readRegisterCommands_accepted h) rfl
  | writeRegister name value => exact hbatch (writeRegisterCommands_accepted h) rfl
  | setWatchpoint address access => exact hbatch (setWatchpointCommands_accepted h) rfl
  | clearWatchpoint handle => exact hbatch (clearCommands_accepted (by decide) h) rfl
  | eraseFlash start stop => exact hbatch (eraseFlashCommands_accepted h) rfl
  | swo action speedHz captureMs => exact hbatch (swoCommands_accepted h) rfl

/-- The commands of a typed request pass unchanged, except for too many steps. -/
theorem typed_validated_iff (files : FileSystem) (roots : Option Roots)
    (h : request.commands unicode = .ok commands) :
    validateRawCommands files roots 256 commands = .ok commands ↔ request.fits = true := by
  obtain ⟨nonempty, haccepted, hlength⟩ := commands_accepted h
  have hvalidated : commands.mapM validateRawCommand = .ok commands := by
    have hmap : commands.mapM validateRawCommand = .ok (commands.map id) :=
      Except.mapM_ok fun command hcommand => (haccepted command hcommand).command
    rwa [List.map_id] at hmap
  rw [validateRawCommands_ok, ← hlength]
  constructor
  · rintro ⟨-, -, hlimit, -⟩
    exact hlimit
  · intro hlimit
    exact ⟨hvalidated, nonempty, hlimit, fun settings _ command hcommand =>
      (haccepted command hcommand).paths files settings⟩

/-- The letters and digits of ASCII alone. -/
def asciiAlphanumeric : Alphanumeric where
  isalnum c := isLetter c || isDigit c
  ascii _ _ := rfl
  unspaced c h := by
    have hword : isWordChar c = true := by
      rw [isWordChar, h]
      rfl
    exact (plain_of_isWordChar hword).2

theorem typed_validated_iff_writeRegister :
    validateRawCommands fullDisk (some sampleRoots) 256 [PyStr.ofString "WReg R0, 0xFF"] =
        .ok [PyStr.ofString "WReg R0, 0xFF"] ↔
      (TypedRequest.writeRegister (PyStr.ofString "R0") 255).fits = true :=
  @typed_validated_iff asciiAlphanumeric _ (.writeRegister (PyStr.ofString "R0") 255) fullDisk (some sampleRoots)
    (by decide)

/-- So many steps pass the check of their number, and are too many commands. -/
theorem step_not_validated :
    (TypedRequest.step 255).commands asciiAlphanumeric =
        .ok (("Halt" :: List.replicate 255 "Step" ++ ["Regs"]).map PyStr.ofString) ∧
      validateRawCommands fullDisk (some sampleRoots) 256
          (("Halt" :: List.replicate 255 "Step" ++ ["Regs"]).map PyStr.ofString) =
        .error (.tooManyCommands 256) := by
  have hcommands : stepCommands 255 = .ok
      (("Halt" :: List.replicate 255 "Step" ++ ["Regs"]).map PyStr.ofString) := by
    decide +kernel
  exact ⟨hcommands, by decide +kernel⟩

end accepted

end JLinkMcp.Service
