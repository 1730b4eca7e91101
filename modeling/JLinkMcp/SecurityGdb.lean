import JLinkMcp.SecurityText
import Mathlib.Data.List.Infix

namespace JLinkMcp.Security

open Host

section patterns

/-- Whether a character matches one of a pattern, where case is ignored. Unicode has other cases of `i`, `s`
and `k`. -/
def sameLetter (pattern : CodePoint) (c : CodePoint) : Bool :=
  c = pattern || (isLetter pattern && isLetter c && c.val % 32 = pattern.val % 32) ||
    (pattern.is 'i' && (c.val = 0x130 || c.val = 0x131)) || (pattern.is 's' && c.val = 0x17F) ||
    (pattern.is 'k' && c.val = 0x212A)

/-- What is left of the text behind a literal of a pattern. -/
def afterLiteral : PyStr → PyStr → Option PyStr
  | [], text => some text
  | pattern :: patterns, c :: text => if sameLetter pattern c then afterLiteral patterns text else none
  | _ :: _, [] => none

/-- What is left behind `\s+`, whose end is where the next part of the pattern begins. -/
def afterSpaces : PyStr → Option PyStr
  | [] => none
  | c :: text => if isSpace c then some (text.dropWhile isSpace) else none

variable (isalnum : CodePoint → Bool)

/-- `\b` behind a character of a word -/
def atBoundary : PyStr → Bool
  | [] => true
  | c :: _ => !(isalnum c || c.is '_')

/-- A word of the pattern, and `\b`. -/
def matchesWord (word : String) (text : PyStr) : Bool :=
  (afterLiteral (PyStr.ofString word) text).any (atBoundary isalnum)

/-- The words with which a command runs code on the host. -/
def hostWords : List String :=
  ["shell", "pipe", "make", "python-interactive", "python", "guile", "source", "define", "document", "commands",
    "while", "if", "compile", "edit"]

/-- `first\s+second\b` -/
def matchesPair (first second : String) (text : PyStr) : Bool :=
  match (afterLiteral (PyStr.ofString first) text).bind afterSpaces with
  | some rest => matchesWord isalnum second rest
  | none => false

/-- `_GDB_FORBIDDEN.search(text)` -/
def isForbidden (text : PyStr) : Bool :=
  (afterLiteral (PyStr.ofString "!") text).isSome || hostWords.any (fun word => matchesWord isalnum word text) ||
    matchesPair isalnum "set" "environment" text || matchesPair isalnum "unset" "environment" text

/-- `_GDB_INTERPRETER_ESCAPE.search(text)` of a text without line breaks -/
def escapesInterpreter (text : PyStr) : Bool :=
  match (afterLiteral (PyStr.ofString "-interpreter-exec") text).bind afterSpaces with
  | none => false
  | some rest => ["console", "mi"].any fun interpreter =>
    match (afterLiteral (PyStr.ofString interpreter) rest).bind afterSpaces with
    | none => false
    | some command => command.tails.any fun tail =>
      ["shell", "python", "guile", "source", "pipe", "!"].any fun word =>
        (afterLiteral (PyStr.ofString word) tail).isSome

/-- `x/[0-9]*[a-zA-Z]+`, as a whole -/
def isExamine (text : PyStr) : Bool :=
  (PyStr.ofString "x/").isPrefixOf text &&
    let format := (text.drop 2).dropWhile isDigit
    format ≠ [] && format.all isLetter

/-- `_GDB_COMMAND_NAME.fullmatch(text)` -/
def isGdbCommandName (text : PyStr) : Bool :=
  isCommandName (if (PyStr.ofString "-").isPrefixOf text then text.drop 1 else text)

/-- `-interpreter-exec\s+console\s+"monitor(?:\s+[^"\r\n]*)?"`, as the whole of a text without line breaks -/
def isMonitorCommand (text : PyStr) : Bool :=
  match (afterLiteral (PyStr.ofString "-interpreter-exec") text).bind afterSpaces with
  | none => false
  | some rest =>
    match ((afterLiteral (PyStr.ofString "console") rest).bind afterSpaces).bind
      (afterLiteral (PyStr.ofString "\"monitor")) with
    | none => false
    | some operands => operands.getLast? = some 34 &&
      let inner := operands.dropLast
      inner = [] || (inner.head?.any isSpace && inner.all fun c => !c.is '"')

end patterns

section validate

variable (isalnum : CodePoint → Bool)

/-- `_GDB_ALLOWED_MI` -/
def allowedMi : List String :=
  ["-break-", "-data-", "-exec-", "-stack-", "-thread-", "-var-", "-symbol-", "-list-", "-gdb-show", "-gdb-set"]

/-- `_GDB_ALLOWED_CLI` -/
def allowedCli : List String :=
  ["advance", "backtrace", "bt", "break", "clear", "continue", "delete", "disable", "disassemble",
    "display", "down", "enable", "finish", "frame", "info", "interrupt", "jump", "next", "nexti", "print",
    "ptype", "return", "run", "set", "step", "stepi", "tbreak", "thread", "undisplay", "until", "up",
    "watch", "rwatch", "awatch", "where", "x", "monitor"]

/-- The settings of the host and of its paths that `set` must not change. -/
def hostSettings : List String := ["environment", "exec-wrapper", "auto-load", "sysroot", "solib-search-path"]

/-- The command is too large or contains control characters. -/
def isLarge (command : PyStr) : Bool :=
  8192 < command.length || command.any fun c => c.is '\n' || c.is '\r' || c.val = 0

/-- What `validate_gdb_command` checks of the name of a command. -/
def checkGdbName (command : PyStr) : Except Refusal Unit :=
  let first := firstWord command
  let commandName := if isExamine first then PyStr.ofString "x" else first
  if !isGdbCommandName commandName then .error (.invalidGdbName first)
  else if commandName = PyStr.ofString "-interpreter-exec" then
    if isMonitorCommand command then .ok () else .error .onlyMonitor
  else if (PyStr.ofString "-").isPrefixOf commandName then
    if allowedMi.any fun allowed => (PyStr.ofString allowed).isPrefixOf commandName then .ok ()
    else .error (.miNotAllowlisted first)
  else if allowedCli.any fun allowed => lowerAscii commandName = PyStr.ofString allowed then .ok ()
  else .error (.gdbNotAllowlisted first)

/-- `validate_gdb_command`; `isalnum` is that of Unicode. -/
def validateGdbCommand (text : PyStr) : Except Refusal PyStr := do
  let command := strip text
  if command = [] then throw .emptyGdbCommand
  else if isLarge command then throw .largeGdbCommand
  else if isForbidden isalnum command || escapesInterpreter command then throw .hostCode
  else
    checkGdbName command
    if hostSettings.any fun setting => matchesPair isalnum "set" setting command then throw .hostMutation
    else return command

/-- The text is refused as code for the host, or as a change of its environment or paths. -/
def refusedForHost (text : PyStr) : Bool :=
  match validateGdbCommand isalnum text with
  | .error .hostCode | .error .hostMutation => true
  | _ => false

end validate

section wrappers

/-- These words, in whatever case, each with blanks behind it, and the text. -/
def Spelled : List String → PyStr → PyStr → Prop
  | [], text, whole => whole = text
  | word :: words, text, whole => ∃ spelled blanks rest, whole = spelled ++ blanks ++ rest ∧
      lowerAscii spelled = PyStr.ofString word ∧ blanks ≠ [] ∧ (∀ c ∈ blanks, c.val = 32 ∨ c.val = 9) ∧
      Spelled words text rest

/-- The commands of GDB that run a whole command. -/
def wrapperWords : List (List String) :=
  [["thread", "apply", "all"], ["thread", "apply", "1"], ["frame", "apply", "all"]]

/-- The text that makes GDB run a refused command: by a wrapper, or by `-gdb-set` for what `set` must not
change. -/
inductive Wraps (isalnum : CodePoint → Bool) : PyStr → Prop
  | apply {words : List String} {text whole : PyStr} (spaces : PyStr) (wrapper : words ∈ wrapperWords)
      (refused : refusedForHost isalnum text = true) (spelled : Spelled words text whole)
      (blank : ∀ c ∈ spaces, isSpace c = true) : Wraps isalnum (spaces ++ whole)
  | gdbSet {setting : PyStr} (spaces blanks : PyStr)
      (refused : refusedForHost isalnum (PyStr.ofString "set " ++ setting) = true) (separated : blanks ≠ [])
      (blank : ∀ c ∈ spaces ++ blanks, isSpace c = true) :
      Wraps isalnum (spaces ++ PyStr.ofString "-gdb-set" ++ blanks ++ setting)

variable {isalnum : CodePoint → Bool} {word : String} {words : List String} {text whole rest spelled : PyStr}
  {c : CodePoint}

/-- No word of the pattern begins with the character. -/
def misses (word : String) (c : CodePoint) : Bool :=
  (PyStr.ofString word).head?.any fun pattern => !sameLetter pattern c

theorem afterLiteral_of_misses (h : misses word c = true) :
    afterLiteral (PyStr.ofString word) (c :: text) = none := by
  rw [misses] at h
  cases hword : PyStr.ofString word with
  | nil =>
    rw [hword] at h
    cases h
  | cons pattern patterns =>
    rw [hword] at h
    have hpattern : sameLetter pattern c = false := by
      have h : (!sameLetter pattern c) = true := h
      rwa [Bool.not_eq_true'] at h
    rw [afterLiteral, hpattern]
    rfl

/-- What begins none of the forbidden commands. -/
def harmless (c : CodePoint) : Bool := ("!" :: "set" :: "unset" :: hostWords).all fun word => misses word c

theorem misses_of_harmless (h : harmless c = true) (hword : word ∈ "!" :: "set" :: "unset" :: hostWords) :
    misses word c = true := List.all_eq_true.mp h word hword

theorem matchesPair_of_misses {first second : String} (h : misses first c = true) :
    matchesPair isalnum first second (c :: text) = false := by
  rw [matchesPair, afterLiteral_of_misses h]
  rfl

theorem not_forbidden (h : harmless c = true) : isForbidden isalnum (c :: text) = false := by
  have hliteral : afterLiteral (PyStr.ofString "!") (c :: text) = none :=
    afterLiteral_of_misses (misses_of_harmless h List.mem_cons_self)
  have hwords : hostWords.any (fun word => matchesWord isalnum word (c :: text)) = false := by
    rw [List.any_eq_false]
    intro word hword
    have hmisses := misses_of_harmless h
      (List.mem_cons_of_mem _ (List.mem_cons_of_mem _ (List.mem_cons_of_mem _ hword)))
    rw [matchesWord, afterLiteral_of_misses hmisses]
    exact Bool.false_ne_true
  have hset : misses "set" c = true := misses_of_harmless h (List.mem_cons_of_mem _ List.mem_cons_self)
  have hunset : misses "unset" c = true :=
    misses_of_harmless h (List.mem_cons_of_mem _ (List.mem_cons_of_mem _ List.mem_cons_self))
  rw [isForbidden, hliteral, hwords, matchesPair_of_misses hset, matchesPair_of_misses hunset]
  rfl

/-- A command that begins with a harmless word, behind which there is something, is what is left of the text. -/
theorem strip_word {word blanks : PyStr} (hword : ∀ c ∈ word, isSpace c = false) (nonempty : word ≠ [])
    (separated : blanks ≠ []) (blank : ∀ c ∈ blanks, isSpace c = true) (more : strip rest ≠ []) :
    ∃ c tail, strip (word ++ blanks ++ rest) = word ++ c :: tail ∧ isSpace c = true := by
  obtain ⟨spaces, first, last, rfl, -, hfirst, -⟩ := exists_of_strip_ne_nil more
  obtain ⟨initial, letters, rfl⟩ := List.exists_cons_of_ne_nil nonempty
  obtain ⟨c, others, rfl⟩ := List.exists_cons_of_ne_nil separated
  have hsplit : initial :: letters ++ c :: others ++ (spaces ++ first :: last) =
      initial :: (letters ++ c :: others ++ spaces ++ first :: last) := by
    simp only [List.cons_append, List.append_assoc]
  have hrstrip : rstrip (letters ++ c :: others ++ spaces ++ first :: last) =
      letters ++ c :: others ++ spaces ++ first :: rstrip last := rstrip_append_of_not_space hfirst
  refine ⟨c, others ++ spaces ++ first :: rstrip last, ?_, blank c List.mem_cons_self⟩
  rw [hsplit, strip_of_not_space (hword initial List.mem_cons_self), hrstrip]
  simp only [List.cons_append, List.append_assoc]

/-- A command whose first word is allowed and begins no forbidden command is refused only where it is large. -/
theorem refused_iff_isLarge {word tail : PyStr} (nonempty : word ≠ []) (begins : word.head?.all harmless = true)
    (hstrip : strip text = word ++ c :: tail) (interpreter : escapesInterpreter (word ++ c :: tail) = false)
    (named : checkGdbName (word ++ c :: tail) = .ok ()) :
    (∃ refusal, validateGdbCommand isalnum text = .error refusal) ↔ isLarge (strip text) = true := by
  obtain ⟨initial, letters, rfl⟩ := List.exists_cons_of_ne_nil nonempty
  have hharmless : harmless initial = true := begins
  rw [validateGdbCommand, hstrip]
  have hnonempty : initial :: letters ++ c :: tail ≠ [] := List.cons_ne_nil _ _
  rw [if_neg hnonempty]
  by_cases hlarge : isLarge (initial :: letters ++ c :: tail) = true
  · rw [if_pos hlarge]
    exact ⟨fun _ => hlarge, fun _ => ⟨_, rfl⟩⟩
  · have hforbidden : isForbidden isalnum (initial :: letters ++ c :: tail) = false := not_forbidden hharmless
    have hmutation : hostSettings.any (fun setting =>
        matchesPair isalnum "set" setting (initial :: letters ++ c :: tail)) = false := by
      rw [List.any_eq_false]
      intro setting _
      have hset : misses "set" initial = true :=
        misses_of_harmless hharmless (List.mem_cons_of_mem _ List.mem_cons_self)
      have hfalse : matchesPair isalnum "set" setting (initial :: (letters ++ c :: tail)) = false :=
        matchesPair_of_misses hset
      exact Bool.eq_false_iff.mp hfalse
    rw [if_neg hlarge, hforbidden, interpreter, named, hmutation]
    exact ⟨fun ⟨_, h⟩ => (nomatch h), fun h => absurd h hlarge⟩

theorem isLetter_of_lowerAscii (h : ∀ c ∈ lowerAscii text, isLetter c = true) : ∀ c ∈ text, isLetter c = true := by
  intro c hc
  have hlower := h _ (List.mem_map_of_mem hc)
  by_cases hupper : 65 ≤ c.val ∧ c.val ≤ 90
  · rw [isLetter, Bool.or_eq_true, Bool.and_eq_true, decide_eq_true_eq, decide_eq_true_eq]
    exact Or.inl hupper
  · rwa [if_neg hupper] at hlower

theorem not_isSpace_of_isLetter (h : isLetter c = true) : isSpace c = false := by
  rw [Bool.eq_false_iff]
  intro hspace
  simp only [isLetter, isSpace, Bool.or_eq_true, Bool.and_eq_true, decide_eq_true_eq] at h hspace
  omega

theorem allowedCli_letters : ∀ word ∈ allowedCli, ∀ c ∈ PyStr.ofString word, isLetter c = true := by
  intro word hword
  have hall : allowedCli.all (fun word => (PyStr.ofString word).all isLetter) = true := by decide
  exact List.all_eq_true.mp (List.all_eq_true.mp hall word hword)

theorem not_isPrefixOf_of_letters {before : PyStr} (letters : ∀ c ∈ text, isLetter c = true) (hc : c ∈ before)
    (h : isLetter c = false) : before.isPrefixOf text = false := by
  rw [Bool.eq_false_iff]
  intro hbegins
  have hmem : c ∈ text := (List.isPrefixOf_iff_prefix.mp hbegins).subset hc
  rw [letters c hmem] at h
  cases h

theorem not_escapesInterpreter (h : c.val ≠ 45) : escapesInterpreter (c :: text) = false := by
  have hmisses : misses "-interpreter-exec" c = true := by
    have hother : c ≠ 45 := fun hc => h (congrArg Fin.val hc)
    have hpattern : sameLetter 45 c = false := by
      have hletter : isLetter 45 = false := rfl
      rw [sameLetter, decide_eq_false hother, hletter]
      rfl
    have hhead : (PyStr.ofString "-interpreter-exec").head? = some 45 := by decide
    rw [misses, hhead, Option.any_some, hpattern]
    rfl
  rw [escapesInterpreter, afterLiteral_of_misses hmisses]
  rfl

/-- An allowed command of the command line, in whatever case, passes the checks of its name. -/
theorem checkGdbName_of_allowedCli {tail : PyStr} (allowed : word ∈ allowedCli) (nonempty : spelled ≠ [])
    (hspelled : lowerAscii spelled = PyStr.ofString word) (hspace : isSpace c = true) :
    checkGdbName (spelled ++ c :: tail) = .ok () := by
  have hletters : ∀ c ∈ spelled, isLetter c = true := isLetter_of_lowerAscii (by
    rw [hspelled]
    exact allowedCli_letters word allowed)
  have hfirst : firstWord (spelled ++ c :: tail) = spelled :=
    firstWord_append (fun c hc => not_isSpace_of_isLetter (hletters c hc)) hspace
  have hslash : (PyStr.ofString "x/").isPrefixOf spelled = false :=
    not_isPrefixOf_of_letters hletters (c := 47) (by decide) rfl
  have hdash : (PyStr.ofString "-").isPrefixOf spelled = false :=
    not_isPrefixOf_of_letters hletters (c := 45) (by decide) rfl
  have hexamine : isExamine spelled = false := by
    rw [isExamine, hslash]
    rfl
  have hname : isGdbCommandName spelled = true := by
    rw [isGdbCommandName, hdash, if_neg Bool.false_ne_true]
    obtain ⟨initial, letters, rfl⟩ := List.exists_cons_of_ne_nil nonempty
    rw [isCommandName, startsName, hletters initial List.mem_cons_self]
    have hrest : letters.all continuesName = true := by
      rw [List.all_eq_true]
      intro other hother
      rw [continuesName, hletters other (List.mem_cons_of_mem _ hother)]
      rfl
    rw [hrest]
    rfl
  have hinterpreter : spelled ≠ PyStr.ofString "-interpreter-exec" := by
    intro heq
    have hmem : (45 : CodePoint) ∈ spelled := by
      rw [heq]
      decide
    exact absurd (hletters 45 hmem) (by decide)
  have hallowed : allowedCli.any (fun allowed => lowerAscii spelled = PyStr.ofString allowed) = true := by
    rw [List.any_eq_true]
    exact ⟨word, allowed, decide_eq_true hspelled⟩
  rw [checkGdbName, hfirst, hexamine, if_neg Bool.false_ne_true, hname, if_neg hinterpreter, hdash, hallowed]
  rfl

theorem refusedForHost_iff : refusedForHost isalnum text = true ↔
    validateGdbCommand isalnum text = .error .hostCode ∨ validateGdbCommand isalnum text = .error
      .hostMutation := by
  rw [refusedForHost]
  split
  next h =>
    rw [h]
    exact ⟨fun _ => Or.inl rfl, fun _ => rfl⟩
  next h =>
    rw [h]
    exact ⟨fun _ => Or.inr rfl, fun _ => rfl⟩
  next hcode hmutation =>
    exact ⟨fun h => (nomatch h), fun h => h.elim (fun h => absurd h hcode) fun h => absurd h hmutation⟩

/-- A text of blanks is refused otherwise. -/
theorem strip_ne_nil_of_refusedForHost (h : refusedForHost isalnum text = true) : strip text ≠ [] := by
  intro hempty
  have hrefused : validateGdbCommand isalnum text = .error .emptyGdbCommand := by
    rw [validateGdbCommand, if_pos hempty]
    rfl
  rcases refusedForHost_iff.mp h with h | h <;>
  · rw [hrefused] at h
    cases h

/-- A first word of a wrapper, in whatever case, begins no forbidden command. -/
theorem harmless_of_lowerAscii {first : CodePoint} (hfirst : first = 116 ∨ first = 102)
    (h : lowerAscii [c] = [first]) : harmless c = true := by
  have hvalue : c.val = 116 ∨ c.val = 102 ∨ c.val = 84 ∨ c.val = 70 := by
    have hlower : (if 65 ≤ c.val ∧ c.val ≤ 90 then Fin.ofNat 0x110000 (c.val + 32) else c) = first :=
      List.head_eq_of_cons_eq h
    by_cases hupper : 65 ≤ c.val ∧ c.val ≤ 90
    · rw [if_pos hupper] at hlower
      have hval := congrArg Fin.val hlower
      rw [Fin.val_ofNat] at hval
      rcases hfirst with rfl | rfl
      · have hthread : (c.val + 32) % 0x110000 = 116 := hval
        omega
      · have hframe : (c.val + 32) % 0x110000 = 102 := hval
        omega
    · rw [if_neg hupper] at hlower
      rcases hfirst with rfl | rfl
      · exact Or.inl (congrArg Fin.val hlower)
      · exact Or.inr (Or.inl (congrArg Fin.val hlower))
  rcases hvalue with h | h | h | h
  · rw [Fin.ext h (b := 116)]
    decide
  · rw [Fin.ext h (b := 102)]
    decide
  · rw [Fin.ext h (b := 84)]
    decide
  · rw [Fin.ext h (b := 70)]
    decide

theorem wrapperWords_first : ∀ words ∈ wrapperWords, ∃ word more, words = word :: more ∧ word ∈ allowedCli ∧
    ∃ first letters, PyStr.ofString word = first :: letters ∧ (first = 116 ∨ first = 102) := by
  have hthread : PyStr.ofString "thread" = 116 :: PyStr.ofString "hread" := by decide
  have hframe : PyStr.ofString "frame" = 102 :: PyStr.ofString "rame" := by decide
  have hallowed : "thread" ∈ allowedCli ∧ "frame" ∈ allowedCli := by decide
  intro words hwords
  simp only [wrapperWords, List.mem_cons, List.not_mem_nil, or_false] at hwords
  rcases hwords with rfl | rfl | rfl
  · exact ⟨_, _, rfl, hallowed.1, _, _, hthread, Or.inl rfl⟩
  · exact ⟨_, _, rfl, hallowed.1, _, _, hthread, Or.inl rfl⟩
  · exact ⟨_, _, rfl, hallowed.2, _, _, hframe, Or.inr rfl⟩

/-- What the words are before is not blank where the text is not. -/
theorem strip_spelled (h : Spelled words text whole) (hspaces : strip text ≠ []) : strip whole ≠ [] := by
  induction words generalizing whole with
  | nil =>
    rw [show whole = text from h]
    exact hspaces
  | cons word words ih =>
    obtain ⟨spelled, blanks, rest, rfl, -, -, -, hrest⟩ := h
    obtain ⟨spaces, first, last, rfl, -, hfirst, -⟩ := exists_of_strip_ne_nil (ih hrest)
    have hassoc : spelled ++ blanks ++ (spaces ++ first :: last) =
        (spelled ++ blanks ++ spaces) ++ first :: last := by
      simp only [List.append_assoc]
    rw [hassoc]
    exact strip_append_ne_nil hfirst

theorem isSpace_of_blank (h : c.val = 32 ∨ c.val = 9) : isSpace c = true := by
  simp only [isSpace, Bool.or_eq_true, Bool.and_eq_true, decide_eq_true_eq]
  omega

/-- A wrapper in front of a refused command. -/
theorem refused_apply_iff (hwords : words ∈ wrapperWords) (refused : refusedForHost isalnum text = true)
    (h : Spelled words text whole) {spaces : PyStr} (blank : ∀ c ∈ spaces, isSpace c = true) :
    (∃ refusal, validateGdbCommand isalnum (spaces ++ whole) = .error refusal) ↔
      isLarge (strip (spaces ++ whole)) = true := by
  obtain ⟨word, more, rfl, hallowed, first, letters, hword, hfirst⟩ := wrapperWords_first words hwords
  obtain ⟨spelled, blanks, rest, rfl, hspelled, hseparated, hblanks, hrest⟩ := h
  have hletters : ∀ c ∈ spelled, isLetter c = true := isLetter_of_lowerAscii (by
    rw [hspelled]
    exact allowedCli_letters word hallowed)
  have hnonempty : spelled ≠ [] := by
    rintro rfl
    rw [hword] at hspelled
    cases hspelled
  have hmore : strip rest ≠ [] := strip_spelled hrest (strip_ne_nil_of_refusedForHost refused)
  have hnospace : ∀ c ∈ spelled, isSpace c = false := fun c hc => not_isSpace_of_isLetter (hletters c hc)
  obtain ⟨c, tail, hstrip, hspace⟩ :=
    strip_word hnospace hnonempty hseparated (fun c hc => isSpace_of_blank (hblanks c hc)) hmore
  have hnamed : checkGdbName (spelled ++ c :: tail) = .ok () :=
    checkGdbName_of_allowedCli hallowed hnonempty hspelled hspace
  obtain ⟨initial, others, rfl⟩ := List.exists_cons_of_ne_nil hnonempty
  have hinitial : lowerAscii [initial] = [first] := by
    rw [hword] at hspelled
    exact congrArg (· :: []) (List.head_eq_of_cons_eq hspelled)
  have hdash : initial.val ≠ 45 := by
    intro hval
    have hletter := hletters initial List.mem_cons_self
    rw [Fin.ext hval (b := 45)] at hletter
    exact absurd hletter (by decide)
  have hwhole : strip (spaces ++ (initial :: others ++ blanks ++ rest)) = initial :: others ++ c :: tail :=
    (strip_append_of_spaces blank).trans hstrip
  exact refused_iff_isLarge hnonempty (harmless_of_lowerAscii hfirst hinitial) hwhole
    (not_escapesInterpreter hdash) hnamed

theorem strip_set {setting : PyStr} (h : strip setting = []) :
    strip (PyStr.ofString "set " ++ setting) = PyStr.ofString "set" := by
  have hsplit : PyStr.ofString "set " = 115 :: ([101] ++ 116 :: [32]) := by decide
  have hset : PyStr.ofString "set" = 115 :: ([101] ++ 116 :: []) := by decide
  have hspaces : ∀ c ∈ 32 :: setting, isSpace c = true := by
    intro c hc
    rcases List.mem_cons.mp hc with rfl | hc
    · rfl
    · exact isSpace_of_strip_eq_nil h hc
  have hbehind : rstrip ([101] ++ 116 :: (32 :: setting)) = [101] ++ 116 :: rstrip (32 :: setting) :=
    rstrip_append_of_not_space rfl
  have hstrip : strip (115 :: ([101] ++ 116 :: (32 :: setting))) = 115 ::
      rstrip ([101] ++ 116 :: (32 :: setting)) :=
    strip_of_not_space rfl
  rw [hsplit, hset]
  exact hstrip.trans (congrArg (115 :: ·) (hbehind.trans (congrArg ([101] ++ 116 :: ·) (rstrip_of_spaces hspaces))))

/-- Without a setting the command shows all of them. -/
theorem validateGdbCommand_set (h : strip text = PyStr.ofString "set") :
    validateGdbCommand isalnum text = .ok (PyStr.ofString "set") := by
  have hnonempty : PyStr.ofString "set" ≠ [] := by decide
  have hlarge : isLarge (PyStr.ofString "set") = false := by decide
  have hliteral : (afterLiteral (PyStr.ofString "!") (PyStr.ofString "set")).isSome = false := by decide
  have hwords : hostWords.any (fun word => matchesWord isalnum word (PyStr.ofString "set")) = false := by
    have hall : hostWords.all (fun word => (afterLiteral (PyStr.ofString word) (PyStr.ofString "set")).isNone) =
        true := by decide
    rw [List.any_eq_false]
    intro word hword
    rw [matchesWord, Option.isNone_iff_eq_none.mp (List.all_eq_true.mp hall word hword)]
    exact Bool.false_ne_true
  have hpair (first second : String) (hnone : (afterLiteral (PyStr.ofString first) (PyStr.ofString "set")).bind
      afterSpaces = none) : matchesPair isalnum first second (PyStr.ofString "set") = false := by
    rw [matchesPair, hnone]
  have hset : (afterLiteral (PyStr.ofString "set") (PyStr.ofString "set")).bind afterSpaces = none := by
    decide
  have hunset : (afterLiteral (PyStr.ofString "unset") (PyStr.ofString "set")).bind afterSpaces = none := by
    decide
  have hforbidden : isForbidden isalnum (PyStr.ofString "set") = false := by
    rw [isForbidden, hliteral, hwords, hpair _ _ hset, hpair _ _ hunset]
    rfl
  have hinterpreter : escapesInterpreter (PyStr.ofString "set") = false := by decide
  have hnamed : checkGdbName (PyStr.ofString "set") = .ok () := by decide
  have hmutation : hostSettings.any (fun setting => matchesPair isalnum "set" setting (PyStr.ofString "set")) =
      false := by
    rw [List.any_eq_false]
    intro setting _
    rw [hpair _ _ hset]
    exact Bool.false_ne_true
  rw [validateGdbCommand, h, if_neg hnonempty, hlarge, hforbidden, hinterpreter, hnamed, hmutation]
  rfl

/-- The command of GDB/MI in front of a setting. -/
theorem refused_gdbSet_iff {setting spaces blanks : PyStr} (refused : strip setting ≠ []) (separated : blanks ≠ [])
    (blank : ∀ c ∈ spaces ++ blanks, isSpace c = true) :
    (∃ refusal, validateGdbCommand isalnum (spaces ++ PyStr.ofString "-gdb-set" ++ blanks ++ setting) =
      .error refusal) ↔ isLarge (strip (spaces ++ PyStr.ofString "-gdb-set" ++ blanks ++ setting)) = true := by
  have hnospace : ∀ c ∈ PyStr.ofString "-gdb-set", isSpace c = false := by
    have hall : (PyStr.ofString "-gdb-set").all (fun c => !isSpace c) = true := by decide
    intro c hc
    have hc := List.all_eq_true.mp hall c hc
    rwa [Bool.not_eq_true'] at hc
  obtain ⟨c, tail, hstrip, hspace⟩ := strip_word hnospace (by decide) separated
    (fun c hc => blank c (List.mem_append_right _ hc)) refused
  have hassoc : spaces ++ PyStr.ofString "-gdb-set" ++ blanks ++ setting =
      spaces ++ (PyStr.ofString "-gdb-set" ++ blanks ++ setting) := by
    simp only [List.append_assoc]
  have hwhole : strip (spaces ++ (PyStr.ofString "-gdb-set" ++ blanks ++ setting)) =
      PyStr.ofString "-gdb-set" ++ c :: tail :=
    (strip_append_of_spaces fun c hc => blank c (List.mem_append_left _ hc)).trans hstrip
  rw [hassoc]
  refine refused_iff_isLarge (by decide) (by decide) hwhole ?_ ?_
  · have hsplit : PyStr.ofString "-gdb-set" = 45 :: 103 :: PyStr.ofString "db-set" := by decide
    have hinterpreter : PyStr.ofString "-interpreter-exec" = 45 :: 105 :: PyStr.ofString "nterpreter-exec" := by
      decide
    rw [hsplit, escapesInterpreter, hinterpreter]
    rfl
  · have hfirst : firstWord (PyStr.ofString "-gdb-set" ++ c :: tail) = PyStr.ofString "-gdb-set" :=
      firstWord_append hnospace hspace
    have hexamine : isExamine (PyStr.ofString "-gdb-set") = false := by decide
    have hname : isGdbCommandName (PyStr.ofString "-gdb-set") = true := by decide
    have hother : PyStr.ofString "-gdb-set" ≠ PyStr.ofString "-interpreter-exec" := by decide
    have hdash : (PyStr.ofString "-").isPrefixOf (PyStr.ofString "-gdb-set") = true := by decide
    have hallowed : allowedMi.any (fun allowed => (PyStr.ofString allowed).isPrefixOf (PyStr.ofString "-gdb-set")) =
        true := by decide
    rw [checkGdbName, hfirst, hexamine, if_neg Bool.false_ne_true, hname, if_neg hother, hdash, hallowed]
    rfl

/-- Behind a wrapper a refused command is refused only where the whole is too long or has control characters. -/
theorem wrapped_refused_iff (h : Wraps isalnum whole) :
    (∃ refusal, validateGdbCommand isalnum whole = .error refusal) ↔ isLarge (strip whole) = true := by
  cases h with
  | apply spaces wrapper refused spelled blank => exact refused_apply_iff wrapper refused spelled blank
  | @gdbSet setting spaces blanks refused separated blank =>
    refine refused_gdbSet_iff ?_ separated blank
    intro hempty
    have haccepted : validateGdbCommand isalnum (PyStr.ofString "set " ++ setting) = .ok (PyStr.ofString "set") :=
      validateGdbCommand_set (strip_set hempty)
    rcases refusedForHost_iff.mp refused with h | h <;>
    · rw [haccepted] at h
      cases h

/-- `str.isalnum()` of an ASCII character -/
def isAsciiAlnum (c : CodePoint) : Bool := isLetter c || isDigit c

theorem wraps_shell : Wraps isAsciiAlnum (PyStr.ofString "thread apply all shell id") := by
  have hspace : ∀ c ∈ ([32] : PyStr), c.val = 32 ∨ c.val = 9 := by
    intro c hc
    rw [List.mem_singleton.mp hc]
    exact Or.inl rfl
  have hspelled : Spelled ["thread", "apply", "all"] (PyStr.ofString "shell id")
      (PyStr.ofString "thread apply all shell id") := by
    refine ⟨PyStr.ofString "thread", [32], PyStr.ofString "apply all shell id", by decide, by decide,
      List.cons_ne_nil _ _, hspace, ?_⟩
    refine ⟨PyStr.ofString "apply", [32], PyStr.ofString "all shell id", by decide, by decide,
      List.cons_ne_nil _ _, hspace, ?_⟩
    exact ⟨PyStr.ofString "all", [32], PyStr.ofString "shell id", by decide, by decide,
      List.cons_ne_nil _ _, hspace, rfl⟩
  exact Wraps.apply [] (by decide) (by decide) hspelled (fun _ h => (nomatch h))

theorem wrapped_refused_iff_shell : Wraps isAsciiAlnum (PyStr.ofString "thread apply all shell id") ∧
    ((∃ refusal, validateGdbCommand isAsciiAlnum (PyStr.ofString "thread apply all shell id") = .error refusal) ↔
      isLarge (strip (PyStr.ofString "thread apply all shell id")) = true) :=
  ⟨wraps_shell, wrapped_refused_iff wraps_shell⟩

/-- The program of the host is refused, and accepted behind a wrapper. -/
theorem shell_accepted_behind_wrapper :
    validateGdbCommand isAsciiAlnum (PyStr.ofString "shell id") = .error .hostCode ∧
      Wraps isAsciiAlnum (PyStr.ofString "thread apply all shell id") ∧
      validateGdbCommand isAsciiAlnum (PyStr.ofString "thread apply all shell id") =
        .ok (PyStr.ofString "thread apply all shell id") ∧
      validateGdbCommand isAsciiAlnum (PyStr.ofString "set exec-wrapper sh") = .error .hostMutation ∧
      validateGdbCommand isAsciiAlnum (PyStr.ofString "-gdb-set exec-wrapper sh") =
        .ok (PyStr.ofString "-gdb-set exec-wrapper sh") := by
  have hshell : validateGdbCommand isAsciiAlnum (PyStr.ofString "shell id") = .error .hostCode := by decide
  have hwrapped : validateGdbCommand isAsciiAlnum (PyStr.ofString "thread apply all shell id") =
      .ok (PyStr.ofString "thread apply all shell id") := by decide
  have hset : validateGdbCommand isAsciiAlnum (PyStr.ofString "set exec-wrapper sh") = .error .hostMutation := by
    decide
  have hgdbSet : validateGdbCommand isAsciiAlnum (PyStr.ofString "-gdb-set exec-wrapper sh") =
      .ok (PyStr.ofString "-gdb-set exec-wrapper sh") := by decide
  exact ⟨hshell, wraps_shell, hwrapped, hset, hgdbSet⟩

end wrappers

end JLinkMcp.Security
