import JLinkMcp.SecurityText
import JLinkMcp.LexicalPaths

namespace JLinkMcp.Security

open Host LexicalPaths

section split

/-- The state of `shlex`: between tokens, in a word, in a quotation, or behind a backslash in one of them. -/
inductive Mode where
  | blank
  | word
  | quote (quote : CodePoint)
  | escape (quote : Option CodePoint)
  deriving DecidableEq

/-- The tokens that are read, and the one that is being read. -/
structure Lexer where
  mode : Mode
  token : PyStr
  quoted : Bool
  tokens : List PyStr

/-- `shlex.whitespace` -/
def isLexerBlank (c : CodePoint) : Bool := c.val = 32 || c.val = 9 || c.val = 13 || c.val = 10

def isQuote (c : CodePoint) : Bool := c.val = 39 || c.val = 34

def isEscape (c : CodePoint) : Bool := c.val = 92

/-- The end of a token. -/
def Lexer.emit (lexer : Lexer) : Lexer :=
  if lexer.token ≠ [] || lexer.quoted then ⟨.blank, [], false, lexer.tokens ++ [lexer.token]⟩
  else { lexer with mode := .blank }

def Lexer.add (lexer : Lexer) (mode : Mode) (c : CodePoint) : Lexer :=
  { lexer with mode := mode, token := lexer.token ++ [c] }

/-- One character, in the order of the branches of `read_token`. -/
def Lexer.read (lexer : Lexer) (c : CodePoint) : Lexer :=
  match lexer.mode with
  | .blank =>
    if isLexerBlank c then lexer.emit
    else if isEscape c then { lexer with mode := .escape none }
    else if isQuote c then { lexer with mode := .quote c }
    else lexer.add .word c
  | .quote quote =>
    let lexer := { lexer with quoted := true }
    if c = quote then { lexer with mode := .word }
    else if isEscape c && quote.val = 34 then { lexer with mode := .escape (some quote) }
    else lexer.add (.quote quote) c
  | .escape none => lexer.add .word c
  | .escape (some quote) =>
    -- within quotes only the quote itself and the backslash are escaped
    let kept : PyStr := if isEscape c || c = quote then [] else [92]
    { lexer with mode := .quote quote, token := lexer.token ++ kept ++ [c] }
  | .word =>
    if isLexerBlank c then lexer.emit
    else if isQuote c then { lexer with mode := .quote c }
    else if isEscape c then { lexer with mode := .escape none }
    else lexer.add .word c

/-- `shlex.split(text, posix=True)` -/
def shlexSplit (text : PyStr) : Except String (List PyStr) :=
  let lexer := text.foldl Lexer.read ⟨.blank, [], false, []⟩
  match lexer.mode with
  | .quote _ => .error "No closing quotation"
  | .escape _ => .error "No escaped character"
  | .blank | .word => .ok lexer.emit.tokens

end split

section paths

/-- The roots of the settings, as the parts of their absolute paths. -/
structure Roots where
  workspaceRoot : List PyStr
  stateRoot : List PyStr

/-- What the file system answers: whether a path exists, where it can be looked up, and whether a path
resolves, strictly or not. There are no symbolic links. -/
structure FileSystem where
  present : PyStr → Option Bool
  resolves : Bool → List PyStr → Bool

def up : PyStr := [46, 46]

/-- The parts of `Path(text)`, without its root. -/
def pathParts (text : PyStr) : List PyStr := (text.splitOn 47).filter fun part => part ≠ [] && part ≠ [46]

/-- `Path(text).is_absolute()` -/
def isAbsolute (text : PyStr) : Bool := text.head? = some 47

/-- `str(Path(text))` -/
def pathText (text : PyStr) : PyStr :=
  let root : PyStr :=
    if !isAbsolute text then [] else if (text.takeWhile fun c => c.val = 47).length = 2 then [47, 47] else [47]
  let parts := pathParts text
  if root = [] ∧ parts = [] then [46] else root ++ (parts.intersperse [47]).flatten

/-- The path, which is relative to the workspace where it is not absolute. -/
def fromWorkspace (roots : Roots) (text : PyStr) : List PyStr :=
  if isAbsolute text then pathParts text else roots.workspaceRoot ++ pathParts text

/-- Where the text leads. -/
def resolved (roots : Roots) (text : PyStr) : List PyStr := normalize up (fromWorkspace roots text)

/-- Whether a resolved path is a root or below one. -/
def inRoots (roots : Roots) (path : List PyStr) : Bool :=
  [roots.workspaceRoot, roots.stateRoot].any fun root => (normalize up root).isPrefixOf path

/-- `settings.resolve_allowed_path(Path(text), must_exist=must_exist)` -/
def resolveAllowedPath (files : FileSystem) (roots : Roots) (text : PyStr) (mustExist : Bool) :
    Except Refusal (List PyStr) :=
  if !files.resolves mustExist (fromWorkspace roots text) then .error .osError
  else if !(files.resolves true roots.workspaceRoot && files.resolves true roots.stateRoot) then .error .osError
  else if inRoots roots (resolved roots text) then .ok (resolved roots text)
  else .error (.outsideRoots (pathText text))

/-- `settings.resolve_allowed_path(path, must_exist=path.exists())` -/
def resolvePresent (files : FileSystem) (roots : Roots) (text : PyStr) : Except Refusal (List PyStr) :=
  match files.present text with
  | none => .error .osError
  | some present => resolveAllowedPath files roots text present

/-- `text.split("=", 1)[1] if "=" in text else text` -/
def afterEquals (text : PyStr) : PyStr :=
  if text.any fun c => c.val = 61 then (text.dropWhile fun c => c.val ≠ 61).drop 1 else text

/-- `token.rstrip(",")`, and what is behind `=`. -/
def operand (token : PyStr) : PyStr := afterEquals (token.reverse.dropWhile fun c => c.val = 44).reverse

/-- `candidate.startswith(("/", "./", "../"))` -/
def startsAsPath (candidate : PyStr) : Bool :=
  ["/", "./", "../"].any fun text => (PyStr.ofString text).isPrefixOf candidate

/-- `candidate.startswith(("/", "."))` -/
def startsAsArgumentPath (candidate : PyStr) : Bool :=
  ["/", "."].any fun text => (PyStr.ofString text).isPrefixOf candidate

end paths

section validate

variable (files : FileSystem)

/-- `_DANGEROUS_SHELL.search(text)`; what its second pattern finds its first has found. -/
def isDangerous (text : PyStr) : Bool :=
  text.any fun c => [59, 38, 124, 96, 36, 60, 62, 10, 13, 0].any fun value => c.val = value

/-- `validate_raw_command` -/
def validateRawCommand (text : PyStr) : Except Refusal PyStr :=
  let command := strip text
  if command = [] then .error .emptyCommand
  else if isDangerous command then .error .shellCharacters
  else if !isCommandName (firstWord command) then .error (.invalidName (firstWord command))
  else .ok command

def checkOperands (roots : Roots) : List PyStr → Except Refusal Unit
  | [] => .ok ()
  | token :: tokens =>
    if startsAsPath (operand token) then
      match resolvePresent files roots (operand token) with
      | .error _ => .error (.outsideRoots (operand token))
      | .ok _ => checkOperands roots tokens
    else checkOperands roots tokens

/-- `_validate_embedded_paths` -/
def validateEmbeddedPaths (roots : Roots) (command : PyStr) : Except Refusal Unit :=
  match shlexSplit command with
  | .error reason => .error (.quoting reason)
  | .ok tokens => checkOperands files roots tokens.tail

/-- `validate_raw_commands` -/
def validateRawCommands (roots : Option Roots) (limit : Nat) (commands : List PyStr) :
    Except Refusal (List PyStr) := do
  let validated ← commands.mapM validateRawCommand
  if validated = [] then throw .noCommand
  else if limit < validated.length then throw (.tooManyCommands limit)
  else
    match roots with
    | none => return validated
    | some roots =>
      validated.forM (validateEmbeddedPaths files roots)
      return validated

/-- What `validate_application_args` checks of an argument. -/
def checkArgument (roots : Roots) (argument : PyStr) : Except Refusal PyStr :=
  if isDangerous argument then .error (.unsafeArgument argument)
  else if startsAsArgumentPath (afterEquals argument) then
    (resolvePresent files roots (afterEquals argument)).map fun _ => argument
  else .ok argument

/-- `validate_application_args` -/
def validateApplicationArgs (roots : Roots) (args : List PyStr) : Except Refusal (List PyStr) := do
  let result ← args.mapM (checkArgument files roots)
  if 256 < result.length then throw .tooManyArguments else return result

end validate

section confined

variable {files : FileSystem} {roots : Roots} {text : PyStr} {path tokens args result commands : List PyStr}
  {limit : Nat}

theorem inRoots_of_resolvePresent (h : resolvePresent files roots text = .ok path) :
    inRoots roots (resolved roots text) = true := by
  rw [resolvePresent] at h
  split at h
  next => cases h
  next present _ =>
    rw [resolveAllowedPath] at h
    split at h
    next => cases h
    next =>
      split at h
      next => cases h
      next =>
        split at h
        next hroots => exact hroots
        next => cases h

/-- A list of operands passes where every path among them does. -/
theorem checkOperands_ok : checkOperands files roots tokens = .ok () ↔
    ∀ token ∈ tokens, startsAsPath (operand token) = true →
      ∃ path, resolvePresent files roots (operand token) = .ok path := by
  induction tokens with
  | nil => exact ⟨fun _ _ h => (nomatch h), fun _ => rfl⟩
  | cons token tokens ih =>
    rw [List.forall_mem_cons, ← ih, checkOperands]
    split
    next hpath =>
      split
      next hrefused =>
        rw [hrefused]
        exact ⟨fun h => (nomatch h), fun h => (nomatch h.1 hpath)⟩
      next hfound =>
        rw [hfound]
        exact ⟨fun h => ⟨fun _ => ⟨_, rfl⟩, h⟩, fun h => h.2⟩
    next hother => exact ⟨fun h => ⟨fun hpath => absurd hpath hother, h⟩, fun h => h.2⟩

theorem forM_ok {check : PyStr → Except Refusal Unit} : commands.forM check = .ok () ↔
    ∀ command ∈ commands, check command = .ok () := by
  induction commands with
  | nil => exact ⟨fun _ _ h => (nomatch h), fun _ => rfl⟩
  | cons command commands ih =>
    rw [List.forall_mem_cons, ← ih]
    have hstep : (command :: commands).forM check = (check command).bind fun _ => commands.forM check := rfl
    rw [hstep]
    cases check command with
    | error refusal => exact ⟨fun h => (nomatch h), fun h => (nomatch h.1)⟩
    | ok done => exact ⟨fun h => ⟨rfl, h⟩, fun h => h.2⟩

/-- What a list of commands passes. -/
theorem validateRawCommands_ok {roots : Option Roots} :
    validateRawCommands files roots limit commands = .ok result ↔
      commands.mapM validateRawCommand = .ok result ∧ result ≠ [] ∧ result.length ≤ limit ∧
      ∀ settings ∈ roots, ∀ command ∈ result, validateEmbeddedPaths files settings command = .ok () := by
  rw [validateRawCommands]
  cases hvalidated : commands.mapM validateRawCommand with
  | error refusal => exact ⟨fun h => (nomatch h), fun h => (nomatch h.1)⟩
  | ok validated =>
    have hbind : ∀ f : List PyStr → Except Refusal (List PyStr), (Except.ok validated >>= f) = f validated :=
      fun _ => rfl
    rw [hbind]
    split
    next hempty =>
      exact ⟨fun h => (nomatch h), fun ⟨h, hnonempty, _⟩ => absurd ((Except.ok.inj h) ▸ hempty) hnonempty⟩
    next hnonempty =>
      split
      next hlimit =>
        refine ⟨fun h => (nomatch h), fun ⟨h, _, hlength, _⟩ => ?_⟩
        rw [← Except.ok.inj h] at hlength
        omega
      next hlimit =>
        split
        next =>
          constructor
          · intro h
            cases Except.ok.inj h
            exact ⟨rfl, hnonempty, by omega, fun _ h => (nomatch h)⟩
          · rintro ⟨h, -⟩
            exact h
        next settings =>
          constructor
          · intro h
            cases hpaths : validated.forM (validateEmbeddedPaths files settings) with
            | error refusal =>
              rw [hpaths] at h
              cases h
            | ok done =>
              rw [hpaths] at h
              cases Except.ok.inj h
              refine ⟨rfl, hnonempty, by omega, fun other hother => ?_⟩
              cases hother
              exact forM_ok.mp hpaths
          · rintro ⟨h, -, -, hpaths⟩
            cases Except.ok.inj h
            rw [forM_ok.mpr (hpaths settings rfl)]
            rfl

/-- The operands of a command, as its validator reads them. -/
def operandsOf (command : PyStr) : List PyStr :=
  match shlexSplit command with
  | .error _ => []
  | .ok tokens => tokens.tail.map operand

/-- Where an operand that is not absolute leads, in terms of its text: the parent steps that no name before them
takes back leave the workspace, and the names behind them come back into a root. -/
def comesBack (roots : Roots) (text : PyStr) : Bool :=
  let reduced := reduce up (pathParts text)
  reduced.1 = 0 || inRoots roots (climb (normalize up roots.workspaceRoot) reduced)

theorem resolved_of_relative (h : isAbsolute text = false) : resolved roots text =
    climb (normalize up roots.workspaceRoot) (reduce up (pathParts text)) := by
  rw [resolved, fromWorkspace, h, if_neg Bool.false_ne_true, normalize_append]

/-- A path that is not absolute is confined where it does not leave the workspace for good. -/
theorem inRoots_iff_comesBack (h : isAbsolute text = false) :
    inRoots roots (resolved roots text) = true ↔ comesBack roots text = true := by
  rw [comesBack, Bool.or_eq_true, decide_eq_true_eq, ← resolved_of_relative h]
  constructor
  · intro hroots
    exact Or.inr hroots
  · rintro (hbelow | hroots)
    · have hbegins : normalize up roots.workspaceRoot <+: normalize up (roots.workspaceRoot ++ pathParts text) :=
        prefix_normalize_append hbelow
      rw [inRoots, List.any_cons, resolved, fromWorkspace, h, if_neg Bool.false_ne_true,
        List.isPrefixOf_iff_prefix.mpr hbegins, Bool.true_or]
    · exact hroots

theorem slash_isPrefixOf (h : isAbsolute text = true) : (PyStr.ofString "/").isPrefixOf text = true := by
  have hhead : text.head? = some 47 := of_decide_eq_true h
  obtain ⟨rest, rfl⟩ := List.head?_eq_some_iff.mp hhead
  exact List.isPrefixOf_iff_prefix.mpr ⟨rest, rfl⟩

theorem isAbsolute_of_startsAsPath (h : startsAsPath text = false) : isAbsolute text = false := by
  rw [Bool.eq_false_iff]
  intro habsolute
  rw [startsAsPath, List.any_cons, slash_isPrefixOf habsolute] at h
  cases h

theorem isAbsolute_of_startsAsArgumentPath (h : startsAsArgumentPath text = false) : isAbsolute text = false := by
  rw [Bool.eq_false_iff]
  intro habsolute
  rw [startsAsArgumentPath, List.any_cons, slash_isPrefixOf habsolute] at h
  cases h

/-- Operands of which the paths are checked and the others not. -/
theorem confined_iff_of_checked {operands : List PyStr} {checked : PyStr → Bool}
    (relative : ∀ text, checked text = false → isAbsolute text = false)
    (confined : ∀ text ∈ operands, checked text = true → inRoots roots (resolved roots text) = true) :
    (∀ text ∈ operands, inRoots roots (resolved roots text) = true) ↔
      ∀ text ∈ operands, checked text = false → comesBack roots text = true := by
  constructor
  · intro h text htext hother
    exact (inRoots_iff_comesBack (relative text hother)).mp (h text htext)
  · intro h text htext
    cases hchecked : checked text with
    | true => exact confined text htext hchecked
    | false => exact (inRoots_iff_comesBack (relative text hchecked)).mpr (h text htext hchecked)

theorem confined_of_validateEmbeddedPaths {command : PyStr}
    (h : validateEmbeddedPaths files roots command = .ok ()) :
    ∀ text ∈ operandsOf command, startsAsPath text = true → inRoots roots (resolved roots text) = true := by
  intro text htext hpath
  rw [validateEmbeddedPaths] at h
  rw [operandsOf] at htext
  cases htokens : shlexSplit command with
  | error reason =>
    rw [htokens] at htext
    cases htext
  | ok tokens =>
    rw [htokens] at h htext
    obtain ⟨token, htoken, rfl⟩ := List.mem_map.mp htext
    obtain ⟨path, hresolved⟩ := checkOperands_ok.mp h token htoken hpath
    exact inRoots_of_resolvePresent hresolved

theorem checkArgument_ok {argument passed : PyStr} (h : checkArgument files roots argument = .ok passed) :
    passed = argument ∧ (startsAsArgumentPath (afterEquals argument) = true →
      inRoots roots (resolved roots (afterEquals argument)) = true) := by
  rw [checkArgument] at h
  split at h
  next => cases h
  next =>
    split at h
    next =>
      cases hresolved : resolvePresent files roots (afterEquals argument) with
      | error refusal =>
        rw [hresolved] at h
        cases h
      | ok path =>
        rw [hresolved] at h
        exact ⟨(Except.ok.inj h).symm, fun _ => inRoots_of_resolvePresent hresolved⟩
    next hother => exact ⟨(Except.ok.inj h).symm, fun hpath => absurd hpath hother⟩

theorem validateApplicationArgs_ok (h : validateApplicationArgs files roots args = .ok result) :
    args.mapM (checkArgument files roots) = .ok result ∧ result.length ≤ 256 := by
  rw [validateApplicationArgs] at h
  cases hchecked : args.mapM (checkArgument files roots) with
  | error refusal =>
    rw [hchecked] at h
    cases h
  | ok checked =>
    rw [hchecked] at h
    have hbind : (if 256 < checked.length then throw .tooManyArguments else return checked :
      Except Refusal (List PyStr)) = .ok result := h
    split at hbind
    next => cases hbind
    next hlength =>
      cases Except.ok.inj hbind
      exact ⟨rfl, by omega⟩

/-- The operands of accepted commands and the accepted arguments are confined where those that do not begin as
a path come back. -/
theorem confined_iff_comesBack (files : FileSystem) (roots : Roots) :
    (∀ limit commands result, validateRawCommands files (some roots) limit commands = .ok result →
      ((∀ text ∈ result.flatMap operandsOf, inRoots roots (resolved roots text) = true) ↔
        ∀ text ∈ result.flatMap operandsOf, startsAsPath text = false → comesBack roots text = true)) ∧
    ∀ args result, validateApplicationArgs files roots args = .ok result →
      ((∀ text ∈ result.map afterEquals, inRoots roots (resolved roots text) = true) ↔
        ∀ text ∈ result.map afterEquals, startsAsArgumentPath text = false → comesBack roots text = true) := by
  constructor
  · intro limit commands result haccepted
    obtain ⟨-, -, -, hpaths⟩ := validateRawCommands_ok.mp haccepted
    apply confined_iff_of_checked fun text => isAbsolute_of_startsAsPath
    intro text htext hpath
    obtain ⟨command, hcommand, htext⟩ := List.mem_flatMap.mp htext
    exact confined_of_validateEmbeddedPaths (hpaths roots rfl command hcommand) text htext hpath
  · intro args result haccepted
    obtain ⟨hchecked, -⟩ := validateApplicationArgs_ok haccepted
    apply confined_iff_of_checked fun text => isAbsolute_of_startsAsArgumentPath
    intro text htext hpath
    obtain ⟨passed, hpassed, rfl⟩ := List.mem_map.mp htext
    obtain ⟨argument, -, hargument⟩ := Except.mem_of_mapM_ok hchecked passed hpassed
    obtain ⟨rfl, hconfined⟩ := checkArgument_ok hargument
    exact hconfined hpath

end confined

section plain

variable {files : FileSystem} {roots : Roots} {text token : PyStr} {lexer : Lexer} {c : CodePoint}
  {P : CodePoint → Prop}

/-- No quotation is open, and every character of the tokens has the property. -/
structure Lexer.Plainly (P : CodePoint → Prop) (lexer : Lexer) : Prop where
  mode : lexer.mode = .blank ∨ lexer.mode = .word
  token : ∀ c ∈ lexer.token, P c
  tokens : ∀ token ∈ lexer.tokens, ∀ c ∈ token, P c

theorem Lexer.Plainly.emit (h : lexer.Plainly P) : lexer.emit.Plainly P := by
  rw [Lexer.emit]
  split
  · refine ⟨Or.inl rfl, fun _ h => (nomatch h), ?_⟩
    intro token htoken
    rcases List.mem_append.mp htoken with htoken | htoken
    · exact h.tokens token htoken
    · rw [List.mem_singleton.mp htoken]
      exact h.token
  · exact ⟨Or.inl rfl, h.token, h.tokens⟩

theorem Lexer.Plainly.add (h : lexer.Plainly P) (hc : P c) : (lexer.add .word c).Plainly P := by
  refine ⟨Or.inr rfl, ?_, h.tokens⟩
  intro other hother
  rcases List.mem_append.mp hother with hother | hother
  · exact h.token other hother
  · rw [List.mem_singleton.mp hother]
    exact hc

theorem Lexer.Plainly.read (h : lexer.Plainly P) (hquote : isQuote c = false) (hescape : isEscape c = false)
    (hc : P c) : (lexer.read c).Plainly P := by
  have hread : lexer.read c = if isLexerBlank c then lexer.emit else lexer.add .word c := by
    rw [Lexer.read, hquote, hescape]
    rcases h.mode with hmode | hmode <;> rw [hmode] <;> rfl
  rw [hread]
  split
  · exact h.emit
  · exact h.add hc

/-- A text without quotes and backslashes is split. -/
theorem shlexSplit_plain (h : ∀ c ∈ text, isQuote c = false ∧ isEscape c = false ∧ P c) :
    ∃ tokens, shlexSplit text = .ok tokens ∧ ∀ token ∈ tokens, ∀ c ∈ token, P c := by
  have hrun (lexer : Lexer) (hlexer : lexer.Plainly P) : (text.foldl Lexer.read lexer).Plainly P := by
    induction text generalizing lexer with
    | nil => exact hlexer
    | cons c text ih =>
      obtain ⟨hquote, hescape, hc⟩ := h c List.mem_cons_self
      rw [List.foldl_cons]
      exact ih (fun c hc => h c (List.mem_cons_of_mem _ hc)) _ (hlexer.read hquote hescape hc)
  have hplain := hrun ⟨.blank, [], false, []⟩ ⟨Or.inl rfl, fun _ h => (nomatch h), fun _ h => (nomatch h)⟩
  refine ⟨_, ?_, hplain.emit.tokens⟩
  rw [shlexSplit]
  rcases hplain.mode with hmode | hmode <;> rw [hmode]

theorem mem_of_mem_operand (h : c ∈ operand token) : c ∈ token := by
  have hstripped : c ∈ (token.reverse.dropWhile fun c => c.val = 44).reverse := by
    rw [operand, afterEquals] at h
    split at h
    · exact (List.dropWhile_sublist _).subset (List.mem_of_mem_drop h)
    · exact h
  rw [List.mem_reverse] at hstripped
  exact List.mem_reverse.mp ((List.dropWhile_sublist _).subset hstripped)

theorem slash_of_startsAsPath (h : startsAsPath text = true) : (47 : CodePoint) ∈ text := by
  obtain ⟨start, hstart, hbegins⟩ := List.any_eq_true.mp h
  have hslash : (47 : CodePoint) ∈ PyStr.ofString start := by
    have hall : ["/", "./", "../"].all (fun text => (PyStr.ofString text).contains 47) = true := by decide
    exact List.contains_iff_mem.mp (List.all_eq_true.mp hall start hstart)
  exact (List.isPrefixOf_iff_prefix.mp hbegins).subset hslash

/-- What a command is made of that no check of its text refuses. -/
def isPlain (c : CodePoint) : Bool := !isDangerous [c] && !isQuote c && !isEscape c && c.val ≠ 47

theorem isPlain_of_not_mem (h : c.val ∉ [59, 38, 124, 96, 36, 60, 62, 10, 13, 0, 39, 34, 92, 47]) :
    isPlain c = true := by
  simp only [List.mem_cons, List.not_mem_nil, or_false] at h
  have hquote : isQuote c = false := by
    rw [isQuote, Bool.or_eq_false_iff, decide_eq_false_iff_not, decide_eq_false_iff_not]
    omega
  have hescape : isEscape c = false := decide_eq_false (by omega)
  have hdangerous : isDangerous [c] = false := by
    simp only [isDangerous, List.any_cons, List.any_nil, Bool.or_false, Bool.or_eq_false_iff,
      decide_eq_false_iff_not]
    omega
  have hslash : c.val ≠ 47 := by omega
  rw [isPlain, hquote, hescape, hdangerous, decide_eq_true hslash]
  rfl

theorem validateEmbeddedPaths_plain (h : ∀ c ∈ text, isPlain c = true) :
    validateEmbeddedPaths files roots text = .ok () := by
  have hchars : ∀ c ∈ text, isQuote c = false ∧ isEscape c = false ∧ c.val ≠ 47 := by
    intro c hc
    have hplain := h c hc
    rw [isPlain, Bool.and_eq_true, Bool.and_eq_true, Bool.and_eq_true, Bool.not_eq_true', Bool.not_eq_true',
      Bool.not_eq_true', decide_eq_true_eq] at hplain
    exact ⟨hplain.1.1.2, hplain.1.2, hplain.2⟩
  obtain ⟨tokens, htokens, hslash⟩ := shlexSplit_plain hchars
  rw [validateEmbeddedPaths, htokens]
  refine checkOperands_ok.mpr fun token htoken hpath => ?_
  have hmem := mem_of_mem_operand (slash_of_startsAsPath hpath)
  exact absurd rfl (hslash token (List.mem_of_mem_tail htoken) 47 hmem)

theorem isDangerous_plain (h : ∀ c ∈ text, isPlain c = true) : isDangerous text = false := by
  rw [isDangerous, List.any_eq_false]
  intro c hc
  have hplain := h c hc
  rw [isPlain, Bool.and_eq_true, Bool.and_eq_true, Bool.and_eq_true, Bool.not_eq_true'] at hplain
  have hsingle : isDangerous [c] = false := hplain.1.1.1
  rw [isDangerous, List.any_cons, List.any_nil, Bool.or_false] at hsingle
  exact Bool.eq_false_iff.mp hsingle

end plain

section samples

/-- A file system that finds everything. -/
def fullDisk : FileSystem := ⟨fun _ => some true, fun _ _ => true⟩

def sampleRoots : Roots :=
  ⟨["srv", "workspace"].map PyStr.ofString, ["srv", "state"].map PyStr.ofString⟩

theorem confined_iff_comesBack_sample :
    ((∀ text ∈ [PyStr.ofString "LoadFile ../state/a.bin"].flatMap operandsOf,
        inRoots sampleRoots (resolved sampleRoots text) = true) ↔
      ∀ text ∈ [PyStr.ofString "LoadFile ../state/a.bin"].flatMap operandsOf,
        startsAsPath text = false → comesBack sampleRoots text = true) ∧
    ((∀ text ∈ [PyStr.ofString "--file=a.bin"].map afterEquals,
        inRoots sampleRoots (resolved sampleRoots text) = true) ↔
      ∀ text ∈ [PyStr.ofString "--file=a.bin"].map afterEquals,
        startsAsArgumentPath text = false → comesBack sampleRoots text = true) :=
  ⟨(confined_iff_comesBack fullDisk sampleRoots).1 256 [PyStr.ofString "LoadFile ../state/a.bin"] _
      (by decide),
    (confined_iff_comesBack fullDisk sampleRoots).2 [PyStr.ofString "--file=a.bin"] _ (by decide)⟩

/-- A name in front of the parent steps is enough to leave the roots. -/
theorem operands_not_confined :
    validateRawCommands fullDisk (some sampleRoots) 256 [PyStr.ofString "LoadFile x/../../../etc/passwd"] =
        .ok [PyStr.ofString "LoadFile x/../../../etc/passwd"] ∧
      operandsOf (PyStr.ofString "LoadFile x/../../../etc/passwd") = [PyStr.ofString "x/../../../etc/passwd"] ∧
      resolved sampleRoots (PyStr.ofString "x/../../../etc/passwd") = ["etc", "passwd"].map PyStr.ofString ∧
      inRoots sampleRoots (["etc", "passwd"].map PyStr.ofString) = false ∧
      validateApplicationArgs fullDisk sampleRoots [PyStr.ofString "--file=x/../../../etc/passwd"] =
        .ok [PyStr.ofString "--file=x/../../../etc/passwd"] ∧
      afterEquals (PyStr.ofString "--file=x/../../../etc/passwd") = PyStr.ofString "x/../../../etc/passwd" := by
  decide

end samples

end JLinkMcp.Security
