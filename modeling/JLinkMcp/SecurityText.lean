import JLinkMcp.HostJson
import Mathlib.Data.List.TakeWhile

namespace JLinkMcp.Security

open Host

/-- `str.isspace()` of a character; it is also what `\s` matches. -/
def isSpace (c : CodePoint) : Bool :=
  (9 ≤ c.val && c.val ≤ 13) || (28 ≤ c.val && c.val ≤ 32) || c.val = 0x85 || c.val = 0xA0 || c.val = 0x1680 ||
    (0x2000 ≤ c.val && c.val ≤ 0x200A) || c.val = 0x2028 || c.val = 0x2029 || c.val = 0x202F ||
    c.val = 0x205F || c.val = 0x3000

/-- `text.rstrip()` -/
def rstrip (text : PyStr) : PyStr := (text.reverse.dropWhile isSpace).reverse

/-- `text.strip()` -/
def strip (text : PyStr) : PyStr := rstrip (text.dropWhile isSpace)

/-- `text.split(maxsplit=1)[0]` of a text that does not begin with a space. -/
def firstWord (text : PyStr) : PyStr := text.takeWhile fun c => !isSpace c

def isLetter (c : CodePoint) : Bool := (65 ≤ c.val && c.val ≤ 90) || (97 ≤ c.val && c.val ≤ 122)

def isDigit (c : CodePoint) : Bool := 48 ≤ c.val && c.val ≤ 57

/-- `[A-Za-z?]` -/
def startsName (c : CodePoint) : Bool := isLetter c || c.is '?'

/-- `[A-Za-z0-9?_-]` -/
def continuesName (c : CodePoint) : Bool := isLetter c || isDigit c || c.is '?' || c.is '_' || c.is '-'

/-- `_COMMAND_NAME.fullmatch(text)` -/
def isCommandName : PyStr → Bool
  | [] => false
  | c :: rest => startsName c && rest.all continuesName

/-- `text.lower()` of a text that is compared with ASCII ones -/
def lowerAscii (text : PyStr) : PyStr :=
  text.map fun c => if 65 ≤ c.val ∧ c.val ≤ 90 then Fin.ofNat 0x110000 (c.val + 32) else c

/-- What the validators raise. -/
inductive Refusal where
  | emptyCommand
  | shellCharacters
  | invalidName (first : PyStr)
  | noCommand
  | tooManyCommands (limit : Nat)
  | quoting (reason : String)
  | outsideRoots (candidate : PyStr)
  | emptyGdbCommand
  | largeGdbCommand
  | hostCode
  | invalidGdbName (first : PyStr)
  | onlyMonitor
  | miNotAllowlisted (first : PyStr)
  | gdbNotAllowlisted (first : PyStr)
  | hostMutation
  | unsafeArgument (argument : PyStr)
  | tooManyArguments
  | osError
  deriving DecidableEq

section space

variable {text : PyStr} {c : CodePoint}

theorem rstrip_append_of_not_space {before after : PyStr} (h : isSpace c = false) :
    rstrip (before ++ c :: after) = before ++ c :: rstrip after := by
  rw [rstrip, rstrip, List.reverse_append, List.reverse_cons, List.append_assoc]
  rw [List.dropWhile_append]
  split
  next hempty =>
    rw [List.isEmpty_iff.mp hempty]
    have hc : ([c] ++ before.reverse).dropWhile isSpace = [c] ++ before.reverse :=
      List.dropWhile_cons_of_neg (by rw [h]; exact Bool.false_ne_true)
    rw [hc, List.reverse_append, List.reverse_reverse]
    rfl
  next =>
    rw [List.reverse_append, List.reverse_append, List.reverse_reverse, List.append_assoc]
    rfl

theorem strip_of_space (h : isSpace c = true) : strip (c :: text) = strip text := by
  rw [strip, strip, List.dropWhile_cons_of_pos h]

theorem strip_append_of_spaces {spaces : PyStr} (h : ∀ c ∈ spaces, isSpace c = true) :
    strip (spaces ++ text) = strip text := by
  induction spaces with
  | nil => rfl
  | cons c spaces ih =>
    rw [List.cons_append, strip_of_space (h c List.mem_cons_self)]
    exact ih fun c hc => h c (List.mem_cons_of_mem _ hc)

/-- A text that begins and ends within itself is not stripped. -/
theorem strip_of_not_space (h : isSpace c = false) : strip (c :: text) = c :: rstrip text := by
  rw [strip, List.dropWhile_cons_of_neg (by rw [h]; exact Bool.false_ne_true)]
  have hnothing : rstrip ([] ++ c :: text) = [] ++ c :: rstrip text := rstrip_append_of_not_space h
  exact hnothing

/-- A text that is not all spaces is a text that is not a space. -/
theorem exists_of_strip_ne_nil (h : strip text ≠ []) : ∃ spaces c rest, text = spaces ++ c :: rest ∧
    (∀ c ∈ spaces, isSpace c = true) ∧ isSpace c = false ∧ strip text = c :: rstrip rest := by
  induction text with
  | nil => exact absurd rfl h
  | cons c text ih =>
    by_cases hc : isSpace c = true
    · rw [strip_of_space hc] at h ⊢
      obtain ⟨spaces, first, rest, rfl, hspaces, hfirst, hstrip⟩ := ih h
      refine ⟨c :: spaces, first, rest, rfl, fun other hother => ?_, hfirst, hstrip⟩
      rcases List.mem_cons.mp hother with rfl | hother
      · exact hc
      · exact hspaces other hother
    · have hc : isSpace c = false := Bool.eq_false_iff.mpr hc
      exact ⟨[], c, text, rfl, fun _ h => (nomatch h), hc, strip_of_not_space hc⟩

theorem strip_append_ne_nil {before after : PyStr} (h : isSpace c = false) : strip (before ++ c :: after) ≠ [] := by
  induction before with
  | nil =>
    have hstrip : strip (c :: after) = c :: rstrip after := strip_of_not_space h
    rw [List.nil_append, hstrip]
    exact List.cons_ne_nil _ _
  | cons other before ih =>
    by_cases hother : isSpace other = true
    · rw [List.cons_append, strip_of_space hother]
      exact ih
    · rw [List.cons_append, strip_of_not_space (Bool.eq_false_iff.mpr hother)]
      exact List.cons_ne_nil _ _

/-- A text between two characters that are no spaces is not stripped. -/
theorem strip_between {last : CodePoint} {middle : PyStr} (h : isSpace c = false) (hlast : isSpace last = false) :
    strip (c :: middle ++ [last]) = c :: middle ++ [last] := by
  have hstrip : strip (c :: (middle ++ [last])) = c :: rstrip (middle ++ [last]) := strip_of_not_space h
  have hrstrip : rstrip (middle ++ [last]) = middle ++ last :: rstrip [] := rstrip_append_of_not_space hlast
  rw [List.cons_append, hstrip, hrstrip]
  rfl

theorem isSpace_of_strip_eq_nil (h : strip text = []) : ∀ {c}, c ∈ text → isSpace c = true := by
  intro c hc
  obtain ⟨before, after, rfl⟩ := List.append_of_mem hc
  by_cases hspace : isSpace c = true
  · exact hspace
  · exact absurd h (strip_append_ne_nil (Bool.eq_false_iff.mpr hspace))

theorem rstrip_of_spaces (h : ∀ c ∈ text, isSpace c = true) : rstrip text = [] := by
  have hreverse : ∀ c ∈ text.reverse, isSpace c = true := fun c hc => h c (List.mem_reverse.mp hc)
  have hdropped : text.reverse.dropWhile isSpace = [] := List.dropWhile_eq_nil_iff.mpr hreverse
  rw [rstrip, hdropped]
  rfl

theorem firstWord_append {word rest : PyStr} (hword : ∀ c ∈ word, isSpace c = false) (h : isSpace c = true) :
    firstWord (word ++ c :: rest) = word := by
  rw [firstWord, List.takeWhile_append_of_pos fun c hc => by rw [hword c hc]; rfl]
  rw [List.takeWhile_cons_of_neg (by rw [h]; exact Bool.false_ne_true), List.append_nil]

end space

end JLinkMcp.Security
