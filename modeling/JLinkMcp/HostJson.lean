import JLinkMcp.HostText

namespace JLinkMcp.Host

/-- What `json.loads` returns. A float is kept as its literal. -/
inductive PyJson where
  | null
  | bool (b : Bool)
  | int (n : Int)
  | float (literal : PyStr)
  | str (text : PyStr)
  | list (items : List PyJson)
  | dict (items : List (PyStr × PyJson))

/-- A scanner returns the value it finds and the text behind it. -/
abbrev Scan := PyStr → Except PyError (PyJson × PyStr)

/-- Whether the code point is the character of the source. -/
def CodePoint.is (c : CodePoint) (char : Char) : Bool := c.val = char.toNat

def skipWhitespace (text : PyStr) : PyStr :=
  text.dropWhile fun c => c.is ' ' || c.is '\t' || c.is '\n' || c.is '\r'

/-- The text behind the literal. -/
def afterLiteral (literal : String) (text : PyStr) : Option PyStr :=
  if PyStr.ofString literal <+: text then some (text.drop literal.length) else none

def isAsciiDigit (c : CodePoint) : Bool := 48 ≤ c.val && c.val ≤ 57

def hexValue (c : CodePoint) : Option Nat :=
  if isAsciiDigit c then some (c.val - 48)
  else if 97 ≤ c.val ∧ c.val ≤ 102 then some (c.val - 87)
  else if 65 ≤ c.val ∧ c.val ≤ 70 then some (c.val - 55)
  else none

/-- Four hexadecimal digits as a number. -/
def hexUnit : PyStr → Option (Nat × PyStr)
  | a :: b :: c :: d :: rest => do
    let a ← hexValue a
    let b ← hexValue b
    let c ← hexValue c
    let d ← hexValue d
    return (a * 4096 + b * 256 + c * 16 + d, rest)
  | _ => none

/-- The character of a one-letter escape. -/
def shortEscape (c : CodePoint) : Option Nat :=
  if c.is '"' || c.is '\\' || c.is '/' then some c.val
  else if c.is 'b' then some 8
  else if c.is 'f' then some 12
  else if c.is 'n' then some 10
  else if c.is 'r' then some 13
  else if c.is 't' then some 9
  else none

/-- The text behind `\u`; a high surrogate joins the low one that follows it as an escape. -/
def scanUnicodeEscape (text : PyStr) : Except PyError (CodePoint × PyStr) :=
  match hexUnit text with
  | none => .error .jsonDecodeError
  | some (unit, rest) =>
    if 0xD800 ≤ unit ∧ unit ≤ 0xDBFF then
      match afterLiteral "\\u" rest with
      | none => .ok (Fin.ofNat _ unit, rest)
      | some behind =>
        match hexUnit behind with
        | none => .error .jsonDecodeError
        | some (low, behind) =>
          if 0xDC00 ≤ low ∧ low ≤ 0xDFFF then
            .ok (Fin.ofNat _ (0x10000 + (unit - 0xD800) * 0x400 + (low - 0xDC00)), behind)
          else .ok (Fin.ofNat _ unit, rest)
    else .ok (Fin.ofNat _ unit, rest)

/-- The text behind a backslash. -/
def scanEscape : PyStr → Except PyError (CodePoint × PyStr)
  | [] => .error .jsonDecodeError
  | c :: rest =>
    if c.is 'u' then scanUnicodeEscape rest
    else match shortEscape c with
      | none => .error .jsonDecodeError
      | some char => .ok (Fin.ofNat _ char, rest)

/-- The text behind the opening quote. Every round takes at least one character, so that as many
rounds as there are characters are enough. -/
def scanString : Nat → PyStr → Except PyError (PyStr × PyStr)
  | 0, _ => .error .jsonDecodeError
  | _ + 1, [] => .error .jsonDecodeError
  | rounds + 1, c :: rest =>
    if c.is '"' then .ok ([], rest)
    else if c.is '\\' then do
      let (char, rest) ← scanEscape rest
      let (text, rest) ← scanString rounds rest
      return (char :: text, rest)
    else if c.val < 0x20 then .error .jsonDecodeError
    else do
      let (text, rest) ← scanString rounds rest
      return (c :: text, rest)

/-- The digits of a fraction and its point, if there is one. -/
def scanFraction : PyStr → PyStr × PyStr
  | point :: rest =>
    let digits := rest.takeWhile isAsciiDigit
    if point.is '.' ∧ digits ≠ [] then (point :: digits, rest.drop digits.length)
    else ([], point :: rest)
  | [] => ([], [])

/-- An exponent, if there is one. -/
def scanExponent : PyStr → PyStr × PyStr
  | e :: rest =>
    let sign := rest.take (if (rest.head?.any fun c => c.is '+' || c.is '-') then 1 else 0)
    let unsigned := rest.drop sign.length
    let digits := unsigned.takeWhile isAsciiDigit
    if (e.is 'e' ∨ e.is 'E') ∧ digits ≠ [] then
      (e :: sign ++ digits, unsigned.drop digits.length)
    else ([], e :: rest)
  | [] => ([], [])

/-- The digits of an integer without leading zeros. -/
def integerDigits (text : PyStr) : PyStr :=
  match text with
  | [] => []
  | c :: _ => if c.is '0' then [c] else text.takeWhile isAsciiDigit

/-- `int(literal)`, which refuses more than 4300 digits -/
def pyInt (negative : Bool) (digits : PyStr) : Except PyError Int :=
  if digits.length > 4300 then
    .error (.valueError "Exceeds the limit (4300 digits) for integer string conversion")
  else
    let n : Nat := digits.foldl (fun n c => n * 10 + (c.val - 48)) 0
    .ok (if negative then -n else n)

def scanNumber (text : PyStr) : Except PyError (PyJson × PyStr) :=
  let negative : Bool := text.head?.any fun c => c.is '-'
  let unsigned := if negative then text.tail else text
  let digits := integerDigits unsigned
  if digits = [] then .error .jsonDecodeError
  else
    let (fraction, rest) := scanFraction (unsigned.drop digits.length)
    let (exponent, rest) := scanExponent rest
    if fraction = [] ∧ exponent = [] then do
      let n ← pyInt negative digits
      return (.int n, rest)
    else .ok (.float (text.take (text.length - rest.length)), rest)

/-- `null` and the other values that are named; the last three are floats. -/
def scanName (text : PyStr) : Option (PyJson × PyStr) :=
  let named := fun (literal : String) (value : PyJson) =>
    (afterLiteral literal text).map fun rest => (value, rest)
  named "null" .null <|> named "true" (.bool true) <|> named "false" (.bool false) <|>
    named "NaN" (.float (PyStr.ofString "NaN")) <|>
    named "Infinity" (.float (PyStr.ofString "Infinity")) <|>
    named "-Infinity" (.float (PyStr.ofString "-Infinity"))

/-- The items of a list that is not empty, up to its bracket. -/
def scanItems (scan : Scan) : Nat → PyStr → Except PyError (List PyJson × PyStr)
  | 0, _ => .error .jsonDecodeError
  | rounds + 1, text => do
    let (value, rest) ← scan text
    match skipWhitespace rest with
    | [] => .error .jsonDecodeError
    | c :: rest =>
      if c.is ']' then .ok ([value], rest)
      else if c.is ',' then do
        let (values, rest) ← scanItems scan rounds (skipWhitespace rest)
        return (value :: values, rest)
      else .error .jsonDecodeError

/-- A name, the colon and the value. -/
def scanPair (scan : Scan) : PyStr → Except PyError ((PyStr × PyJson) × PyStr)
  | [] => .error .jsonDecodeError
  | quote :: text =>
    if !quote.is '"' then .error .jsonDecodeError
    else do
      let (name, rest) ← scanString text.length text
      match skipWhitespace rest with
      | [] => .error .jsonDecodeError
      | colon :: rest =>
        if !colon.is ':' then .error .jsonDecodeError
        else do
          let (value, rest) ← scan (skipWhitespace rest)
          return ((name, value), rest)

/-- A later value of a name takes the place of an earlier one. -/
def setPair (pairs : List (PyStr × PyJson)) (pair : PyStr × PyJson) : List (PyStr × PyJson) :=
  if pairs.any fun item => item.1 = pair.1 then
    pairs.map fun item => if item.1 = pair.1 then pair else item
  else pairs ++ [pair]

/-- The pairs of an object that is not empty, up to its brace. -/
def scanPairs (scan : Scan) :
    Nat → List (PyStr × PyJson) → PyStr → Except PyError (List (PyStr × PyJson) × PyStr)
  | 0, _, _ => .error .jsonDecodeError
  | rounds + 1, pairs, text => do
    let (pair, rest) ← scanPair scan text
    let pairs := setPair pairs pair
    match skipWhitespace rest with
    | [] => .error .jsonDecodeError
    | c :: rest =>
      if c.is '}' then .ok (pairs, rest)
      else if c.is ',' then scanPairs scan rounds pairs (skipWhitespace rest)
      else .error .jsonDecodeError

def scanList (scan : Scan) (text : PyStr) : Except PyError (PyJson × PyStr) :=
  match skipWhitespace text with
  | [] => .error .jsonDecodeError
  | c :: rest =>
    if c.is ']' then .ok (.list [], rest)
    else do
      let (items, rest) ← scanItems scan text.length (c :: rest)
      return (.list items, rest)

def scanObject (scan : Scan) (text : PyStr) : Except PyError (PyJson × PyStr) :=
  match skipWhitespace text with
  | [] => .error .jsonDecodeError
  | c :: rest =>
    if c.is '}' then .ok (.dict [], rest)
    else do
      let (pairs, rest) ← scanPairs scan text.length [] (c :: rest)
      return (.dict pairs, rest)

/-- One value; `depth` is how many lists and objects the interpreter still nests. -/
def scanOnce (depth : Nat) (text : PyStr) : Except PyError (PyJson × PyStr) :=
  match text with
  | [] => .error .jsonDecodeError
  | c :: rest =>
    if c.is '"' then do
      let (text, rest) ← scanString rest.length rest
      return (.str text, rest)
    else if c.is '{' ∨ c.is '[' then
      match depth with
      | 0 => .error .recursionError
      | depth + 1 =>
        if c.is '{' then scanObject (scanOnce depth) rest else scanList (scanOnce depth) rest
    else match scanName text with
      | some found => .ok found
      | none => scanNumber text

/-- `json.loads(text)` -/
def loads (depth : Nat) (text : PyStr) : Except PyError PyJson :=
  if text.head? = some 0xFEFF then .error .jsonDecodeError
  else do
    let (value, rest) ← scanOnce depth (skipWhitespace text)
    if skipWhitespace rest = [] then .ok value else .error .jsonDecodeError

theorem loads_braces (depth : Nat) : loads (depth + 1) (PyStr.ofString "{}") = .ok (.dict []) := rfl

end JLinkMcp.Host
