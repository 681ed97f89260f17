import FlexForm.Json.Writer

/-! # Reading JSON texts

A strict reader, except that it may also take the names of the special numbers. A fault carries the
number of characters left when it was met, from which its place follows.

* `Json.Fault`, `Json.Fault.message`: what can be wrong, and the words for it.
* `Json.read`: the value of a whole text.
* `Json.readMaybe`: the value of a text that is JSON, and any other value unchanged.
-/

namespace FlexForm.Json
set_option autoImplicit false

/-! ## Faults -/

inductive Cause where
  | value
  | key
  | colon
  | comma
  | unterminated
  | control
  | escape
  | unicodeEscape
  | extra
  | mark
  /-- An integer with so many digits is too long to be read. -/
  | digits (count : Nat)
  /-- The name of a special number stands where none is allowed. -/
  | constant (name : String)
  deriving DecidableEq, Inhabited

/-- A cause, and how many characters were left where it was met. -/
structure Fault where
  cause : Cause
  left : Nat
  deriving DecidableEq, Inhabited

/-- What the text should have held, or what it holds wrongly. -/
def Cause.message : Cause → String
  | .value => "Expecting value"
  | .key => "Expecting property name enclosed in double quotes"
  | .colon => "Expecting ':' delimiter"
  | .comma => "Expecting ',' delimiter"
  | .unterminated => "Unterminated string starting at"
  | .control => "Invalid control character at"
  | .escape => "Invalid \\escape"
  | .unicodeEscape => "Invalid \\uXXXX escape"
  | .extra => "Extra data"
  | .mark => "Unexpected UTF-8 BOM (decode using utf-8-sig)"
  | .digits count =>
    s!"Exceeds the limit (4300 digits) for integer string conversion: value has {count} digits; " ++
      "use sys.set_int_max_str_digits() to increase the limit"
  | .constant name => s!"{name} is not a valid JSON value"

/-- The line and the column of a place in a text, both counted from one. -/
def lineAndColumn (before : List Char) : Nat × Nat :=
  (before.count '\n' + 1, (before.reverse.takeWhile (· != '\n')).length + 1)

/-- The words for a fault, with its place in the text. -/
def Fault.message (fault : Fault) (source : List Char) : String :=
  match fault.cause with
  | .digits _ | .constant _ => fault.cause.message
  | cause =>
    let place := source.length - fault.left
    let (line, column) := lineAndColumn (source.take place)
    s!"{cause.message}: line {line} column {column} (char {place})"

/-! ## Parts of a text -/

def isSpace (c : Char) : Bool := c == ' ' || c == '\t' || c == '\n' || c == '\r'

def skipSpace (s : List Char) : List Char := s.dropWhile isSpace

def hexValue? (c : Char) : Option Nat :=
  if '0' ≤ c && c ≤ '9' then some (c.toNat - 48)
  else if 'a' ≤ c && c ≤ 'f' then some (c.toNat - 87)
  else if 'A' ≤ c && c ≤ 'F' then some (c.toNat - 55)
  else none

def hex4? (a b c d : Char) : Option Nat := do
  pure (((← hexValue? a) * 16 + (← hexValue? b)) * 16 * 16 + (← hexValue? c) * 16 + (← hexValue? d))

/-- The character with the code point, if it is one. -/
def charOf (n : Nat) : Char := if n.isValidChar then Char.ofNat n else '\uFFFD'

/-- The character for the letter of a short escape. -/
def shortEscape? (c : Char) : Option Char :=
  match c with
  | '"' => some '"'
  | '\\' => some '\\'
  | '/' => some '/'
  | 'b' => some '\x08'
  | 'f' => some '\x0c'
  | 'n' => some '\n'
  | 'r' => some '\r'
  | 't' => some '\t'
  | _ => none

/-- The characters for a row of code points in which a character beyond the first 65536 may stand as
a pair of surrogates. -/
def joinPairs : List Nat → List Char
  | [] => []
  | [n] => [charOf n]
  | high :: low :: rest =>
    if 0xD800 ≤ high && high ≤ 0xDBFF && 0xDC00 ≤ low && low ≤ 0xDFFF then
      charOf (0x10000 + (high - 0xD800) * 0x400 + (low - 0xDC00)) :: joinPairs rest
    else charOf high :: joinPairs (low :: rest)

private def consTo (n : Nat) : Except Fault (List Nat × List Char) →
    Except Fault (List Nat × List Char)
  | .ok (units, rest) => .ok (n :: units, rest)
  | .error e => .error e

theorem exists_of_consTo {n : Nat} {result : Except Fault (List Nat × List Char)}
    {units : List Nat} {rest : List Char} (h : consTo n result = .ok (units, rest)) :
    ∃ more, result = .ok (more, rest) ∧ units = n :: more := by
  cases result with
  | error e => cases h
  | ok read =>
    cases h
    exact ⟨read.1, rfl, rfl⟩

/-- The code points of a string after its opening quote, and what follows it. An `unterminated`
fault leaves its place to the caller. -/
def readUnits : List Char → Except Fault (List Nat × List Char)
  | [] => .error ⟨.unterminated, 0⟩
  | '"' :: rest => .ok ([], rest)
  | '\\' :: 'u' :: a :: b :: c :: d :: rest =>
    match hex4? a b c d with
    | some n =>
      if rest.isEmpty then .error ⟨.unicodeEscape, 5⟩ else consTo n (readUnits rest)
    | none => .error ⟨.unicodeEscape, rest.length + 5⟩
  | ['\\'] => .error ⟨.unterminated, 0⟩
  | '\\' :: c :: rest =>
    if c == 'u' then .error ⟨.unicodeEscape, rest.length + 1⟩
    else match shortEscape? c with
      | some e => consTo e.toNat (readUnits rest)
      | none => .error ⟨.escape, rest.length + 2⟩
  | c :: rest =>
    if c.toNat < 32 then .error ⟨.control, rest.length + 1⟩ else consTo c.toNat (readUnits rest)

/-- A string whose opening quote stood right before the text. -/
def readQuoted (s : List Char) : Except Fault (String × List Char) :=
  match readUnits s with
  | .ok (units, rest) => .ok (String.ofList (joinPairs units), rest)
  | .error ⟨.unterminated, _⟩ => .error ⟨.unterminated, s.length + 1⟩
  | .error e => .error e

def decimalOf (digits : List Char) : Nat :=
  digits.foldl (fun n c => n * 10 + (c.toNat - 48)) 0

/-- The digits of a fraction, when the text goes on with a point and a digit. -/
def readFraction (s : List Char) : List Char × List Char :=
  match s with
  | '.' :: c :: rest =>
    if c.isDigit then ((c :: rest).takeWhile Char.isDigit, (c :: rest).dropWhile Char.isDigit)
    else ([], s)
  | _ => ([], s)

def readExponent (s : List Char) : Option Int × List Char :=
  match s with
  | e :: rest =>
    if e == 'e' || e == 'E' then
      let (negative, digits) := match rest with
        | '-' :: r => (true, r)
        | '+' :: r => (false, r)
        | r => (false, r)
      let ds := digits.takeWhile Char.isDigit
      if ds.isEmpty then (none, s)
      else
        let n : Int := decimalOf ds
        (some (if negative then -n else n), digits.dropWhile Char.isDigit)
    else (none, s)
  | [] => (none, s)

def readNumber (s : List Char) : Except Fault (Json × List Char) :=
  let (negative, unsigned) := match s with
    | '-' :: r => (true, r)
    | r => (false, r)
  match unsigned with
  | [] => .error ⟨.value, s.length⟩
  | c :: r =>
    if !c.isDigit then .error ⟨.value, s.length⟩
    else
      let digits := if c == '0' then ['0'] else unsigned.takeWhile Char.isDigit
      let rest := if c == '0' then r else unsigned.dropWhile Char.isDigit
      let (fraction, rest) := readFraction rest
      let (exponent, rest) := readExponent rest
      if fraction.isEmpty && exponent.isNone then
        if digits.length > maxDigits then .error ⟨.digits digits.length, s.length⟩
        else
          let n : Int := decimalOf digits
          .ok (.int (if negative then -n else n), rest)
      else
        let x := Binary64.ofDecimal negative (decimalOf (digits ++ fraction))
          (exponent.getD 0 - fraction.length)
        .ok (.float x, rest)

/-! ## Values -/

/-- A value that is neither a string nor a container, and what follows it. Without `special` the
names of the special numbers are faults. -/
def readScalar (special : Bool) (s : List Char) : Except Fault (Json × List Char) :=
  let name (text : String) (x : Binary64) (rest : List Char) : Except Fault (Json × List Char) :=
    if special then .ok (.float x, rest) else .error ⟨.constant text, s.length⟩
  match s with
  | 'n' :: 'u' :: 'l' :: 'l' :: rest => .ok (.null, rest)
  | 't' :: 'r' :: 'u' :: 'e' :: rest => .ok (.bool true, rest)
  | 'f' :: 'a' :: 'l' :: 's' :: 'e' :: rest => .ok (.bool false, rest)
  | 'N' :: 'a' :: 'N' :: rest => name "NaN" Binary64.nan rest
  | 'I' :: 'n' :: 'f' :: 'i' :: 'n' :: 'i' :: 't' :: 'y' :: rest =>
    name "Infinity" (Binary64.infinity false) rest
  | '-' :: 'I' :: 'n' :: 'f' :: 'i' :: 'n' :: 'i' :: 't' :: 'y' :: rest =>
    name "-Infinity" (Binary64.infinity true) rest
  | _ => readNumber s

mutual

/-- A value at the start of the text, and what follows it. Each call inside consumes a character or
moves on to the next kind of call, so twice the length of the text is fuel enough. -/
def readValue (special : Bool) : Nat → List Char → Except Fault (Json × List Char)
  | 0, s => .error ⟨.value, s.length⟩
  | _ + 1, '"' :: rest => do
    let (text, rest) ← readQuoted rest
    pure (.str text, rest)
  | fuel + 1, '[' :: rest =>
    match skipSpace rest with
    | ']' :: rest => .ok (.arr [], rest)
    | rest => do
      let (items, rest) ← readItems special fuel rest
      pure (.arr items, rest)
  | fuel + 1, '{' :: rest =>
    match skipSpace rest with
    | '}' :: rest => .ok (.obj [], rest)
    | rest => do
      let (fields, rest) ← readFields special fuel [] rest
      pure (.obj fields, rest)
  | _ + 1, s => readScalar special s

def readItems (special : Bool) : Nat → List Char → Except Fault (List Json × List Char)
  | 0, s => .error ⟨.value, s.length⟩
  | fuel + 1, s => do
    let (item, rest) ← readValue special fuel s
    match skipSpace rest with
    | ']' :: rest => pure ([item], rest)
    | ',' :: rest => do
      let (items, rest) ← readItems special fuel (skipSpace rest)
      pure (item :: items, rest)
    | rest => throw ⟨.comma, rest.length⟩

/-- The fields of an object up to its closing brace, added to those read before. -/
def readFields (special : Bool) : Nat → List (String × Json) → List Char →
    Except Fault (List (String × Json) × List Char)
  | 0, _, s => .error ⟨.key, s.length⟩
  | fuel + 1, before, '"' :: rest => do
    let (key, rest) ← readQuoted rest
    match skipSpace rest with
    | ':' :: rest =>
      let (value, rest) ← readValue special fuel (skipSpace rest)
      let fields := Fields.insert before key value
      match skipSpace rest with
      | '}' :: rest => pure (fields, rest)
      | ',' :: rest => readFields special fuel fields (skipSpace rest)
      | rest => throw ⟨.comma, rest.length⟩
    | rest => throw ⟨.colon, rest.length⟩
  | _ + 1, _, s => .error ⟨.key, s.length⟩

end

/-- The value of a whole text. -/
def readChars (special : Bool) (s : List Char) : Except Fault Json := do
  match s with
  | '\uFEFF' :: _ => throw ⟨.mark, s.length⟩
  | _ =>
    let (value, rest) ← readValue special (2 * s.length + 2) (skipSpace s)
    match skipSpace rest with
    | [] => pure value
    | rest => throw ⟨.extra, rest.length⟩

/-- The value of a text, or the words for its first fault. -/
def read (special : Bool) (source : String) : Except String Json :=
  match readChars special source.toList with
  | .ok v => .ok v
  | .error fault => .error (fault.message source.toList)

/-- The value of a text that is JSON; any other value is left as it is. -/
def readMaybe : Json → Json
  | .str s =>
    match readChars true s.toList with
    | .ok v => v
    | .error _ => .str s
  | v => v

@[simp] theorem readMaybe_obj (fields : List (String × Json)) :
    readMaybe (.obj fields) = .obj fields := rfl

end FlexForm.Json
