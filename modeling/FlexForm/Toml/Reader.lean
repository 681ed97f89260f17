import FlexForm.Json.Reader
import FlexForm.Timestamp.Basic
import FlexForm.Toml.Value

/-! # Reading the parts of a settings file

* `Toml.readKey`: a dotted key.
* `Toml.readText`: a text in quotes of any of the four kinds.
* `Toml.readNumber?`, `Toml.readMoment`: numbers and points in time.
* `Toml.readValue`: any value.
-/

namespace FlexForm.Toml
set_option autoImplicit false

def failAt {α : Type} (cause : Cause) (s : List Char) : Except Fault α := .error ⟨cause, s.length⟩

/-! ## Characters -/

def isControl (c : Char) : Bool := c.toNat < 32 || c.toNat == 127

def isBlank (c : Char) : Bool := c == ' ' || c == '\t'

def isBlankOrNewline (c : Char) : Bool := isBlank c || c == '\n'

def skipBlanks (s : List Char) : List Char := s.dropWhile isBlank

/-- A control character that may not stand in a text of one line or a comment. -/
def isIllegal (c : Char) : Bool := isControl c && c != '\t'

/-- A control character that may not stand in a text of several lines. -/
def isIllegalInLines (c : Char) : Bool := isIllegal c && c != '\n'

def isKeyChar (c : Char) : Bool :=
  c.isAlphanum || c == '-' || c == '_'

def skipComment (s : List Char) : Except Fault (List Char) :=
  match s with
  | '#' :: rest =>
    match rest.takeWhile (· != '\n') |>.find? isIllegal with
    | some c => failAt (.invalid c) (rest.dropWhile fun d => !isIllegal d)
    | none => .ok (rest.dropWhile (· != '\n'))
  | _ => .ok s

/-- What follows blanks, line ends and comments. -/
def skipLines : Nat → List Char → Except Fault (List Char)
  | 0, s => .ok s
  | fuel + 1, s => do
    let rest ← skipComment (s.dropWhile isBlankOrNewline)
    if rest.length = s.length then pure rest else skipLines fuel rest

/-! ## Texts -/

/-- The character with the hexadecimal number of so many digits at the start. -/
def readCode (width : Nat) (s : List Char) : Except Fault (Char × List Char) :=
  let digits := (s.take width).filterMap Json.hexValue?
  if digits.length < width then failAt .hexadecimal s
  else
    let n := digits.foldl (fun n d => n * 16 + d) 0
    let rest := s.drop width
    if n.isValidChar then .ok (Char.ofNat n, rest) else failAt .noCharacter rest

def shortEscape? (c : Char) : Option Char :=
  match c with
  | 'b' => some '\x08'
  | 't' => some '\t'
  | 'n' => some '\n'
  | 'f' => some '\x0c'
  | 'r' => some '\r'
  | '"' => some '"'
  | '\\' => some '\\'
  | _ => none

/-- What follows a backslash at the end of a line: the blanks and lines up to the next character. -/
def skipLineEnd (s : List Char) : Except Fault (List Char) :=
  match s with
  | '\n' :: rest => .ok (rest.dropWhile isBlankOrNewline)
  | _ =>
    match skipBlanks s with
    | [] => .ok []
    | '\n' :: rest => .ok (rest.dropWhile isBlankOrNewline)
    | rest => failAt .backslash rest

/-- The characters for an escape after its backslash. -/
def readEscape (lines : Bool) (s : List Char) : Except Fault (List Char × List Char) :=
  match s with
  | c :: rest =>
    if lines && isBlankOrNewline c then do
      pure ([], ← skipLineEnd s)
    else if c == 'u' then do
      let (e, rest) ← readCode 4 rest
      pure ([e], rest)
    else if c == 'U' then do
      let (e, rest) ← readCode 8 rest
      pure ([e], rest)
    else match shortEscape? c with
      | some e => .ok ([e], rest)
      | none => failAt .backslash rest
  | [] => failAt .backslash []

/-- A text with escapes up to its closing quotes: three of them when it has several lines. -/
def readEscaped (lines : Bool) : Nat → List Char → Except Fault (List Char × List Char)
  | 0, s => failAt .unterminated s
  | _ + 1, [] => failAt .unterminated []
  | fuel + 1, '\\' :: rest => do
    let (cs, rest) ← readEscape lines rest
    let (more, rest) ← readEscaped lines fuel rest
    pure (cs ++ more, rest)
  | fuel + 1, c :: rest =>
    let goOn : Except Fault (List Char × List Char) := do
      let (more, rest) ← readEscaped lines fuel rest
      pure (c :: more, rest)
    if c == '"' then
      match lines, rest with
      | false, _ => .ok ([], rest)
      | true, '"' :: '"' :: rest => .ok ([], rest)
      | true, _ => goOn
    else if (if lines then isIllegalInLines c else isIllegal c) then failAt (.illegal c) (c :: rest)
    else goOn

/-- The text up to the first place where the closing quotes stand, and what follows them. -/
def splitAtQuotes? (quotes : List Char) : List Char → Option (List Char × List Char)
  | [] => none
  | c :: rest =>
    if quotes.isPrefixOf (c :: rest) then some ([], (c :: rest).drop quotes.length)
    else (splitAtQuotes? quotes rest).map fun (cs, rest) => (c :: cs, rest)

/-- A text without escapes up to its closing quotes. -/
def readPlain (quotes : List Char) (illegal : Char → Bool) (s : List Char) :
    Except Fault (List Char × List Char) :=
  match splitAtQuotes? quotes s with
  | none => failAt (.expected (String.ofList quotes)) []
  | some (cs, rest) =>
    match cs.find? illegal with
    | some c => failAt (.invalid c) (s.dropWhile fun d => !illegal d)
    | none => .ok (cs, rest)

/-- Up to two more quotes after the closing ones belong to the text. -/
def withMoreQuotes (quote : Char) (cs rest : List Char) : List Char × List Char :=
  match rest with
  | a :: b :: rest' =>
    if a == quote && b == quote then (cs ++ [a, b], rest')
    else if a == quote then (cs ++ [a], b :: rest')
    else (cs, rest)
  | [a] => if a == quote then (cs ++ [a], []) else (cs, rest)
  | [] => (cs, [])

def dropNewline (s : List Char) : List Char :=
  match s with
  | '\n' :: rest => rest
  | _ => s

/-- A text of one line in double quotes, of which the first is gone. -/
def readLine (s : List Char) : Except Fault (String × List Char) := do
  let (cs, rest) ← readEscaped false (s.length + 1) s
  pure (String.ofList cs, rest)

/-- A text of one line in single quotes, of which the first is gone. -/
def readPlainLine (s : List Char) : Except Fault (String × List Char) := do
  let (cs, rest) ← readPlain ['\''] isIllegal s
  pure (String.ofList cs, rest)

/-- A text in quotes, when one is next. -/
def readText? (s : List Char) : Option (Except Fault (String × List Char)) :=
  match s with
  | '"' :: '"' :: '"' :: rest => some do
    let s := dropNewline rest
    let (cs, rest) ← readEscaped true (s.length + 1) s
    let (cs, rest) := withMoreQuotes '"' cs rest
    pure (String.ofList cs, rest)
  | '\'' :: '\'' :: '\'' :: rest => some do
    let (cs, rest) ← readPlain ['\'', '\'', '\''] isIllegalInLines (dropNewline rest)
    let (cs, rest) := withMoreQuotes '\'' cs rest
    pure (String.ofList cs, rest)
  | '"' :: rest => some (readLine rest)
  | '\'' :: rest => some (readPlainLine rest)
  | _ => none

/-! ## Keys -/

def readName (s : List Char) : Except Fault (String × List Char) :=
  match s with
  | '"' :: rest => readLine rest
  | '\'' :: rest => readPlainLine rest
  | _ =>
    let name := s.takeWhile isKeyChar
    if name.isEmpty then failAt .keyStart s
    else .ok (String.ofList name, s.dropWhile isKeyChar)

/-- The names of a key, and what follows them and the blanks behind them. -/
def readNames : Nat → List Char → Except Fault (Key × List Char)
  | 0, s => failAt .keyStart s
  | fuel + 1, s => do
    let (name, rest) ← readName s
    match skipBlanks rest with
    | '.' :: rest => do
      let (names, rest) ← readNames fuel (skipBlanks rest)
      pure (name :: names, rest)
    | rest => pure ([name], rest)

def readKey (s : List Char) : Except Fault (Key × List Char) := readNames (s.length + 1) s

/-! ## Numbers -/

/-- Digits, between which single underscores may stand; there is at least one digit. -/
def readDigits (isDigit : Char → Bool) : List Char → List Char × List Char
  | '_' :: c :: rest =>
    if isDigit c then
      let (digits, rest) := readDigits isDigit rest
      (c :: digits, rest)
    else ([], '_' :: c :: rest)
  | c :: rest =>
    if isDigit c then
      let (digits, rest) := readDigits isDigit rest
      (c :: digits, rest)
    else ([], c :: rest)
  | [] => ([], [])

/-- Digits that start with one. -/
def readDigits? (isDigit : Char → Bool) (s : List Char) : Option (List Char × List Char) :=
  if s.head?.any isDigit then some (readDigits isDigit s) else none

/-- An integer written in a base other than ten. -/
def readBased? (s : List Char) : Option (Nat × List Char) :=
  let based (base : Nat) (rest : List Char) : Option (Nat × List Char) := do
    let isDigit := fun c => (Json.hexValue? c).any (· < base)
    let (digits, rest) ← readDigits? isDigit rest
    pure ((digits.filterMap Json.hexValue?).foldl (fun n d => n * base + d) 0, rest)
  match s with
  | '0' :: 'x' :: rest => based 16 rest
  | '0' :: 'b' :: rest => based 2 rest
  | '0' :: 'o' :: rest => based 8 rest
  | _ => none

/-- The digits behind a point, when the text goes on with them. -/
def readFraction (s : List Char) : List Char × List Char :=
  match s with
  | '.' :: rest => (readDigits? Char.isDigit rest).getD ([], s)
  | _ => ([], s)

def readExponent (s : List Char) : Option Int × List Char :=
  match s with
  | e :: rest =>
    let (negative, digits) := match rest with
      | '-' :: r => (true, r)
      | '+' :: r => (false, r)
      | r => (false, r)
    if e == 'e' || e == 'E' then
      match readDigits? Char.isDigit digits with
      | some (ds, rest) =>
        let n : Int := Json.decimalOf ds
        (some (if negative then -n else n), rest)
      | none => (none, s)
    else (none, s)
  | [] => (none, s)

def readDecimal? (s : List Char) : Option (Except Fault (Value × List Char)) :=
  let (negative, unsigned) := match s with
    | '-' :: r => (true, r)
    | '+' :: r => (false, r)
    | r => (false, r)
  let whole := match unsigned with
    | '0' :: rest => some (['0'], rest)
    | _ => readDigits? Char.isDigit unsigned
  whole.map fun (digits, rest) =>
    let (fraction, rest) := readFraction rest
    let (exponent, rest) := readExponent rest
    if fraction.isEmpty && exponent.isNone then
      if digits.length > Json.maxDigits then failAt (.digits digits.length) s
      else
        let n : Int := Json.decimalOf digits
        .ok (.integer (if negative then -n else n), rest)
    else
      .ok (.number (Binary64.ofDecimal negative (Json.decimalOf (digits ++ fraction))
        (exponent.getD 0 - fraction.length)), rest)

def readSpecial? (s : List Char) : Option (Value × List Char) :=
  let (negative, unsigned) := match s with
    | '-' :: r => (true, r)
    | '+' :: r => (false, r)
    | r => (false, r)
  match unsigned with
  | 'i' :: 'n' :: 'f' :: rest => some (.number (Binary64.infinity negative), rest)
  | 'n' :: 'a' :: 'n' :: rest => some (.number Binary64.nan, rest)
  | _ => none

def readNumber? (s : List Char) : Option (Except Fault (Value × List Char)) :=
  match readBased? s with
  | some (n, rest) => some (.ok (.integer n, rest))
  | none => (readDecimal? s).or ((readSpecial? s).map .ok)

/-! ## Points in time -/

def readPair? (most : Nat) (s : List Char) : Option (Nat × List Char) :=
  match s with
  | a :: b :: rest =>
    let n := Json.decimalOf [a, b]
    if a.isDigit && b.isDigit && n ≤ most then some (n, rest) else none
  | _ => none

def after? (c : Char) (s : List Char) : Option (List Char) :=
  match s with
  | d :: rest => if c == d then some rest else none
  | [] => none

open Timestamp in
/-- A time of day, in words. -/
def readTime? (s : List Char) : Option (String × List Char) := do
  let (hour, rest) ← readPair? 23 s
  let (minute, rest) ← readPair? 59 (← after? ':' rest)
  let (second, rest) ← readPair? 59 (← after? ':' rest)
  let shown := padded 2 hour ++ ":" ++ padded 2 minute ++ ":" ++ padded 2 second
  match rest with
  | '.' :: fraction =>
    let digits := fraction.takeWhile Char.isDigit
    if digits.isEmpty then pure (shown, rest)
    else
      let micros := Json.decimalOf (digits.take 6 ++ List.replicate (6 - digits.length) '0')
      pure (if micros == 0 then shown else shown ++ "." ++ padded 6 micros,
        fraction.dropWhile Char.isDigit)
  | _ => pure (shown, rest)

open Timestamp in
/-- The distance to universal time, in words; without one there are none. -/
def readOffset (s : List Char) : String × List Char :=
  match s with
  | 'Z' :: rest | 'z' :: rest => ("+00:00", rest)
  | sign :: rest =>
    let found : Option (String × List Char) := do
      if !(sign == '+' || sign == '-') then none
      let (hours, rest) ← readPair? 23 rest
      let (minutes, rest) ← readPair? 59 (← after? ':' rest)
      let sign := if hours == 0 && minutes == 0 then '+' else sign
      pure (String.singleton sign ++ padded 2 hours ++ ":" ++ padded 2 minutes, rest)
    found.getD ("", s)
  | [] => ("", s)

/-- Year, month and day, where no month has more than 31 days. -/
def readDate? (s : List Char) : Option ((Nat × Nat × Nat) × List Char) :=
  match s with
  | y1 :: y2 :: y3 :: y4 :: rest => do
    let year := [y1, y2, y3, y4]
    if !year.all Char.isDigit then none
    let (month, rest) ← readPair? 12 (← after? '-' rest)
    let (day, rest) ← readPair? 31 (← after? '-' rest)
    if month == 0 || day == 0 then none
    pure ((Json.decimalOf year, month, day), rest)
  | _ => none

open Timestamp in
/-- A date with or without a time of day, or a time of day alone. -/
def readMoment? (s : List Char) : Option (Except Fault (Value × List Char)) :=
  match readDate? s with
  | some ((year, month, day), rest) =>
    if year == 0 || daysIn year month < day then some (failAt .moment s)
    else
      let date := padded 4 year ++ "-" ++ padded 2 month ++ "-" ++ padded 2 day
      let time := match rest with
        | sep :: rest => if sep == 'T' || sep == 't' || sep == ' ' then readTime? rest else none
        | [] => none
      match time with
      | some (time, rest) =>
        let (offset, rest) := readOffset rest
        some (.ok (.moment (date ++ " " ++ time ++ offset), rest))
      | none => some (.ok (.moment date, rest))
  | none => (readTime? s).map fun (time, rest) => .ok (.moment time, rest)

/-! ## Values -/

/-- A value that holds no other ones. -/
def readScalar (s : List Char) : Except Fault (Value × List Char) :=
  match readText? s with
  | some reading => do
    let (text, rest) ← reading
    pure (.text text, rest)
  | none =>
    match s with
    | 't' :: 'r' :: 'u' :: 'e' :: rest => .ok (.truth true, rest)
    | 'f' :: 'a' :: 'l' :: 's' :: 'e' :: rest => .ok (.truth false, rest)
    | _ => ((readMoment? s).or (readNumber? s)).getD (failAt .value s)

def isContainer : Value → Bool
  | .array _ | .table _ => true
  | _ => false

mutual

/-- A value, and what follows it. Each call inside consumes a character or moves on to the next kind
of call, so twice the length of the text is fuel enough. -/
def readValue : Nat → List Char → Except Fault (Value × List Char)
  | 0, s => failAt .value s
  | fuel + 1, '[' :: rest => do
    match ← skipLines rest.length rest with
    | ']' :: rest => pure (.array [], rest)
    | rest => do
      let (items, rest) ← readItems fuel rest
      pure (.array items, rest)
  | fuel + 1, '{' :: rest =>
    match skipBlanks rest with
    | '}' :: rest => .ok (.table [], rest)
    | rest => do
      let (entries, rest) ← readEntries fuel [] [] rest
      pure (.table entries, rest)
  | _ + 1, s => readScalar s

/-- The items of an array up to its closing bracket; a comma may stand behind the last one. -/
def readItems : Nat → List Char → Except Fault (List Value × List Char)
  | 0, s => failAt .value s
  | fuel + 1, s => do
    let (item, rest) ← readValue fuel s
    match ← skipLines rest.length rest with
    | ']' :: rest => pure ([item], rest)
    | ',' :: rest => do
      match ← skipLines rest.length rest with
      | ']' :: rest => pure ([item], rest)
      | rest => do
        let (items, rest) ← readItems fuel rest
        pure (item :: items, rest)
    | rest => failAt .unclosedArray rest

/-- The entries of a table in braces up to the closing one, added to those read before. The keys of
containers among them may not be extended. -/
def readEntries : Nat → List Key → List (String × Value) → List Char →
    Except Fault (List (String × Value) × List Char)
  | 0, _, _, s => failAt .value s
  | fuel + 1, frozen, before, s => do
    let (key, rest) ← readKey s
    match rest with
    | '=' :: rest => do
      let (v, rest) ← readValue fuel (skipBlanks rest)
      if frozen.any fun k => k.isPrefixOf key then failAt (.immutable key) rest
      let name := key.getLast?.getD ""
      match update? false some key.dropLast before with
      | none => failAt .overwrite rest
      | some _ =>
        match update? false (addNew? name v) key.dropLast before with
        | none => failAt (.duplicate name) rest
        | some entries =>
          match skipBlanks rest with
          | '}' :: rest => pure (entries, rest)
          | ',' :: rest =>
            readEntries fuel (if isContainer v then key :: frozen else frozen) entries
              (skipBlanks rest)
          | rest => failAt .unclosedTable rest
    | rest => failAt .equals rest

end

end FlexForm.Toml
