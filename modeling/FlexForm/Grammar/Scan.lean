import FlexForm.Grammar.Escape
import FlexForm.Json.Writer

/-! # From text to tokens

A template text is read from left to right. Outside prints and tags it stands as it is, apart from
comments, raw blocks, and the white space next to a mark `-`. Inside, a closing sign counts only
when no bracket is open. What cannot be a token ends the list with a fault.

* `unifyLines`: every line end as a line feed.
* `lexeme`: the first piece inside a print or a tag.
* `scan`: the tokens of a text.
-/

namespace FlexForm.Grammar
set_option autoImplicit false

/-- The text with every line end written as a line feed. -/
def unifyLines : List Char → List Char
  | '\r' :: '\n' :: rest => '\n' :: unifyLines rest
  | '\r' :: rest => '\n' :: unifyLines rest
  | c :: rest => c :: unifyLines rest
  | [] => []

/-- How many lines end inside the text. -/
def lineCount (s : List Char) : Nat := s.count '\n'

/-- A piece of the text that has been read: how many lines end in it, and what follows. -/
structure Step where
  lines : Nat
  rest : List Char

def skipBlanks (s : List Char) : Step :=
  ⟨lineCount (s.takeWhile Text.isBlank), s.dropWhile Text.isBlank⟩

/-! ## Outside prints and tags -/

inductive Opener where
  | print
  | tag
  | comment

def opener? : List Char → Option (Opener × List Char)
  | '{' :: '{' :: rest => some (.print, rest)
  | '{' :: '%' :: rest => some (.tag, rest)
  | '{' :: '#' :: rest => some (.comment, rest)
  | _ => none

/-- The text before the first opening sign, and the text from there on. -/
def untilOpener : List Char → List Char × List Char
  | [] => ([], [])
  | c :: rest =>
    if (opener? (c :: rest)).isSome then ([], c :: rest)
    else
      let (before, after) := untilOpener rest
      (c :: before, after)

/-- Whether an opening sign carries the mark that removes the white space before it, and the text
behind the mark. -/
def takeMark : List Char → Bool × List Char
  | '-' :: rest => (true, rest)
  | '+' :: rest => (false, rest)
  | s => (false, s)

/-- The end of a comment, with the white space that it removes. -/
def commentEnd? : List Char → Option Step
  | '-' :: '#' :: '}' :: rest => some (skipBlanks rest)
  | '+' :: '#' :: '}' :: rest => some ⟨0, rest⟩
  | '#' :: '}' :: rest => some ⟨0, rest⟩
  | _ => none

/-- What follows a comment whose inside begins here. -/
def skipComment? : List Char → Option Step
  | [] => commentEnd? []
  | c :: rest =>
    match commentEnd? (c :: rest) with
    | some step => some step
    | none => (skipComment? rest).map fun s =>
      ⟨s.lines + (if c == '\n' then 1 else 0), s.rest⟩

/-- What follows the tag of a single word, when that word is `word`; `plus` says whether the tag may
be closed with a plus. -/
def wordTag? (word : String) (plus : Bool) (s : List Char) : Option Step :=
  let first := skipBlanks s
  if word.toList.isPrefixOf first.rest then
    let second := skipBlanks (first.rest.drop word.length)
    let lines := first.lines + second.lines
    match second.rest with
    | '-' :: '%' :: '}' :: rest =>
      let last := skipBlanks rest
      some ⟨lines + last.lines, last.rest⟩
    | '+' :: '%' :: '}' :: rest => if plus then some ⟨lines, rest⟩ else none
    | '%' :: '}' :: rest => some ⟨lines, rest⟩
    | _ => none
  else none

/-- The text of a raw block, whether its white space at the end is removed, and what follows the
tag that ends it. -/
def rawBlock? : List Char → Option (List Char × Bool × Step)
  | [] => none
  | c :: rest =>
    let ended := match c, rest with
      | '{', '%' :: inside =>
        let (mark, inside) := takeMark inside
        (wordTag? "endraw" true inside).map fun step => (mark, step)
      | _, _ => none
    match ended with
    | some (mark, step) => some ([], mark, step)
    | none => (rawBlock? rest).map fun (words, mark, step) => (c :: words, mark, step)

/-! ## Inside prints and tags -/

/-- Decimal digits, and more of them behind single underscores; and what follows. -/
def digitRun : List Char → List Char × List Char
  | c :: '_' :: d :: rest =>
    if !c.isDigit then ([], c :: '_' :: d :: rest)
    else if d.isDigit then
      let (more, after) := digitRun (d :: rest)
      (c :: more, after)
    else ([c], '_' :: d :: rest)
  | c :: rest =>
    if c.isDigit then
      let (more, after) := digitRun rest
      (c :: more, after)
    else ([], c :: rest)
  | [] => ([], [])

def digitsValue (s : List Char) : Nat := s.foldl (fun n c => 10 * n + (c.toNat - 48)) 0

/-- The exponent of a decimal number: whether it is negative, its digits, and what follows. -/
def exponent? : List Char → Option (Bool × List Char × List Char)
  | e :: rest =>
    if e == 'e' || e == 'E' then
      let (negative, rest) := match rest with
        | '-' :: rest => (true, rest)
        | '+' :: rest => (false, rest)
        | rest => (false, rest)
      match digitRun rest with
      | ([], _) => none
      | (digits, after) => some (negative, digits, after)
    else none
  | [] => none

/-- A number with a fraction or an exponent. -/
def decimal? (s : List Char) : Option (Binary64 × List Char) :=
  let (whole, rest) := digitRun s
  if whole.isEmpty then none
  else
    let (fraction, afterFraction) := match rest with
      | '.' :: more => match digitRun more with
        | ([], _) => ([], rest)
        | (digits, after) => (digits, after)
      | _ => ([], rest)
    let number (exponent : Int) : Binary64 :=
      .ofDecimal false (digitsValue (whole ++ fraction)) (exponent - fraction.length)
    match exponent? afterFraction with
    | some (negative, digits, after) =>
      let e : Int := digitsValue digits
      some (number (if negative then -e else e), after)
    | none => if fraction.isEmpty then none else some (number 0, afterFraction)

/-- Digits that may each follow an underscore, by the value of a digit; and what follows. -/
def looseDigits (digit? : Char → Option Nat) : List Char → List Nat × List Char
  | '_' :: c :: rest =>
    match digit? c with
    | some d =>
      let (more, after) := looseDigits digit? rest
      (d :: more, after)
    | none => ([], '_' :: c :: rest)
  | c :: rest =>
    match digit? c with
    | some d =>
      let (more, after) := looseDigits digit? rest
      (d :: more, after)
    | none => ([], c :: rest)
  | [] => ([], [])

def digitBelow? (base : Nat) (c : Char) : Option Nat :=
  match (Text.decimalValue? c).or (Json.hexValue? c) with
  | some d => if d < base then some d else none
  | none => none

/-- The base that the letter behind a leading zero stands for. -/
def base? : Char → Option Nat
  | 'b' | 'B' => some 2
  | 'o' | 'O' => some 8
  | 'x' | 'X' => some 16
  | _ => none

/-- An integer. A leading zero is followed by zeros only, or by a letter for its base. -/
def integer? (s : List Char) : Option (Except Refusal Nat × List Char) :=
  let value (base : Nat) (digits : List Nat) : Nat := digits.foldl (fun n d => base * n + d) 0
  let based := match s with
    | '0' :: letter :: rest =>
      match base? letter with
      | some base =>
        match looseDigits (digitBelow? base) rest with
        | ([], _) => none
        | (digits, after) => some (.ok (value base digits), after)
      | none => none
    | _ => none
  match based with
  | some found => some found
  | none =>
    match s with
    | '0' :: rest => some (.ok 0, (looseDigits (digitBelow? 1) rest).2)
    | c :: rest =>
      if '1' ≤ c && c ≤ '9' then
        let (digits, after) := looseDigits Text.decimalValue? rest
        let count := digits.length + 1
        some (if count > Json.maxDigits then .error (.longLiteral count)
          else .ok (value 10 ((c.toNat - 48) :: digits)), after)
      else none
    | [] => none

/-- The characters between quotes, and what follows the closing quote. A backslash keeps the
character behind it from closing the text. -/
def quotedText? (quote : Char) : List Char → Option (List Char × List Char)
  | [] => none
  | '\\' :: c :: rest => (quotedText? quote rest).map fun (s, after) => ('\\' :: c :: s, after)
  | c :: rest =>
    if c == quote then some ([], rest)
    else if c == '\\' then none
    else (quotedText? quote rest).map fun (s, after) => (c :: s, after)

def isNameChar (c : Char) : Bool := Text.isWord c || Text.isNameRest c

/-- The first piece inside a print or a tag that is no white space: its token, how many lines end in
it, and what follows. Directly behind a dot there is no number with a fraction. -/
def lexeme (afterDot : Bool) (line : Nat) (s : List Char) : Option (Token × Step) :=
  let number := if afterDot then none else decimal? s
  match number with
  | some (x, rest) => some (.decimal x, ⟨0, rest⟩)
  | none =>
    match integer? s with
    | some (.ok n, rest) => some (.integer n, ⟨0, rest⟩)
    | some (.error why, rest) => some (.fault why, ⟨0, rest⟩)
    | none =>
      match s with
      | [] => none
      | c :: rest =>
        if isNameChar c then
          let name := String.ofList (s.takeWhile isNameChar)
          let after := s.dropWhile isNameChar
          if Text.isName name then some (.name name, ⟨0, after⟩)
          else some (.fault (.grammar line .badName), ⟨0, after⟩)
        else
          let text := if c == '"' || c == '\'' then quotedText? c rest else none
          match text with
          | some (inside, after) =>
            match Escape.decode inside with
            | .ok meant => some (.text meant, ⟨lineCount inside, after⟩)
            | .error cause => some (.fault (.grammar line cause), ⟨0, after⟩)
          | none => (Sign.read? s).map fun (sign, after) => (.sign sign, ⟨0, after⟩)

/-- The end of a print or, with `tag`, of a tag; and the white space that it removes. -/
def closing? (tag : Bool) (s : List Char) : Option Step :=
  match tag, s with
  | false, '-' :: '}' :: '}' :: rest => some (skipBlanks rest)
  | false, '}' :: '}' :: rest => some ⟨0, rest⟩
  | true, '-' :: '%' :: '}' :: rest => some (skipBlanks rest)
  | true, '+' :: '%' :: '}' :: rest => some ⟨0, rest⟩
  | true, '%' :: '}' :: rest => some ⟨0, rest⟩
  | _, _ => none

/-! ## The whole text -/

/-- Where the reader stands: outside, or inside a print or a tag with the signs that have to close
the open brackets, and whether a dot came last. -/
inductive Place where
  | outside
  | inside (tag : Bool) (awaited : List Sign) (afterDot : Bool)

def wordsToken (line : Nat) (s : List Char) : List Placed :=
  if s.isEmpty then [] else [⟨.words s, line⟩]

/-- What follows an open bracket, a closing one or another sign, when it fits the awaited ones. -/
def awaitedAfter (awaited : List Sign) (sign : Sign) : Except Cause (List Sign) :=
  match sign.closer? with
  | some closer => .ok (closer :: awaited)
  | none =>
    if sign.isCloser then
      match awaited with
      | [] => .error (.strayCloser sign)
      | expected :: more =>
        if expected == sign then .ok more else .error (.wrongCloser sign expected)
    else .ok awaited

/-- The tokens of `s`, which begins on the given line of a text of `total` characters; `fuel` is
more than its length. -/
def scanFrom (total : Nat) : Nat → Place → Nat → List Char → List Placed
  | 0, _, _, _ => []
  | fuel + 1, .outside, line, s =>
    let (before, rest) := untilOpener s
    match opener? rest with
    | none => wordsToken line before
    | some (opener, rest) =>
      let (mark, inside) := takeMark rest
      let words := wordsToken line (if mark then Text.trimRight before else before)
      let line := line + lineCount before
      match opener with
      | .comment =>
        match skipComment? inside with
        | some step => words ++ scanFrom total fuel .outside (line + step.lines) step.rest
        | none =>
          if inside.isEmpty then words
          else words ++ [⟨.fault (.grammar line .openComment), line⟩]
      | .print =>
        words ++ ⟨.openPrint, line⟩ :: scanFrom total fuel (.inside false [] false) line inside
      | .tag =>
        match wordTag? "raw" false inside with
        | none =>
          words ++ ⟨.openTag, line⟩ :: scanFrom total fuel (.inside true [] false) line inside
        | some step =>
          let line := line + step.lines
          match rawBlock? step.rest with
          | some (raw, mark, after) =>
            words ++ wordsToken line (if mark then Text.trimRight raw else raw)
              ++ scanFrom total fuel .outside (line + lineCount raw + after.lines) after.rest
          | none =>
            if step.rest.isEmpty then words else words ++ [⟨.fault (.grammar line .openRaw), line⟩]
  | fuel + 1, .inside tag awaited afterDot, line, s =>
    let closed := if awaited.isEmpty then closing? tag s else none
    match closed, s with
    | some step, _ =>
      ⟨if tag then .closeTag else .closePrint, line⟩ ::
        scanFrom total fuel .outside (line + step.lines) step.rest
    | none, [] => []
    | none, c :: rest =>
      if Text.isBlank c then
        scanFrom total fuel (.inside tag awaited false) (line + if c == '\n' then 1 else 0) rest
      else
        match lexeme afterDot line s with
        | none => [⟨.fault (.grammar line (.strangeChar c (total - s.length))), line⟩]
        | some (.sign sign, step) =>
          match awaitedAfter awaited sign with
          | .ok awaited =>
            ⟨.sign sign, line⟩ ::
              scanFrom total fuel (.inside tag awaited (sign == .dot)) line step.rest
          | .error cause => [⟨.fault (.grammar line cause), line⟩]
        | some (token, step) =>
          ⟨token, line⟩ ::
            scanFrom total fuel (.inside tag awaited false) (line + step.lines) step.rest

/-- The line of the last token, or else the first line. -/
def lastLine (tokens : List Placed) : Nat := (tokens.getLast?.map Placed.line).getD 1

/-- The tokens of a text, the last of which says that nothing follows. -/
def scan (s : String) : List Placed :=
  let source := unifyLines s.toList
  let tokens := scanFrom source.length (source.length + 1) .outside 1 source
  tokens ++ [⟨.finish, lastLine tokens⟩]

end FlexForm.Grammar
