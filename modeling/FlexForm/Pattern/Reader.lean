import FlexForm.Pattern.Basic
import FlexForm.Text.Quoted

/-! # Reading patterns

A pattern is read character by character; a back slash and the character behind it count as one
sign. A fault says what is wrong and where.

* `Pattern.Cause`, `Pattern.Fault`: what can be wrong, and its message.
* `Pattern.read`: the pattern that a text stands for.
-/

namespace FlexForm.Pattern
set_option autoImplicit false

-- Powers are the built-in ones, also where a library of algebra brings others.
attribute [local instance (high)] instPowNat

/-! ## Faults -/

/-- What can be wrong with a pattern. -/
inductive Cause where
  | danglingEscape
  | badEscape (sign : String)
  | incompleteEscape (sign : String)
  | largeOctal (sign : String)
  | openGroup
  | groupInLookbehind
  | badReference (number : Nat)
  | unknownGroup (name : String)
  | badGroupName (name : String)
  | sameGroupName (name : String) (group earlier : Nat)
  | groupNumberZero
  | openSet
  | badRange (low high : String)
  | unbalanced
  | openSubpattern
  | openComment
  | openName (closing : String)
  | missing (what : String)
  | endOfPattern
  | unknownExtension (sign : String)
  | tooManyBranches
  | flagsNotFirst
  | unknownFlag
  | badFlags (what : String)
  | nothingToRepeat
  | repeatedRepeat
  | repeatOrder
  | unknownCharacter (name : String)
  deriving DecidableEq, Inhabited

def Cause.message : Cause → String
  | .danglingEscape => "bad escape (end of pattern)"
  | .badEscape sign => s!"bad escape {sign}"
  | .incompleteEscape sign => s!"incomplete escape {sign}"
  | .largeOctal sign => s!"octal escape value {sign} outside of range 0-0o377"
  | .openGroup => "cannot refer to an open group"
  | .groupInLookbehind => "cannot refer to group defined in the same lookbehind subpattern"
  | .badReference number => s!"invalid group reference {number}"
  | .unknownGroup name => s!"unknown group name {Text.quoted name}"
  | .badGroupName name => s!"bad character in group name {Text.quoted name}"
  | .sameGroupName name group earlier =>
    s!"redefinition of group name {Text.quoted name} as group {group}; was group {earlier}"
  | .groupNumberZero => "bad group number"
  | .openSet => "unterminated character set"
  | .badRange low high => s!"bad character range {low}-{high}"
  | .unbalanced => "unbalanced parenthesis"
  | .openSubpattern => "missing ), unterminated subpattern"
  | .openComment => "missing ), unterminated comment"
  | .openName closing => s!"missing {closing}, unterminated name"
  | .missing what => s!"missing {what}"
  | .endOfPattern => "unexpected end of pattern"
  | .unknownExtension sign => s!"unknown extension {sign}"
  | .tooManyBranches => "conditional backref with more than two branches"
  | .flagsNotFirst => "global flags not at the start of the expression"
  | .unknownFlag => "unknown flag"
  | .badFlags what => s!"bad inline flags: {what}"
  | .nothingToRepeat => "nothing to repeat"
  | .repeatedRepeat => "multiple repeat"
  | .repeatOrder => "min repeat greater than max repeat"
  | .unknownCharacter name => s!"undefined character name {Text.quoted name}"

inductive Fault where
  /-- Something is wrong at a place, counted from the start of the pattern. -/
  | at (cause : Cause) (place : Nat)
  /-- A look behind needs a body that always takes the same number of characters. -/
  | looseLookbehind
  /-- A number of repetitions is beyond what is counted. -/
  | hugeRepeat
  /-- A number has so many digits that it is not read. -/
  | longNumber (digits : Nat)
  | asciiAndUnicode
  deriving DecidableEq, Inhabited

/-- The words for a fault of the pattern; the line is given when there are several. -/
def Fault.message (fault : Fault) (pattern : String) : String :=
  match fault with
  | .at cause place =>
    let before := pattern.toList.take place
    let line := before.count '\n' + 1
    let column := (before.reverse.takeWhile (· != '\n')).length + 1
    let lines :=
      if pattern.toList.contains '\n' then s!" (line {line}, column {column})" else ""
    s!"{cause.message} at position {place}{lines}"
  | .looseLookbehind => "look-behind requires fixed-width pattern"
  | .hugeRepeat => "the repetition number is too large"
  | .longNumber digits =>
    s!"Exceeds the limit (4300 digits) for integer string conversion: value has {digits} digits" ++
      "; use sys.set_int_max_str_digits() to increase the limit"
  | .asciiAndUnicode => "ASCII and UNICODE flags are incompatible"

/-! ## The state of a reading -/

/-- What is known while a pattern is read. -/
structure Reading where
  total : Nat
  rest : List Char
  /-- The least and greatest widths of the groups closed so far, by number. -/
  groups : List (Option (Nat × Nat))
  names : List (String × Nat)
  /-- How many groups there were when the outermost look behind began. -/
  lookbehind : Option Nat
  mode : Mode
  unicode : Bool
  /-- Whether flags for the whole pattern ask for ASCII and for all of Unicode. -/
  clash : Bool
  /-- Group numbers on which a choice depends, with the place of the first one. -/
  asked : List (Nat × Nat)

abbrev Reader := StateT Reading (Except Fault)

/-- Fails at so many characters before the place reached. -/
def failAt {α : Type} (cause : Cause) (back : Nat := 0) : Reader α := do
  let s ← get
  throw (.at cause (s.total - s.rest.length - back))

/-- The next sign: a character, or a back slash with a character. -/
def peek : Reader (Option String) := do
  match (← get).rest with
  | [] => pure none
  | '\\' :: c :: _ => pure (some (String.ofList ['\\', c]))
  | c :: _ => pure (some (String.ofList [c]))

/-- A back slash that is the last character is a fault as soon as it comes next. -/
def checkNext : Reader Unit := do
  let s ← get
  if s.rest == ['\\'] then throw (.at .danglingEscape (s.total - 1))

def drop (n : Nat) : Reader Unit := do
  modify fun s => { s with rest := s.rest.drop n }
  checkNext

def next : Reader (Option String) := do
  let sign ← peek
  drop ((sign.map String.length).getD 0)
  pure sign

def accept (sign : String) : Reader Bool := do
  if (← peek) == some sign then
    drop sign.length
    pure true
  else pure false

def place : Reader Nat := do
  let s ← get
  pure (s.total - s.rest.length)

def takeSome (n : Nat) (kind : Char → Bool) : Reader String := do
  let taken := ((← get).rest.take n).takeWhile kind
  drop taken.length
  pure (String.ofList taken)

def takeAll (kind : Char → Bool) : Reader String := do
  let taken := (← get).rest.takeWhile kind
  drop taken.length
  pure (String.ofList taken)

/-- The signs up to a closing one, and whether it was met. A back slash at the end is no sign. -/
def signsUntil (closing : Char) : List Char → List Char × Bool
  | [] | ['\\'] => ([], false)
  | '\\' :: c :: rest =>
    let (taken, met) := signsUntil closing rest
    ('\\' :: c :: taken, met)
  | c :: rest =>
    if c == closing then ([], true)
    else
      let (taken, met) := signsUntil closing rest
      (c :: taken, met)

def takeName (closing : Char) (what : String) : Reader String := do
  let (taken, met) := signsUntil closing (← get).rest
  if met then
    drop (taken.length + 1)
    if taken.isEmpty then failAt (.missing what) 1 else pure (String.ofList taken)
  else
    drop taken.length
    if taken.isEmpty then failAt (.missing what)
    else failAt (.openName closing.toString) taken.length

def checkName (name : String) : Reader Unit := do
  unless Text.isName name do failAt (.badGroupName name) (name.length + 1)

/-! ## Groups -/

/-- The number of the next group. -/
def groupCount : Reader Nat := do pure (← get).groups.length

def openGroup (name : Option String) : Reader Nat := do
  let s ← get
  let index := s.groups.length
  modify fun s => { s with groups := s.groups ++ [none] }
  match name with
  | none => pure index
  | some name =>
    match s.names.lookup name with
    | some earlier => failAt (.sameGroupName name index earlier) (name.length + 1)
    | none =>
      modify fun s => { s with names := s.names ++ [(name, index)] }
      pure index

def closeGroup (index : Nat) (width : Nat × Nat) : Reader Unit :=
  modify fun s => { s with groups := s.groups.set index (some width) }

/-- The width of a group that is closed. -/
def closedWidth? (index : Nat) : Reader (Option (Nat × Nat)) := do
  pure ((← get).groups[index]?.join)

/-- Inside a look behind, only groups from before it may be named. -/
def checkLookbehind (index : Nat) : Reader Unit := do
  match (← get).lookbehind with
  | none => pure ()
  | some count =>
    if (← closedWidth? index).isNone then failAt .openGroup
    else if index ≥ count then failAt .groupInLookbehind

/-! ## Items -/

/-- What an item is when a sign of repetition follows it. -/
inductive Kind where
  | anchor
  | repeated
  | plain
  deriving DecidableEq

/-- A part of a pattern, and the least and greatest numbers of characters that it takes. -/
structure Item where
  kind : Kind
  node : Node
  low : Nat
  high : Nat

/-- Widths from here on count as unlimited. -/
def unlimited : Nat := 2 ^ (64 : Nat)

def Item.atom (mode : Mode) (atoms : List Atom) (negated : Bool := false) : Item :=
  ⟨.plain, .one ⟨atoms, negated, mode⟩, 1, 1⟩

def Item.literal (mode : Mode) (n : Nat) : Item := .atom mode [.range n n]

def Item.anchored (a : Anchor) : Item := ⟨.anchor, .anchor a, 0, 0⟩

def Item.sequence (items : List Item) : Item :=
  items.foldr (fun a b =>
    ⟨.plain, .seq a.node b.node, min (a.low + b.low) unlimited, min (a.high + b.high) unlimited⟩)
    ⟨.plain, .empty, 0, 0⟩

def Item.either (a b : Item) : Item :=
  ⟨.plain, .alt a.node b.node, min a.low b.low, max a.high b.high⟩

def Item.repeated (greed : Greed) (least : Nat) (most : Option Nat) (a : Item) : Item :=
  let high := match most with
    | some n => a.high * n
    | none => if a.high == 0 then 0 else unlimited
  ⟨.repeated, .loop greed least most a.node, min (a.low * least) unlimited, min high unlimited⟩

def numberIn (base : Nat) (digits : List Char) : Nat :=
  digits.foldl (fun n c => n * base + (if c.isDigit then c.toNat - 48 else c.toLower.toNat - 87)) 0

def isHex (c : Char) : Bool :=
  c.isDigit || ('a' ≤ c && c ≤ 'f') || ('A' ≤ c && c ≤ 'F')

def isOctal (c : Char) : Bool := '0' ≤ c && c ≤ '7'

/-- The code points of the short escapes for controls. -/
def controlEscape? (c : Char) : Option Nat :=
  match c with
  | 'a' => some 7
  | 'f' => some 12
  | 'n' => some 10
  | 'r' => some 13
  | 't' => some 9
  | 'v' => some 11
  | '\\' => some 92
  | _ => none

def category? (c : Char) : Option Atom :=
  match c with
  | 'd' => some (.category .digit false)
  | 'D' => some (.category .digit true)
  | 's' => some (.category .space false)
  | 'S' => some (.category .space true)
  | 'w' => some (.category .word false)
  | 'W' => some (.category .word true)
  | _ => none

/-- An escape for one code point by its number, where `c` stood behind the back slash. One for a
character by its name is refused: no names of characters are known here. -/
def readCodeEscape (c : Char) : Reader (Option Nat) := do
  let fixed (n : Nat) : Reader (Option Nat) := do
    let digits ← takeSome n isHex
    let sign := String.ofList ['\\', c] ++ digits
    if digits.length == n then
      let value := numberIn 16 digits.toList
      if value > 0x10FFFF then failAt (.badEscape sign) sign.length else pure (some value)
    else failAt (.incompleteEscape sign) sign.length
  match c with
  | 'x' => fixed 2
  | 'u' => fixed 4
  | 'U' => fixed 8
  | 'N' =>
    if ← accept "\x7b" then
      let name ← takeName '\x7d' "character name"
      failAt (.unknownCharacter name) (name.length + 4)
    else failAt (.missing "\x7b")
  | _ => pure none

/-- An escape inside brackets, where `c` stood behind the back slash. -/
def readSetEscape (c : Char) : Reader Atom := do
  let one (n : Nat) : Atom := .range n n
  if c == 'b' then return one 8
  if let some n := controlEscape? c then return one n
  if let some k := category? c then return k
  if let some n ← readCodeEscape c then return one n
  if isOctal c then
    let digits := c.toString ++ (← takeSome 2 isOctal)
    let n := numberIn 8 digits.toList
    if n > 255 then failAt (.largeOctal ("\\" ++ digits)) (digits.length + 1) else pure (one n)
  else if c.isDigit || c.isAlpha then failAt (.badEscape (String.ofList ['\\', c])) 2
  else pure (one c.toNat)

/-- A reference to a group by its number. -/
def readReference (mode : Mode) (digits : String) : Reader Item := do
  let index := numberIn 10 digits.toList
  let size := digits.length + 1
  if index < (← groupCount) then
    match ← closedWidth? index with
    | none => failAt .openGroup size
    | some (low, high) =>
      checkLookbehind index
      pure ⟨.plain, .backref index mode, low, high⟩
  else failAt (.badReference index) (size - 1)

/-- An escape outside brackets, where `c` stood behind the back slash. -/
def readEscape (mode : Mode) (c : Char) : Reader Item := do
  let literal (n : Nat) : Item := .literal mode n
  match c with
  | 'A' => return .anchored .textStart
  | 'Z' => return .anchored .textEnd
  | 'b' => return .anchored (.wordEdge true mode.ascii)
  | 'B' => return .anchored (.wordEdge false mode.ascii)
  | _ => pure ()
  if let some k := category? c then return .atom mode [k]
  if let some n := controlEscape? c then return literal n
  if let some n ← readCodeEscape c then return literal n
  if c == '0' then
    let digits ← takeSome 2 isOctal
    return literal (numberIn 8 digits.toList)
  if c.isDigit then
    let second ← takeSome 1 Char.isDigit
    let digits := c.toString ++ second
    if second.isEmpty || !digits.toList.all isOctal then return ← readReference mode digits
    let third ← takeSome 1 isOctal
    if third.isEmpty then return ← readReference mode digits
    let digits := digits ++ third
    let n := numberIn 8 digits.toList
    if n > 255 then return ← failAt (.largeOctal ("\\" ++ digits)) (digits.length + 1)
    return literal n
  if c.isAlpha then failAt (.badEscape (String.ofList ['\\', c])) 2 else pure (literal c.toNat)

/-! ## Sets in brackets -/

/-- The sign as a part of a set. -/
def setPart (sign : String) : Reader Atom :=
  match sign.toList with
  | ['\\', c] => readSetEscape c
  | c :: _ => pure (.range c.toNat c.toNat)
  | [] => pure (.range 0 0)

/-- The parts of a set up to its closing bracket; `start` is the place of the opening one. -/
def readSetParts (start : Nat) : Nat → List Atom → Reader (List Atom)
  | 0, _ => do failAt .openSet ((← place) - start)
  | fuel + 1, parts => do
    let some this ← next | failAt .openSet ((← place) - start)
    if this == "]" && !parts.isEmpty then return parts
    let first ← setPart this
    if ← accept "-" then
      let some that ← next | failAt .openSet ((← place) - start)
      if that == "]" then return parts ++ [first, .range 45 45]
      let second ← setPart that
      match first, second with
      | .range low low', .range high high' =>
        if low != low' || high != high' || high < low then
          failAt (.badRange this that) (this.length + 1 + that.length)
        else readSetParts start fuel (parts ++ [.range low high])
      | _, _ => failAt (.badRange this that) (this.length + 1 + that.length)
    else readSetParts start fuel (parts ++ [first])

def readSet (mode : Mode) : Reader Item := do
  let start := (← place) - 1
  let negated ← accept "^"
  let parts ← readSetParts start ((← get).rest.length + 1) []
  pure (.atom mode parts negated)

/-! ## Repetition -/

/-- Numbers of repetitions from here on are not counted. -/
def repeatLimit : Nat := 4294967295

def repeatCount (digits : String) : Reader Nat := do
  if digits.length > 4300 then throw (.longNumber digits.length)
  let n := numberIn 10 digits.toList
  if n ≥ repeatLimit then throw .hugeRepeat else pure n

/-- The numbers of repetitions between braces, behind the opening one; nothing is taken when the
braces do not hold such numbers. -/
def readCounts : Reader (Option (Nat × Option Nat)) := do
  let before := (← get).rest
  let here ← place
  if (← peek) == some "\x7d" then return none
  let low ← takeAll Char.isDigit
  let comma ← accept ","
  let high ← if comma then takeAll Char.isDigit else pure low
  if !(← accept "\x7d") then
    modify fun s => { s with rest := before }
    return none
  let least ← if low.isEmpty then pure 0 else repeatCount low
  if high.isEmpty then return some (least, none)
  let most ← repeatCount high
  if most < least then failAt .repeatOrder ((← place) - here)
  else pure (some (least, some most))

/-- The items with the last one repeated; `here` is the place behind the sign of repetition. -/
def repeatLast (here : Nat) (items : List Item) (least : Nat) (most : Option Nat) :
    Reader (List Item) := do
  let back := (← place) - here + 1
  match items.reverse with
  | [] => failAt .nothingToRepeat back
  | last :: others =>
    match last.kind with
    | .anchor => failAt .nothingToRepeat back
    | .repeated => failAt .repeatedRepeat back
    | .plain =>
      let greed ← do
        if ← accept "?" then pure Greed.lazy
        else if ← accept "+" then pure Greed.possessive
        else pure Greed.greedy
      pure ((last.repeated greed least most :: others).reverse)

/-! ## Flags -/

/-- Flags to turn on and to turn off. -/
structure Flags where
  on : List Char
  off : List Char

def isFlag (sign : String) : Bool := ["i", "L", "m", "s", "x", "a", "t", "u"].contains sign

def isWordSign (sign : String) : Bool := !sign.isEmpty && sign.toList.all Text.isLetter

def Mode.with (mode : Mode) (flags : Flags) : Mode :=
  let mode := if flags.on.contains 'a' then { mode with ascii := true }
    else if flags.on.contains 'u' then { mode with ascii := false } else mode
  let set (flag : Char) (old : Bool) : Bool :=
    (old || flags.on.contains flag) && !flags.off.contains flag
  { mode with
    ignoreCase := set 'i' mode.ignoreCase, multiLine := set 'm' mode.multiLine,
    dotAll := set 's' mode.dotAll, verbose := set 'x' mode.verbose }

/-- The flags to turn on, from `sign` on, and the sign behind them. -/
def readOnFlags : Nat → String → List Char → Reader (List Char × String)
  | 0, _, _ => failAt (.missing "-, : or )")
  | fuel + 1, sign, on => do
    if sign == "L" then failAt (.badFlags "cannot use 'L' flag with a str pattern")
    let flag := sign.toList.headD 'i'
    if (flag == 'a' && on.contains 'u') || (flag == 'u' && on.contains 'a') then
      failAt (.badFlags "flags 'a', 'u' and 'L' are incompatible")
    let on := on ++ [flag]
    let some sign ← next | failAt (.missing "-, : or )")
    if [")", "-", ":"].contains sign then pure (on, sign)
    else if isFlag sign then readOnFlags fuel sign on
    else failAt (if isWordSign sign then .unknownFlag else .missing "-, : or )") sign.length

/-- The flags to turn off, from `sign` on and up to the colon. -/
def readOffFlags : Nat → String → List Char → Reader (List Char)
  | 0, _, _ => failAt (.missing ":")
  | fuel + 1, sign, off => do
    if ["a", "u", "L"].contains sign then
      failAt (.badFlags "cannot turn off flags 'a', 'u' and 'L'")
    let off := off ++ sign.toList
    let some sign ← next | failAt (.missing ":")
    if sign == ":" then pure off
    else if isFlag sign then readOffFlags fuel sign off
    else failAt (if isWordSign sign then .unknownFlag else .missing ":") sign.length

/-- The flags from `sign` on; `none` when they hold for the whole pattern, where they are set. -/
def readFlags (sign : String) : Reader (Option Flags) := do
  let fuel := (← get).rest.length + 1
  let (on, sign) ← if sign == "-" then pure ([], sign) else readOnFlags fuel sign []
  if sign == ")" then
    let s ← get
    let unicode := s.unicode || on.contains 'u'
    let clash := s.clash || (unicode && (s.mode.ascii || on.contains 'a'))
    set { s with mode := s.mode.with ⟨on, []⟩, unicode, clash }
    return none
  if on.contains 't' then failAt (.badFlags "cannot turn on global flag") 1
  if sign != "-" then return some ⟨on, []⟩
  let some sign ← next | failAt (.missing "flag")
  if !isFlag sign then
    failAt (if isWordSign sign then .unknownFlag else .missing "flag") sign.length
  let off ← readOffFlags fuel sign []
  if off.contains 't' then failAt (.badFlags "cannot turn off global flag") 1
  if on.any off.contains then failAt (.badFlags "flag turned on and off") 1
  pure (some ⟨on, off⟩)

/-! ## Patterns -/

/-- Skips a comment up to its closing parenthesis; `start` is the place of the opening one. -/
def skipComment (start : Nat) : Reader Unit := do
  let (taken, met) := signsUntil ')' (← get).rest
  if met then drop (taken.length + 1)
  else
    drop taken.length
    failAt .openComment ((← place) - start)

def closeParen (start : Nat) : Reader Unit := do
  unless ← accept ")" do failAt .openSubpattern ((← place) - start)

/-- The group on which a choice depends. -/
def readCondition : Reader Nat := do
  let name ← takeName ')' "group name"
  if Text.isName name then
    match (← get).names.lookup name with
    | some index => pure index
    | none => failAt (.unknownGroup name) (name.length + 1)
  else
    let digits := (Text.trim name.toList)
    if digits.isEmpty || !digits.all Text.isDecimalDigit then
      failAt (.badGroupName name) (name.length + 1)
    let index := digits.foldl (fun n c => n * 10 + (Text.decimalValue? c).getD 0) 0
    if index == 0 then failAt .groupNumberZero (name.length + 1)
    if index ≥ 1073741823 then failAt (.badReference index) (name.length + 1)
    let here := (← place) - name.length - 1
    modify fun s =>
      { s with asked := if s.asked.any (·.1 == index) then s.asked else s.asked ++ [(index, here)] }
    pure index

/-- How a parenthesis with a question mark goes on. -/
inductive Opening where
  | group (name : Option String)
  | item (item : Item)
  | nothing
  | plain
  | atomic
  | look (behind holds : Bool)
  | choice
  | flags (sign : String)

/-- Reads what follows a parenthesis and a question mark; `start` is the place of the
parenthesis. -/
def readOpening (mode : Mode) (start : Nat) : Reader Opening := do
  let some sign ← next | failAt .endOfPattern
  match sign with
  | "P" =>
    if ← accept "<" then
      let name ← takeName '>' "group name"
      checkName name
      pure (.group (some name))
    else if ← accept "=" then
      let name ← takeName ')' "group name"
      checkName name
      let some index := (← get).names.lookup name
        | failAt (.unknownGroup name) (name.length + 1)
      let some (low, high) ← closedWidth? index | failAt .openGroup (name.length + 1)
      checkLookbehind index
      pure (.item ⟨.plain, .backref index mode, low, high⟩)
    else
      let some sign ← next | failAt .endOfPattern
      failAt (.unknownExtension ("?P" ++ sign)) (sign.length + 2)
  | ":" => pure .plain
  | "#" => do
    skipComment start
    pure .nothing
  | "=" => pure (.look false true)
  | "!" => pure (.look false false)
  | "<" =>
    let some sign ← next | failAt .endOfPattern
    if sign == "=" then pure (.look true true)
    else if sign == "!" then pure (.look true false)
    else failAt (.unknownExtension ("?<" ++ sign)) (sign.length + 2)
  | "(" => pure .choice
  | ">" => pure .atomic
  | _ =>
    if isFlag sign || sign == "-" then pure (.flags sign)
    else failAt (.unknownExtension ("?" ++ sign)) (sign.length + 1)

def isVerboseBlank (sign : String) : Bool := [" ", "\t", "\n", "\r", "\x0b", "\x0c"].contains sign

mutual

/-- A pattern with alternatives. `nested` holds inside parentheses. Every call takes a sign or is
followed by one that does, so three times the length of the pattern is fuel enough. -/
def readChoice : Nat → Mode → Bool → Bool → Reader Item
  | 0, _, _, _ => failAt .endOfPattern
  | fuel + 1, mode, nested, first => do
    let item ← readItems fuel mode nested first []
    if ← accept "|" then
      let whole := (← get).mode
      let others ← readChoice fuel (if nested then mode else whole) nested false
      pure (item.either others)
    else pure item

/-- The items up to a bar, a closing parenthesis or the end, behind those read before. -/
def readItems : Nat → Mode → Bool → Bool → List Item → Reader Item
  | 0, _, _, _, _ => failAt .endOfPattern
  | fuel + 1, mode, nested, first, items => do
    let some sign ← peek | return .sequence items
    if sign == "|" || sign == ")" then return .sequence items
    let _ ← next
    let add (item : Item) : Reader Item := readItems fuel mode nested first (items ++ [item])
    let again (least : Nat) (most : Option Nat) (here : Nat) : Reader Item := do
      let items ← repeatLast here items least most
      readItems fuel mode nested first items
    if mode.verbose && isVerboseBlank sign then return ← readItems fuel mode nested first items
    if mode.verbose && sign == "#" then
      let (taken, met) := signsUntil '\n' (← get).rest
      drop (taken.length + if met then 1 else 0)
      return ← readItems fuel mode nested first items
    let here ← place
    match sign.toList with
    | ['\\', c] => add (← readEscape mode c)
    | ['['] => add (← readSet mode)
    | ['.'] =>
      add (.atom mode (if mode.dotAll then [] else [.range 10 10]) true)
    | ['^'] => add (.anchored (if mode.multiLine then .lineStart else .textStart))
    | ['$'] => add (.anchored (if mode.multiLine then .lineEnd else .lastLineEnd))
    | ['?'] => again 0 (some 1) here
    | ['*'] => again 0 none here
    | ['+'] => again 1 none here
    | ['\x7b'] =>
      match ← readCounts with
      | none => add (.literal mode 0x7b)
      | some (least, most) => again least most here
    | ['('] =>
      let start := here - 1
      if ← accept "?" then
        match ← readOpening mode start with
        | .nothing => readItems fuel mode nested first items
        | .item item => add item
        | .group name => do
          let item ← readGroup fuel mode start name
          add item
        | .plain => do
          let item ← readChoice fuel mode true false
          closeParen start
          add { item with kind := .plain }
        | .atomic => do
          let item ← readChoice fuel mode true false
          closeParen start
          add ⟨.plain, .atomic item.node, item.low, item.high⟩
        | .look behind holds => do
          let outer := (← get).lookbehind
          if behind && outer.isNone then
            modify fun s => { s with lookbehind := some s.groups.length }
          let item ← readChoice fuel mode true false
          if behind && outer.isNone then modify fun s => { s with lookbehind := none }
          closeParen start
          if behind && item.low != item.high then
            add ⟨.plain, .look (some unlimited) holds item.node, 0, 0⟩
          else
            add ⟨.plain, .look (if behind then some item.low else none) holds item.node, 0, 0⟩
        | .choice => do
          let index ← readCondition
          checkLookbehind index
          let yes ← readItems fuel mode true false []
          let no ← if ← accept "|" then
              let no ← readItems fuel mode true false []
              if (← peek) == some "|" then failAt .tooManyBranches
              pure (some no)
            else pure none
          closeParen start
          let none' : Item := ⟨.plain, .empty, 0, 0⟩
          let other := no.getD none'
          add ⟨.plain, .choose index yes.node other.node, min yes.low other.low,
            max yes.high other.high⟩
        | .flags sign => do
          match ← readFlags sign with
          | none => do
            if !first || !items.isEmpty then failAt .flagsNotFirst ((← place) - start)
            readItems fuel (← get).mode nested first items
          | some flags => do
            let item ← readChoice fuel (mode.with flags) true false
            closeParen start
            add { item with kind := .plain }
      else do
        let item ← readGroup fuel mode start none
        add item
    | c :: _ => add (.literal mode c.toNat)
    | [] => .sequence items |> pure

/-- A group behind its opening, up to and with its closing parenthesis. -/
def readGroup : Nat → Mode → Nat → Option String → Reader Item
  | 0, _, _, _ => failAt .endOfPattern
  | fuel + 1, mode, start, name => do
    let index ← openGroup name
    let item ← readChoice fuel mode true false
    closeParen start
    closeGroup index (item.low, item.high)
    pure ⟨.plain, .group index item.node, item.low, item.high⟩

end

/-- Whether every look behind of a pattern takes a fixed number of characters. -/
def hasFixedLookbehinds : Node → Bool
  | .look behind _ body => behind != some unlimited && hasFixedLookbehinds body
  | .seq a b | .alt a b | .choose _ a b => hasFixedLookbehinds a && hasFixedLookbehinds b
  | .group _ body | .atomic body | .loop _ _ _ body => hasFixedLookbehinds body
  | .empty | .one _ | .anchor _ | .backref _ _ => true

/-- The whole of a pattern. -/
def readWhole : Reader Node := do
  checkNext
  let item ← readChoice (3 * (← get).rest.length + 3) {} false true
  let s ← get
  if s.clash then throw .asciiAndUnicode
  if (← peek).isSome then failAt .unbalanced
  match s.asked.find? fun (index, _) => index ≥ s.groups.length with
  | some (index, here) => throw (.at (.badReference index) here)
  | none => pure ()
  unless hasFixedLookbehinds item.node do throw .looseLookbehind
  pure item.node

def read (source : String) : Except Fault Node :=
  let s := source.toList
  (readWhole.run ⟨s.length, s, [some (0, 0)], [], none, {}, false, false, []⟩).map (·.1)

end FlexForm.Pattern
