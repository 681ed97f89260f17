import FlexForm.Toml.Reader

/-! # Reading settings files

A document is read line by line. Each line gives a key its value, or names the table to which the
lines after it belong.

* `Toml.Draft`: what has been read so far.
* `Toml.read`: the table of a whole document, or the words for its first fault.
-/

namespace FlexForm.Toml
set_option autoImplicit false

structure Draft where
  entries : List (String × Value) := []
  /-- The table to which the next lines belong. -/
  header : Key := []
  /-- The keys that may not be named as tables any more. -/
  closed : List Key := []
  /-- The keys that will be closed when the next table is named. -/
  closing : List Key := []
  /-- The keys of values in brackets and braces, which may not be extended. -/
  frozen : List Key := []

namespace Draft

def isFrozen (d : Draft) (key : Key) : Bool := d.frozen.any fun k => k.isPrefixOf key

/-- Closes the keys that were waiting for it. -/
def settle (d : Draft) : Draft := { d with closed := d.closing ++ d.closed, closing := [] }

/-- Names the table of the next lines. `rest` is the text behind the key. -/
def openTable (d : Draft) (key : Key) (rest : List Char) : Except Fault Draft :=
  if d.closed.contains key || d.isFrozen key then failAt (.declaredTwice key) rest
  else match update? true some key d.entries with
    | some entries => .ok { d with entries, header := key, closed := key :: d.closed }
    | none => failAt .overwrite rest

/-- Names an array, to which one more table for the next lines is put. -/
def openItem (d : Draft) (key : Key) (rest : List Char) : Except Fault Draft :=
  if d.isFrozen key then failAt (.immutable key) rest
  else
    let outside := fun (k : Key) => !key.isPrefixOf k
    match update? true (addItem? (key.getLast?.getD "")) key.dropLast d.entries with
    | some entries =>
      .ok { d with
        entries
        header := key
        closed := key :: d.closed.filter outside
        frozen := d.frozen.filter outside }
    | none => failAt .overwrite rest

/-- The proper beginnings of a key, as keys of the whole document. -/
def inside (d : Draft) (key : Key) : List Key :=
  (List.range key.length).filterMap fun n =>
    if n = 0 then none else some (d.header ++ key.take n)

/-- Gives a key its value. `rest` is the text behind the value. -/
def assign (d : Draft) (key : Key) (v : Value) (rest : List Char) : Except Fault Draft := do
  if let some k := (d.inside key).find? d.closed.contains then failAt (.redefined k) rest
  let parent := d.header ++ key.dropLast
  if d.isFrozen parent then failAt (.immutable parent) rest
  match update? true (addNew? (key.getLast?.getD "") v) parent d.entries with
  | some entries =>
    pure { d with
      entries
      closing := d.inside key ++ d.closing
      frozen := if isContainer v then (d.header ++ key) :: d.frozen else d.frozen }
  | none => failAt .overwrite rest

end Draft

/-! ## Lines -/

/-- The statement at the start of the text, which is neither blank nor at its end. -/
def readStatement (d : Draft) (s : List Char) : Except Fault (Draft × List Char) :=
  match s with
  | '[' :: '[' :: rest => do
    let (key, rest) ← readKey (skipBlanks rest)
    let d ← d.settle.openItem key rest
    match rest with
    | ']' :: ']' :: rest => pure (d, skipBlanks rest)
    | rest => failAt .itemEnd rest
  | '[' :: rest => do
    let (key, rest) ← readKey (skipBlanks rest)
    let d ← d.settle.openTable key rest
    match rest with
    | ']' :: rest => pure (d, skipBlanks rest)
    | rest => failAt .sectionEnd rest
  | c :: _ =>
    if isKeyChar c || c == '"' || c == '\'' then do
      let (key, rest) ← readKey s
      match rest with
      | '=' :: rest =>
        let rest := skipBlanks rest
        let (v, rest) ← readValue (2 * rest.length + 2) rest
        pure (← d.assign key v rest, skipBlanks rest)
      | rest => failAt .equals rest
    else if c == '#' then .ok (d, s)
    else failAt .statement s
  | [] => .ok (d, [])

/-- Reads all lines; each of them consumes a character. -/
def readLines : Nat → Draft → List Char → Except Fault Draft
  | 0, d, _ => .ok d
  | fuel + 1, d, s =>
    match skipBlanks s with
    | [] => .ok d
    | '\n' :: rest => readLines fuel d rest
    | s => do
      let (d, rest) ← readStatement d s
      match ← skipComment rest with
      | [] => pure d
      | '\n' :: rest => readLines fuel d rest
      | rest => failAt .lineEnd rest

/-! ## Documents -/

/-- The text in which each pair of carriage return and newline is a newline. -/
def withNewlines : List Char → List Char
  | '\r' :: '\n' :: rest => '\n' :: withNewlines rest
  | c :: rest => c :: withNewlines rest
  | [] => []

def Fault.message (fault : Fault) (source : List Char) : String :=
  match fault.cause with
  | .digits _ => fault.cause.message
  | cause =>
    if fault.left = 0 then s!"{cause.message} (at end of document)"
    else
      let (line, column) := Json.lineAndColumn (source.take (source.length - fault.left))
      s!"{cause.message} (at line {line}, column {column})"

/-- The table of a document, or the words for its first fault. -/
def read (source : String) : Except String (List (String × Value)) :=
  let s := withNewlines source.toList
  match readLines (s.length + 1) {} s with
  | .ok d => .ok d.entries
  | .error fault => .error (fault.message s)

end FlexForm.Toml
