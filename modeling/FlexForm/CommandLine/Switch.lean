import FlexForm.Json.Display
import FlexForm.Folder.Basic
import FlexForm.Text.CharClass
import FlexForm.Text.Similarity

/-! # Switches and arguments

A command is given switches with values, in any of their spellings, and arguments without names.

* `Switch`, `Switch.Kind`: what can be given, and what its value has to be.
* `UsageFault`, `UsageFault.message`: what can be wrong with what is given.
* `Given.read`: sorts what is given into switches and arguments.
* `Given.check`: the first value that is not what it has to be.
-/

namespace FlexForm.CommandLine
set_option autoImplicit false

/-! ## Switches -/

/-- What a value has to be. -/
inductive Switch.Kind where
  | text
  | integer
  /-- A file that is there. -/
  | file
  deriving DecidableEq

def Switch.Kind.name : Switch.Kind → String
  | .text => "TEXT"
  | .integer => "INTEGER"
  | .file => "FILE"

/-- A value that may be given, with a long spelling and perhaps a short one of one letter. -/
structure Switch where
  long : String
  short : Option String := none
  kind : Switch.Kind := .text
  about : String := ""
  deriving DecidableEq

/-- The switch that asks for the help page. -/
def helpSpelling : String := "--help"

/-! ## Faults -/

inductive UsageFault where
  /-- There is no such switch, but perhaps there are some with similar spellings. -/
  | noSwitch (spelling : String) (similar : List String)
  | noValue (spelling : String)
  | unwantedValue (spelling : String)
  | noArgument (name : String)
  | moreArguments (extra : List String)
  /-- The value of something is not what it has to be. -/
  | invalid (names : List String) (why : String)
  | noCommand (name : String)
  | commandMissing
  | notOneTemplate
  deriving DecidableEq

def UsageFault.message : UsageFault → String
  | .noSwitch spelling [] => s!"No such option: {spelling}"
  | .noSwitch spelling [one] => s!"No such option: {spelling} Did you mean {one}?"
  | .noSwitch spelling similar =>
    let sorted := similar.mergeSort fun a b => !(b < a)
    s!"No such option: {spelling} (Possible options: " ++ ", ".intercalate sorted ++ ")"
  | .noValue spelling => s!"Option {Text.quoted spelling} requires an argument."
  | .unwantedValue spelling => s!"Option {Text.quoted spelling} does not take a value."
  | .noArgument name => s!"Missing argument {Text.quoted name}."
  | .moreArguments [one] => s!"Got unexpected extra argument ({one})"
  | .moreArguments extra => "Got unexpected extra arguments (" ++ " ".intercalate extra ++ ")"
  | .invalid names why =>
    "Invalid value for " ++ " / ".intercalate (names.map Text.quoted) ++ ": " ++ why
  | .noCommand name => s!"No such command {Text.quoted name}."
  | .commandMissing => "Missing command."
  | .notOneTemplate => "Pass exactly one of --template-file or --template-id"

/-! ## What is given -/

/-- What is given: values of switches in their order, arguments, and whether help is asked for. -/
structure Given where
  values : List (Switch × String) := []
  arguments : List String := []
  help : Bool := false

namespace Given

def addValue (switch : Switch) (value : String) (g : Given) : Given :=
  { g with values := (switch, value) :: g.values }

/-- The parts of a long spelling before and behind an equals sign. -/
def splitValue (arg : List Char) : String × Option String :=
  let name := String.ofList (arg.takeWhile (· != '='))
  match arg.dropWhile (· != '=') with
  | _ :: value => (name, some (String.ofList value))
  | [] => (name, none)

/-- The short spelling at the start of something given, and the value right behind it. -/
def splitShort (arg : List Char) : String × Option String :=
  (String.ofList (arg.take 2),
    if (arg.drop 2).isEmpty then none else some (String.ofList (arg.drop 2)))

/-- What something given means. -/
inductive Meaning where
  | endOfSwitches
  | argument
  | help
  /-- A switch in one of its spellings, perhaps with its value. -/
  | value (switch : Switch) (spelling : String) (attached : Option String)
  | fault (fault : UsageFault)

/-- What something given means among the switches. -/
def meaning (switches : List Switch) (arg : String) : Meaning :=
  match arg.toList with
  | ['-', '-'] => .endOfSwitches
  | '-' :: c :: rest =>
    let cs := '-' :: c :: rest
    let (long, attached) := splitValue cs
    if long = helpSpelling then
      if attached.isSome then .fault (.unwantedValue long) else .help
    else match switches.find? fun s => s.long = long with
      | some s => .value s long attached
      | none =>
        if c == '-' then
          let spellings := switches.map Switch.long ++ [helpSpelling]
          .fault (.noSwitch long (Text.closest long spellings))
        else
          let (short, attached) := splitShort cs
          match switches.find? fun s => s.short = some short with
          | some s => .value s short attached
          | none => .fault (.noSwitch short [])
  | _ => .argument

/-- Sorts what is given into switches and arguments. Unless they are `mixed`, all that comes behind
the first argument is an argument. -/
def read (switches : List Switch) (mixed : Bool) : List String → Except UsageFault Given
  | [] => .ok {}
  | arg :: rest =>
    match meaning switches arg with
    | .endOfSwitches => .ok { arguments := rest }
    | .fault fault => .error fault
    | .argument =>
      if mixed then
        (read switches mixed rest).map fun g => { g with arguments := arg :: g.arguments }
      else .ok { arguments := arg :: rest }
    | .help => (read switches mixed rest).map fun g => { g with help := true }
    | .value s _ (some value) => (read switches mixed rest).map (addValue s value)
    | .value s spelling none =>
      match rest with
      | value :: rest => (read switches mixed rest).map (addValue s value)
      | [] => .error (.noValue spelling)

/-- The last value that is given for a switch. -/
def last? (g : Given) (long : String) : Option String :=
  (g.values.reverse.find? fun v => v.1.long = long).map Prod.snd

/-! ## Checking -/

/-- The integer that a text stands for: digits with single underscores between them, and perhaps a
sign and blanks around it. -/
def integer? (text : String) : Option Int :=
  let (negative, digits) := match Text.trim text.toList with
    | '-' :: rest => (true, rest)
    | '+' :: rest => (false, rest)
    | rest => (false, rest)
  let rec value? (before : Option Nat) : List Char → Option Nat
    | [] => before
    | '_' :: c :: rest =>
      match before, Text.decimalValue? c with
      | some n, some d => value? (some (n * 10 + d)) rest
      | _, _ => none
    | c :: rest =>
      match Text.decimalValue? c with
      | some d => value? (some (before.getD 0 * 10 + d)) rest
      | none => none
  if digits.length > Json.maxDigits then none
  else (value? none digits).map fun (n : Nat) => if negative then -(n : Int) else n

/-- What is wrong with a value of a kind. -/
def faultOf? (folder : Folder) (kind : Switch.Kind) (value : String) : Option String :=
  match kind with
  | .text => none
  | .integer =>
    if (integer? value).isSome then none
    else some s!"{Text.quoted value} is not a valid integer."
  | .file =>
    let l := Location.ofText value
    if value = "" || !folder.existsAt l then some s!"File {Text.quoted value} does not exist."
    else if folder.isFolderAt l then some s!"File {Text.quoted value} is a directory."
    else none

/-- The first value that is not what it has to be: those of switches come before the argument, which
is a file with the name. -/
def check (folder : Folder) (argument : Option String) (g : Given) : Except UsageFault Unit := do
  for s in (g.values.map Prod.fst).eraseDups do
    match faultOf? folder s.kind ((g.last? s.long).getD "") with
    | some why => throw (.invalid (s.long :: s.short.toList) why)
    | none => pure ()
  match argument, g.arguments with
  | some name, [] => throw (.noArgument name)
  | some name, value :: rest =>
    match faultOf? folder .file value with
    | some why => throw (.invalid [name] why)
    | none => if !rest.isEmpty then throw (.moreArguments rest)
  | none, [] => pure ()
  | none, extra => throw (.moreArguments extra)

end Given

end FlexForm.CommandLine
