/-! # Locations of files

A location is a row of names, read from the working folder on or from the root. A text of names is
divided by slashes; empty names and single dots are dropped, and two dots lead one level up.

* `Location`, `Location.ofText`, `Location.text`: the type and its written form.
* `Location.child`, `Location.parent`, `Location.settled`: moving about.
* `Location.stem`: a file name without its last extension.
* `Location.hasNul`: the locations that nothing can stand at, whatever folders there are.
* `Location.nameLimit`, `Location.textLimit`: how long names and written forms may be.
-/

namespace FlexForm
set_option autoImplicit false

/-- The slashes that stand for the root in front of the names, none when they are read from the
working folder on, and the names. -/
structure Location where
  root : String := ""
  names : List String
  deriving DecidableEq, Inhabited

namespace Location

/-- Whether the names are read from the root on. -/
def rooted (l : Location) : Bool := l.root != ""

def up : String := ".."

/-- The character that no name of a file or folder has. -/
def nul : Char := '\x00'

def hasNul (l : Location) : Bool := l.names.any fun name => name.toList.contains nul

def splitNames : List Char → List (List Char)
  | [] => [[]]
  | '/' :: rest => [] :: splitNames rest
  | c :: rest =>
    match splitNames rest with
    | [] => [[c]]
    | part :: parts => (c :: part) :: parts

def namesOf (text : String) : List String :=
  ((splitNames text.toList).filter fun part => part ≠ [] ∧ part ≠ ['.']).map String.ofList

/-- The root that the slashes in front of a text stand for: two are kept, any other number is one. -/
def rootOf (text : String) : String :=
  match (text.toList.takeWhile (· == '/')).length with
  | 0 => ""
  | 2 => "//"
  | _ => "/"

def ofText (text : String) : Location := ⟨rootOf text, namesOf text⟩

/-- The written form; the working folder itself is a dot. -/
def text (l : Location) : String :=
  if l.root = "" && l.names.isEmpty then "." else l.root ++ "/".intercalate l.names

/-- What a text means from a location on. -/
def child (l : Location) (text : String) : Location :=
  let other := ofText text
  if other.rooted then other else { l with names := l.names ++ other.names }

def parent (l : Location) : Location := { l with names := l.names.dropLast }

/-- The names without those that lead up, as far as there is a name to drop for them. -/
def settle (rooted : Bool) : List String → List String → List String
  | before, [] => before.reverse
  | before, name :: rest =>
    if name = up then
      match before with
      | last :: earlier =>
        if last = up then settle rooted (name :: before) rest else settle rooted earlier rest
      | [] => settle rooted (if rooted then [] else [name]) rest
    else settle rooted (name :: before) rest

/-- The location without steps up, whatever the folders on the way are. -/
def settled (l : Location) : Location := { l with names := settle l.rooted [] l.names }

/-- A file name without its last extension; a dot in front starts no extension. -/
def stemOf (name : String) : String :=
  let cs := name.toList
  let extension := (cs.reverse.takeWhile (· != '.')).length
  if extension = 0 || extension + 1 ≥ cs.length then name
  else String.ofList (cs.take (cs.length - extension - 1))

def stem (l : Location) : String := stemOf (l.names.getLast?.getD "")

/-- The most bytes of a name. -/
def nameLimit : Nat := 255

/-- The most bytes of the written form of a location. -/
def textLimit : Nat := 4095

theorem settle_cons_of_ne {name : String} (h : name ≠ up) (rooted : Bool)
    (before rest : List String) :
    settle rooted before (name :: rest) = settle rooted (name :: before) rest := by
  simp [settle, h]

theorem settle_append {names : List String} (h : up ∉ names) (rooted : Bool)
    (before after : List String) :
    settle rooted before (names ++ after) = settle rooted (names.reverse ++ before) after := by
  induction names generalizing before with
  | nil => rfl
  | cons name rest ih =>
    rw [List.mem_cons, not_or] at h
    rw [List.cons_append, settle_cons_of_ne (Ne.symm h.1), ih h.2]
    simp

end Location

end FlexForm
