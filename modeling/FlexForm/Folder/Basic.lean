import FlexForm.Folder.Location
import FlexForm.Text.Quoted

/-! # The working folder

The files and folders below the root, with the contents of the files, and the folder in which the
program works.

* `Folder`: the files, folders that may be empty, and where the working folder is.
* `Folder.find?`: where a location leads; `Folder.resolve`: where it comes to when its steps up are
  dropped as they stand.
* `Folder.tooLong`: the locations at which asking for anything fails for their length.
* `Folder.askFault?`: why there can be neither reading nor writing at a location.
* `Folder.textAt?`, `Folder.isFolderAt`, `Folder.childNames`: reading.
* `Folder.write`, `Folder.makeFolders`: writing.
-/

namespace FlexForm
set_option autoImplicit false

/-- The files by their names from the root on, the later ones first, the folders that were made, and
the names that lead to the working folder. -/
structure Folder where
  contents : List (List String × String) := []
  made : List (List String) := []
  home : List String := ["work"]
  home_proper : Location.up ∉ home := by decide

namespace Folder

/-- Where the names of a location are read on from. -/
def start (f : Folder) (l : Location) : List String := if l.rooted then [] else f.home

/-- The folder with the files, of which each is given by the text of its location. -/
def ofFiles (files : List (String × String)) : Folder :=
  { contents := files.map fun (place, content) =>
      (({} : Folder).start (.ofText place) ++ Location.namesOf place, content) }

/-- The files in the working folder and below, by their names from there on. -/
def files (f : Folder) : List (List String × String) :=
  f.contents.filterMap fun (names, content) =>
    (f.home.isPrefixOf? names).map fun below => (below, content)

def isProperPrefix (place names : List String) : Bool :=
  place.isPrefixOf names && place.length < names.length

def hasFolder (f : Folder) (place : List String) : Bool :=
  place.isPrefixOf f.home || f.contents.any (fun file => isProperPrefix place file.1) ||
    f.made.any fun other => place.isPrefixOf other

def file? (f : Folder) (place : List String) : Option String := f.contents.lookup place

/-- Where a name leads from a place on; from the root, a step up leads to the root. -/
def next (place : List String) (name : String) : List String :=
  if name = Location.up then place.dropLast else place ++ [name]

/-- The names from the root on to where the names lead from a place on. Only folders may be on the
way. -/
def follow (f : Folder) : List String → List String → Option (List String)
  | place, [] => some place
  | place, name :: rest => if f.hasFolder place then follow f (next place name) rest else none

def find? (f : Folder) (l : Location) : Option (List String) :=
  if l.hasNul then none else f.follow (f.start l) l.names

/-- Where a location comes to when each step up takes a name away, whether it is there or not. -/
def resolve (f : Folder) (l : Location) : List String :=
  Location.settle true [] (f.start l ++ l.names)

/-- Whether following the names comes to a name that is too long. -/
def meetsLong (f : Folder) : List String → List String → Bool
  | _, [] => false
  | place, name :: rest =>
    f.hasFolder place && (Location.nameLimit < name.utf8ByteSize ||
      meetsLong f (next place name) rest)

/-- Whether asking for what is at a location fails for the length of its text or of a name. Where a
name has a NUL, the answer is that there is nothing, however long the names are. -/
def tooLong (f : Folder) (l : Location) : Bool :=
  !l.hasNul && (Location.textLimit < l.text.utf8ByteSize || f.meetsLong (f.start l) l.names)

/-- Why nothing can be done at a location. -/
inductive AskFault where
  | tooLong (place : String)
  | nul
  deriving DecidableEq, Inhabited

def AskFault.message : AskFault → String
  | .tooLong place => s!"[Errno 36] File name too long: {Text.quoted place}"
  | .nul => "embedded null byte"

/-- Why a file can be neither read nor written at a location, wherever the location leads. -/
def askFault? (f : Folder) (l : Location) : Option AskFault :=
  if l.hasNul then some .nul else if f.tooLong l then some (.tooLong l.text) else none

/-! ## Reading -/

def textAt? (f : Folder) (l : Location) : Option String := do
  f.file? (← f.find? l)

def isFolderAt (f : Folder) (l : Location) : Bool := (f.find? l).any f.hasFolder

def existsAt (f : Folder) (l : Location) : Bool := (f.textAt? l).isSome || f.isFolderAt l

/-- The names of the files and folders in a folder, each once. -/
def childNames (f : Folder) (l : Location) : List String :=
  match f.find? l with
  | none => []
  | some place =>
    let below := fun (names : List String) =>
      if isProperPrefix place names then names[place.length]? else none
    ((f.contents.map Prod.fst ++ f.made).filterMap below).eraseDups

/-! ## Writing -/

/-- Why something is not written. -/
inductive WriteFault where
  | noFolder
  | notFolder
  | isFolder
  | isThere
  | outOfReach (why : AskFault)
  deriving DecidableEq, Inhabited

/-- Writes a file into a folder that is there. -/
def write (f : Folder) (l : Location) (content : String) : Except WriteFault Folder :=
  match f.askFault? l with
  | some why => .error (.outOfReach why)
  | none =>
    if f.isFolderAt l then .error .isFolder
    else match f.find? l with
      | some place =>
        .ok { f with contents := (place, content) :: f.contents.filter fun file => file.1 ≠ place }
      | none => .error (if (f.textAt? l.parent).isSome then .notFolder else .noFolder)

/-- Makes a folder and those on the way to it, where they are not there. -/
def makeFolders (f : Folder) (l : Location) : Except WriteFault Folder :=
  let place := f.resolve l
  if l.hasNul then .error (.outOfReach .nul)
  else if (f.file? place).isSome then .error .isThere
  else if f.contents.any fun file => isProperPrefix file.1 place then .error .notFolder
  else if Location.textLimit < l.text.utf8ByteSize ||
      place.any fun name => Location.nameLimit < name.utf8ByteSize then
    .error (.outOfReach (.tooLong l.text))
  else .ok { f with made := place :: f.made }

theorem file?_write {f g : Folder} {l : Location} {content : String} {place : List String}
    (h : f.write l content = .ok g) (found : f.find? l = some place) :
    g.file? place = some content := by
  unfold write at h
  split at h
  next => cases h
  next =>
    split at h
    next => cases h
    next =>
      rw [found] at h
      cases h
      simp [file?]

end Folder

end FlexForm
