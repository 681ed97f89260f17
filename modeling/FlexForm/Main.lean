import FlexForm.CommandLine.Run

/-! # The program

Reads the files that a run can ask for, runs the command and writes what it leaves behind. Folders
are not listed: of a folder with templates, those are read whose id is given.
-/

namespace FlexForm.CommandLine
set_option autoImplicit false

/-- The names of the variables that settings are read from. -/
def variableNames : List String :=
  let single := Settings.names.map fun name => Settings.variableStart ++ name
  let grouped := Settings.groups.flatMap fun (group, names) =>
    names.map fun name => Settings.variableStart ++ group ++ "__" ++ name
  (single ++ grouped).map String.toUpper

/-- The texts in the arguments that can name a file: each argument, and the values in it. -/
def fileNames (args : List String) : List String :=
  args.flatMap fun arg =>
    let cs := arg.toList
    [arg] ++ (Given.splitValue cs).2.toList ++ (Given.splitShort cs).2.toList

/-- The names of the files of templates with the given ids. -/
def templateNames (place : String) (args : List String) : List String :=
  (fileNames args).map fun id => ((Location.ofText place).child (id ++ Shelf.extension)).text

def readVariables : IO Settings.Environment :=
  variableNames.filterMapM fun name => do
    pure ((← IO.getEnv name).map fun value => (name, value))

/-- The files with the names, as far as they can be read. -/
def readFiles (names : List String) : IO (List (String × String)) :=
  names.filterMapM fun (name : String) => do
    try
      pure (some (name, ← IO.FS.readFile name))
    catch _ => pure none

/-- Writes the files that were not there before, or had another content. -/
def writeFiles (before after : Folder) : IO Unit :=
  for (names, content) in after.files do
    if before.files.lookup names ≠ some content then
      let l : Location := ⟨"", names⟩
      IO.FS.createDirAll l.parent.text
      IO.FS.writeFile l.text content

end FlexForm.CommandLine

open FlexForm FlexForm.CommandLine in
def main (args : List String) : IO UInt32 := do
  let environment ← readVariables
  let given ← readFiles (configFileDefault :: fileNames args)
  let place := ((Given.read [configFile] false args).toOption.bind fun g => g.last? configFile.long)
  let settings := Settings.ofFileOrDefaults (.ofFiles given) environment
    (place.getD configFileDefault)
  let more ← match settings with
    | .ok s => readFiles (s.logFile :: templateNames (s.templatesFolder.getD "") args)
    | .error _ => pure []
  let before := Folder.ofFiles (given ++ more)
  let outcome := run before environment args
  writeFiles before outcome.folder
  IO.print outcome.out
  (← IO.getStderr).putStr outcome.err
  return outcome.code.toUInt32
