import FlexForm.CommandLine.Help
import FlexForm.Lifecycle
import FlexForm.Settings.Source
import FlexForm.Shelf

/-! # Running commands

A run takes the files of the working folder, the environment and what is given, and leaves files and
two texts behind.

* `CommandLine.Outcome`: what a run leaves behind.
* `CommandLine.run`: a whole run.
-/

namespace FlexForm.CommandLine
set_option autoImplicit false

/-- What makes a run stop without a message of its own. -/
inductive Crash where
  | path (fault : PathFault)
  /-- The reading of a record stopped. -/
  | record (why : String)
  /-- A folder cannot be asked for a template or for the settings. -/
  | outOfReach (why : Folder.AskFault)
  | write (fault : Folder.WriteFault)
  | settings (fault : Settings.SourceFault)
  /-- The file for notes cannot be opened. -/
  | notes

structure Outcome where
  code : Nat := 0
  out : String := ""
  err : String := ""
  folder : Folder
  crash : Option Crash := none

namespace Outcome

def failed (folder : Folder) (message : String) : Outcome :=
  { code := 1, err := s!"Error: {message}\n", folder }

def misused (folder : Folder) (path usage : String) (fault : UsageFault) : Outcome :=
  { code := 2
    err := s!"{usage}\nTry '{path} {helpSpelling}' for help.\n\nError: {fault.message}\n"
    folder }

def crashed (folder : Folder) (crash : Crash) : Outcome :=
  { code := 1, folder, crash := some crash }

end Outcome

/-! ## Parts of a run -/

/-- Why a command does not come to its end. -/
inductive Stop where
  | failed (message : String)
  | misused (fault : UsageFault)
  | crashed (crash : Crash)

/-- The outcome of a command, with the folder in which it was started. -/
def outcomeOf (folder : Folder) (c : Command) (x : Except Stop Outcome) : Outcome :=
  match x with
  | .ok outcome => outcome
  | .error (.failed message) => .failed folder message
  | .error (.misused fault) => .misused folder c.path c.usage fault
  | .error (.crashed crash) => .crashed folder crash

/-- Makes the file for notes, with the folders on the way to it. -/
def openNotes (folder : Folder) (place : String) : Except Crash Folder :=
  let given := Location.ofText (if place = "" then logFileDefault else place)
  let l := given.settled
  if given.hasNul then .error (.write (.outOfReach .nul))
  else if l.rooted || l.names.head? = some Location.up then .ok folder
  else
    match folder.makeFolders l.parent with
    | .error fault => .error (.write fault)
    | .ok made =>
      if (made.textAt? l).isSome then .ok made
      else (made.write l "").mapError fun _ => .notes

/-- The value of a JSON file, which the message of a fault calls by its role. -/
def readJson (folder : Folder) (role place : String) : Except Stop Json :=
  match Shelf.readJson ((folder.textAt? (.ofText place)).getD "") with
  | .ok v => .ok v
  | .error why => .error (.failed s!"{role} file {place} is not valid JSON: {why}")

/-- What a missing template does to a command. -/
def Stop.ofTemplate : TemplateFault → Stop
  | .stopped why => .crashed (.record why)
  | .outOfReach why => .crashed (.outOfReach why)
  | fault => .failed fault.message

def givenTemplate (folder : Folder) (s : Settings) (g : Given) : Except Stop Template :=
  match g.last? templateFile.long, g.last? templateId.long with
  | some place, id =>
    if id.getD "" ≠ "" then .error (.misused .notOneTemplate)
    else do
      let record ← readJson folder "Template" place
      (Template.ofRecord record).mapError Stop.ofTemplate
  | none, id =>
    if id.getD "" = "" then .error (.misused .notOneTemplate)
    else
      (Shelf.require folder (Shelf.ofFolder? s.templatesFolder) (id.getD "")).mapError
        Stop.ofTemplate

/-- The text of a value, on one line when the indent is zero. -/
def payload (g : Given) (v : Json) : String :=
  match ((g.last? indent.long).bind Given.integer?).getD 2 with
  | 0 => v.text
  | step => Json.pretty .token step.toNat v

/-! ## Commands -/

def runCompile (folder : Folder) (s : Settings) (g : Given) : Except Stop Outcome := do
  let t ← givenTemplate folder s g
  let data ← readJson folder "Data" (g.arguments.headD "")
  let c ← (t.compile s.render.levels data).mapError fun fault => .crashed (.path fault)
  let err := String.join (c.problems.map fun p => s!"{p.path}: {p.flaw.message}\n")
  let code := if c.problems.isEmpty then 0 else 1
  match c.message with
  | none => pure { code, err, folder }
  | some message =>
    let text := payload g message ++ "\n"
    match g.last? output.long with
    | none | some "" => pure { code, out := text, err, folder }
    | some place =>
      match folder.write (.ofText place) text with
      | .ok folder => pure { code, err, folder }
      | .error fault => pure { code := 1, err, folder, crash := some (.write fault) }

def runDefaults (folder : Folder) (s : Settings) (g : Given) : Except Stop Outcome := do
  let t ← givenTemplate folder s g
  let data ← t.upgrade.schema.defaults.mapError fun fault => .crashed (.path fault)
  pure { out := payload g data ++ "\n", folder }

def listHeader : String := "id\tstatus\tversion\tmode\tname\n"

def listLine (t : Template) : String :=
  let columns := [t.id.getD "None", t.status.name, toString t.version, t.mode.name, t.name]
  "\t".intercalate columns ++ "\n"

/-- Writes a template into a folder as a record of its own. -/
def exportTemplate (place : Location) (before : Outcome) (t : Template) : Outcome :=
  if before.crash.isSome then before
  else
    let l := place.child (t.id.getD "None" ++ Shelf.extension)
    match before.folder.write l (Json.pretty .compact 2 (t.dump .brief)) with
    | .ok folder => { before with folder, out := before.out ++ l.text ++ "\n" }
    | .error fault => { before with code := 1, crash := some (.write fault) }

def runTemplates (folder : Folder) (s : Settings) (g : Given) : Except Stop Outcome := do
  let all ← (Shelf.listFrom folder (Shelf.ofFolder? s.templatesFolder)).mapError Stop.ofTemplate
  match g.last? exportFolder.long with
  | none | some "" => pure { out := listHeader ++ String.join (all.map listLine), folder }
  | some text =>
    let place := Location.ofText text
    match folder.makeFolders place with
    | .error fault => throw (.crashed (.write fault))
    | .ok folder => pure (all.foldl (exportTemplate place) { folder })

/-- Runs a command with what is given for it. -/
def runCommand (folder : Folder) (s : Settings) (c : Command) (args : List String) : Outcome :=
  match Given.read c.switches true args with
  | .error fault => .misused folder c.path c.usage fault
  | .ok g =>
    if g.help then { out := c.page, folder }
    else outcomeOf folder c do
      (g.check folder c.argument).mapError Stop.misused
      match c.name with
      | "compile" => runCompile folder s g
      | "defaults" => runDefaults folder s g
      | "templates" => runTemplates folder s g
      | _ => pure { folder }

/-! ## The program -/

/-- The file with the settings, when no other one is given. -/
def configFileDefault : String := "config.toml"

/-- A whole run of the program. -/
def run (folder : Folder) (environment : Settings.Environment) (args : List String) : Outcome :=
  let misused (fault : UsageFault) : Outcome := .misused folder programName programUsage fault
  if args.isEmpty then { code := 2, err := programPage, folder }
  else match Given.read [configFile] false args with
    | .error fault => misused fault
    | .ok g =>
      if g.help then { out := programPage, folder }
      else match g.arguments with
        | [] => misused .commandMissing
        | name :: rest =>
          match commands.find? fun c => c.name = name with
          | none => misused (.noCommand name)
          | some c =>
            let place := (g.last? configFile.long).getD configFileDefault
            match Settings.ofFileOrDefaults folder environment place with
            | .error (.values fault) => .crashed folder (.settings (.values fault))
            | .error (.noJson setting) => .crashed folder (.settings (.noJson setting))
            | .error (.outOfReach why) => .crashed folder (.outOfReach why)
            | .error fault => .failed folder fault.message
            | .ok s =>
              match openNotes folder s.logFile with
              | .error crash => .crashed folder crash
              | .ok folder => runCommand folder s c rest

end FlexForm.CommandLine
