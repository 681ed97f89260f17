import FlexForm.CommandLine.Switch

/-! # Help pages

* `Command`: a command with its switches.
* `Command.usage`, `Command.page`: the line on its use, and its help page.
* `program`, `programPage`: the whole program.
-/

namespace FlexForm.CommandLine
set_option autoImplicit false

structure Command where
  name : String
  /-- The paragraphs about the command. -/
  about : List String
  /-- The name of the argument. -/
  argument : Option String := none
  switches : List Switch

def programName : String := "cli"

/-! ## Layout -/

/-- Lines of two columns, the second one two blanks behind the longest entry of the first one. -/
def columns (rows : List (String × String)) : List String :=
  let width := (rows.map fun r => r.1.length).foldl max 0
  rows.map fun (left, right) =>
    if right = "" then "  " ++ left
    else "  " ++ left ++ String.ofList (List.replicate (width - left.length + 2) ' ') ++ right

/-- The line on a switch: its spellings, the kind of its value, and what it is for. -/
def Switch.row (s : Switch) : String × String :=
  (", ".intercalate (s.short.toList ++ [s.long]) ++ " " ++ s.kind.name, s.about)

def helpRow : String × String := (helpSpelling, "Show this message and exit.")

def page (parts : List (List String)) : String :=
  "\n\n".intercalate (parts.map fun lines => "\n".intercalate lines) ++ "\n"

/-! ## Commands -/

namespace Command

/-- What is written to call the command. -/
def path (c : Command) : String := programName ++ " " ++ c.name

def usage (c : Command) : String :=
  "Usage: " ++ c.path ++ " [OPTIONS]" ++ ((c.argument.map fun a => " " ++ a).getD "")

def page (c : Command) : String :=
  CommandLine.page ([c.usage] :: c.about.map (fun text => ["  " ++ text]) ++
    ["Options:" :: columns (c.switches.map Switch.row ++ [helpRow])])

end Command

def templateFile : Switch :=
  { long := "--template-file", short := some "-f", kind := .file
    about := "Template record JSON file" }

def templateId : Switch :=
  { long := "--template-id", short := some "-t", about := "Use a stored template by id" }

def output : Switch :=
  { long := "--output", short := some "-o", about := "Write the message to this file" }

def indent : Switch := { long := "--indent", kind := .integer, about := "[default: 2]" }

def exportFolder : Switch :=
  { long := "--export", about := "Write each template as <id>.json here" }

def configFile : Switch :=
  { long := "--config", short := some "-c", about := "Configuration file path" }

def compileCommand : Command where
  name := "compile"
  about := ["Compile DATA_FILE against a template and print the message.",
    "Exits with status 1 when the compile reports any error."]
  argument := some "DATA_FILE"
  switches := [templateFile, templateId, output, indent]

def defaultsCommand : Command where
  name := "defaults"
  about := ["Print the initial form data for a template's schema."]
  switches := [templateFile, templateId, indent]

def serveCommand : Command where
  name := "serve"
  about := ["Start the compile API server."]
  switches := [
    { long := "--host", short := some "-h", about := "Override host from config" },
    { long := "--port", short := some "-p", kind := .integer
      about := "Override port from config" }]

def templatesCommand : Command where
  name := "templates"
  about := ["List stored templates, or export them as JSON records."]
  switches := [exportFolder]

/-- The commands, in the order of their names. -/
def commands : List Command := [compileCommand, defaultsCommand, serveCommand, templatesCommand]

/-! ## The program -/

def programUsage : String := s!"Usage: {programName} [OPTIONS] COMMAND [ARGS]..."

def programPage : String :=
  page [[programUsage], ["  Flexshare - compile form data into Flex Message JSON."],
    "Options:" :: columns [configFile.row, helpRow],
    "Commands:" :: columns (commands.map fun c => (c.name, c.about.headD ""))]

end FlexForm.CommandLine
