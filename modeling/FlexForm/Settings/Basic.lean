import FlexForm.Compile
import FlexForm.Json.Display
import FlexForm.TimeZone.Zones

/-! # Settings

How the program is set up: languages, times, files, and the limits for compiling and serving.

* `Settings`, `Settings.dump`: the record.
* `Settings.Fault`: why values make no settings.
* `Settings.load`: the settings for values by name.
-/

namespace FlexForm
set_option autoImplicit false

/-- The limits for compiling. -/
structure RenderSettings where
  levels : Int := overlayLevels
  cacheSize : Int := 64

/-- Where requests are served. -/
structure WebSettings where
  host : String := "127.0.0.1"
  /-- The number of the service on the host. -/
  service : Int := 8000
  reload : Bool := false

/-- The file to which notes are added while the program runs. -/
def logFileDefault : String := "data/flexshare.log"

structure Settings where
  language : String := "en"
  zone : String := "UTC"
  logFile : String := logFileDefault
  templatesFolder : Option String := none
  render : RenderSettings := {}
  web : WebSettings := {}

namespace Settings

/-- Why values make no settings. -/
inductive Fault where
  | refused (complaints : List Complaint)
  /-- A list or an object stands where the name of a zone belongs. -/
  | noName (typeName : String)
  | stopped (why : String)

def Fault.message : Fault → String
  | .refused complaints =>
    "\n".intercalate ("Configuration validation failed:" :: Template.complaintLines complaints)
  | .noName typeName => s!"unhashable type: '{typeName}'"
  | .stopped why => why

/-! ## Reading -/

/-- The name of a zone. -/
def loadZone : Load.Loader String := fun v =>
  let refuse : Checked String := .fail (.rule (s!"Invalid timezone configuration: '{v.shown}'. " ++
    "Please use a valid IANA timezone identifier")) v
  match v with
  | .str s => if TimeZone.isName s then .ok s else refuse
  | _ => refuse

open Load in
def loadRender : Loader RenderSettings :=
  record "RenderConfig" fun r =>
    RenderSettings.mk
      <$> optional r "max_patch_depth" "max_patch_depth" (integerIn 1 (some 256)) overlayLevels
      <*> optional r "cache_size" "cache_size" (integerIn 0 none) 64

open Load in
def loadWeb : Loader WebSettings :=
  record "WebConfig" fun r =>
    WebSettings.mk
      <$> optional r "host" "host" text "127.0.0.1"
      <*> optional r "port" "port" (integerIn 1 (some 65535)) 8000
      <*> optional r "reload" "reload" boolean false

/-- The names of the settings. -/
def names : List String := ["language", "timezone", "log_file", "templates_dir", "render", "web"]

/-- Complains about values that belong to no setting. -/
def noOthers (values : List (String × Json)) : Checked Unit :=
  let others := values.filter fun v => !names.contains v.1
  if others.isEmpty then .ok ()
  else .refused (others.map fun (key, v) => ⟨[key], .unexpected, v⟩)

open Load in
def loadFields (values : List (String × Json)) : Checked Settings :=
  (fun s _ => s) <$>
    (Settings.mk
      <$> optional values "language" "language" text "en"
      <*> optional values "timezone" "timezone" loadZone "UTC"
      <*> optional values "log_file" "log_file" text logFileDefault
      <*> optional values "templates_dir" "templates_dir" (nullable text) none
      <*> optional values "render" "render" loadRender {}
      <*> optional values "web" "web" loadWeb {})
    <*> noOthers values

/-- The settings for values by name. Settings without a value keep their defaults. -/
def load (values : List (String × Json)) : Except Fault Settings :=
  match Fields.get? values "timezone" with
  | some (.arr items) => .error (.noName (Json.arr items).typeName)
  | some (.obj fields) => .error (.noName (Json.obj fields).typeName)
  | _ =>
    match loadFields values with
    | .ok s => .ok s
    | .refused complaints => .error (.refused complaints)
    | .stopped why => .error (.stopped why)

/-! ## Writing -/

def dump (s : Settings) : Json :=
  .obj [("language", .str s.language), ("timezone", .str s.zone), ("log_file", .str s.logFile),
    ("templates_dir", (s.templatesFolder.map Json.str).getD .null),
    ("render", .obj [("max_patch_depth", .int s.render.levels),
      ("cache_size", .int s.render.cacheSize)]),
    ("web", .obj [("host", .str s.web.host), ("port", .int s.web.service),
      ("reload", .bool s.web.reload)])]

/-- The rule of the clocks of the zone. -/
def clock (s : Settings) : TimeZone.Rule := (TimeZone.rule? s.zone).getD { offset := 0 }

end Settings

end FlexForm
