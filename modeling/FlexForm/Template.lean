import FlexForm.Render.Mode
import FlexForm.Schema.Dump
import FlexForm.Schema.Load
import FlexForm.Timestamp.Reader

/-! # Templates

A template joins the text that becomes a message with the form whose data the text is filled from.

* `Status`, `Template`: the records.
* `Template.load`, `Template.dump`: reading and writing them.
* `Template.refusal`: the words for complaints about a record.
-/

namespace FlexForm
set_option autoImplicit false

inductive Status where
  | draft
  | published
  deriving DecidableEq, Inhabited

def Status.name : Status → String
  | .draft => "draft"
  | .published => "published"

/-- The written names of the states. -/
def Status.names : List (String × Status) := [("draft", .draft), ("published", .published)]

theorem Status.lookup_name (s : Status) : Status.names.lookup s.name = some s := by
  cases s <;> decide

structure Template where
  id : Option String := none
  name : String := ""
  description : String := ""
  status : Status := .draft
  version : Int := 1
  text : String := ""
  schema : FormSchema := {}
  sample : Option (List (String × Json)) := none
  mode : Render.Mode := .raw
  createdAt : Option Timestamp := none
  updatedAt : Option Timestamp := none

namespace Template

/-! ## Reading -/

/-- A text, where null stands for the empty one. -/
def nullableText : Load.Loader String
  | .null => .ok ""
  | v => Load.text v

/-- The template with the parts; without a mode, the text decides on it. -/
def make (id : Option String) (name description : String) (status : Status) (version : Int)
    (text : String) (schema : FormSchema) (sample : Option (List (String × Json)))
    (mode : Option Render.Mode) (createdAt updatedAt : Option Timestamp) : Template :=
  { id, name, description, status, version, text, schema, sample,
    mode := mode.getD (.detect text), createdAt, updatedAt }

open Load in
def load : Loader Template :=
  record "Template" fun r =>
    make
      <$> optional r "id" "id" (nullable Load.text) none
      <*> optional r "name" "name" Load.text ""
      <*> optional r "description" "description" nullableText ""
      <*> optional r "status" "status" (oneOf Status.names) .draft
      <*> optional r "version" "version" integer 1
      <*> optional r "templateText" "template_text" Load.text ""
      <*> optional r "schema" "form_schema" FormSchema.load {}
      <*> optional r "sampleData" "sample_data" (nullable object) none
      <*> optional r "renderMode" "render_mode" (nullable (oneOf Render.Mode.names)) none
      <*> optional r "createdAt" "created_at" (nullable Timestamp.load) none
      <*> optional r "updatedAt" "updated_at" (nullable Timestamp.load) none

/-- A line about each complaint, with the keys that lead to its place. -/
def complaintLines (complaints : List Complaint) : List String :=
  complaints.map fun c => "  - " ++ " -> ".intercalate c.loc ++ ": " ++ c.message

/-- The words for complaints about a record. -/
def refusal (complaints : List Complaint) : String :=
  "\n".intercalate ("Template validation failed:" :: complaintLines complaints)

/-! ## Writing -/

open Dump in
/-- The record of a template. -/
def dump (style : Style) (t : Template) : Json :=
  .obj (part style "id" (ofOption .str t.id)
    ++ [("name", .str t.name), ("description", .str t.description),
      ("status", .str t.status.name), ("version", .int t.version),
      ("templateText", .str t.text), ("schema", t.schema.dump style)]
    ++ freePart style "sampleData" (ofOption .obj t.sample)
    ++ [("renderMode", .str t.mode.name)]
    ++ part style "createdAt" (ofOption (fun at' => .str at'.text) t.createdAt)
    ++ part style "updatedAt" (ofOption (fun at' => .str at'.text) t.updatedAt))

end Template

end FlexForm
