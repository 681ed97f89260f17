import FlexForm.Problem
import FlexForm.Template

/-! # Documents

A document keeps the data with which the form of a template has been filled, and the latest message
made of it.

* `Shape`: whether the message is one card or a row of cards.
* `Document`: the records, with `Document.load` and `Document.dump`.
-/

namespace FlexForm
set_option autoImplicit false

/-- Whether the message is one card or a row of cards. -/
inductive Shape where
  | single
  | carousel
  deriving DecidableEq, Inhabited

def Shape.name : Shape → String
  | .single => "single"
  | .carousel => "carousel"

def Shape.names : List (String × Shape) := [("single", .single), ("carousel", .carousel)]

theorem Shape.lookup_name (s : Shape) : Shape.names.lookup s.name = some s := by
  cases s <;> decide

structure Document where
  id : Option String := none
  title : String := ""
  templateId : Option String := none
  data : List (String × Json) := []
  shape : Shape := .single
  status : Status := .draft
  preview : Option Json := none
  isValid : Option Bool := none
  notices : List Notice := []
  validatedAt : Option Timestamp := none
  createdAt : Option Timestamp := none
  updatedAt : Option Timestamp := none

namespace Document

open Load in
def load : Loader Document :=
  record "Doc" fun r =>
    Document.mk
      <$> optional r "id" "id" (nullable text) none
      <*> optional r "title" "title" text ""
      <*> optional r "templateId" "template_id" (nullable text) none
      <*> optional r "data" "data" object []
      <*> optional r "mode" "mode" (oneOf Shape.names) .single
      <*> optional r "status" "status" (oneOf Status.names) .draft
      <*> optional r "previewJson" "preview_json"
        (nullable fun v => Checked.map Json.obj (object v)) none
      <*> optional r "isValid" "is_valid" (nullable boolean) none
      <*> optional r "validationErrors" "validation_errors" (list Notice.load) []
      <*> optional r "lastValidatedAt" "last_validated_at" (nullable Timestamp.load) none
      <*> optional r "createdAt" "created_at" (nullable Timestamp.load) none
      <*> optional r "updatedAt" "updated_at" (nullable Timestamp.load) none

open Dump in
/-- The full record of a document; parts without a value are null. -/
def dump (d : Document) : Json :=
  let time (t : Option Timestamp) : Json := ofOption (fun at' => .str at'.text) t
  .obj [("id", ofOption .str d.id), ("title", .str d.title),
    ("templateId", ofOption .str d.templateId), ("data", Style.full.value (.obj d.data)),
    ("mode", .str d.shape.name), ("status", .str d.status.name),
    ("previewJson", Style.full.value (d.preview.getD .null)), ("isValid", ofOption .bool d.isValid),
    ("validationErrors", .arr (d.notices.map (Notice.dump true))),
    ("lastValidatedAt", time d.validatedAt), ("createdAt", time d.createdAt),
    ("updatedAt", time d.updatedAt)]

end Document

end FlexForm
