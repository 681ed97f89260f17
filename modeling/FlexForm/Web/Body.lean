import FlexForm.Web.Basic

/-! # Bodies of requests

* `Web.loadBody`, `Web.readBody`: the record in a body.
* `Web.Asked`: which template is asked for.
* `Web.CompileBody`, `Web.DocumentBody`: the records.
-/

namespace FlexForm.Web
set_option autoImplicit false

/-- The JSON value of a body; null stands for none. -/
def bodyValue (body : String) : Except Refusal Json :=
  let s := match body.toList with
    | '\uFEFF' :: rest => rest
    | s => s
  if body.isEmpty then .ok .null
  else match Json.readChars true s with
    | .ok v => .ok v
    | .error ⟨.digits _, _⟩ => .error .unreadable
    | .error ⟨cause, left⟩ => .error (.notJson cause (s.length - left))

/-- A record that is sent as a whole body. -/
def loadBody {α : Type} (load : List (String × Json) → Checked α) : Load.Loader α
  | .null => .fail .missing .null
  | .obj fields => load fields
  | v => .fail .notFieldObject v

/-- A value that is checked; where the reading stops, the service fails. -/
def orRefused {α : Type} : Checked α → Except Refusal α
  | .ok a => .ok a
  | .refused complaints => .error (.body complaints)
  | .stopped _ => .error .broken

def readBody {α : Type} (load : List (String × Json) → Checked α) (body : String) :
    Except Refusal α := do
  orRefused ((loadBody load (← bodyValue body)).under "body")

/-- Which template is asked for: a record wins over an id. -/
structure Asked where
  id : Option String
  record : Option (List (String × Json))

structure CompileBody where
  asked : Asked
  data : List (String × Json)

structure DocumentBody where
  doc : List (String × Json)
  asked : Asked

open Load in
def Asked.load (r : List (String × Json)) : Checked Asked :=
  Asked.mk
    <$> optional r "template_id" "template_id" (nullable text) none
    <*> optional r "template" "template" (nullable object) none

open Load in
def CompileBody.load (r : List (String × Json)) : Checked CompileBody :=
  CompileBody.mk <$> Asked.load r <*> optional r "data" "data" object []

open Load in
def DocumentBody.load (r : List (String × Json)) : Checked DocumentBody :=
  DocumentBody.mk <$> required r "doc" "doc" object <*> Asked.load r

/-- Which template is asked for with a document: without an id, the one that the document names. -/
def DocumentBody.askedFor (b : DocumentBody) (d : Document) : Asked :=
  let id := match b.asked.id with
    | some "" | none => d.templateId
    | some id => some id
  { b.asked with id }

def Asked.find (a : Asked) (folder : Folder) (shelves : List Shelf) :
    Except Refusal Template :=
  let found := match a.record, a.id with
    | some record, _ => Template.ofRecord (.obj record)
    | none, some id => Shelf.require folder shelves id
    | none, none => .error .noneGiven
  found.mapError Refusal.template

end FlexForm.Web
