import FlexForm.Compile
import FlexForm.Document
import FlexForm.Form.Defaults

/-! # The life of documents and templates

A document starts with example data or defaults, is compiled again and again while it is edited,
and is published when nothing is wrong. What is delivered is the message kept at that time, as long
as it keeps the rules for messages.

* `Template.initialData`, `Template.shape`: how a document starts.
* `Document.record`: keeps the outcome of compiling.
* `Document.publish`: publishes a document that compiles without a problem.
* `Document.share`: the message to deliver.
* `Document.publishBy`, `Document.shareBy`: the same with any way of rendering.
* `Template.publish`: the next version of a template.
-/

namespace FlexForm
set_option autoImplicit false

/-- The data with which a document starts: example data if there is any, and else the defaults. -/
def Template.initialData (t : Template) : Except PathFault Json :=
  match t.upgrade.sample with
  | some (field :: rest) => .ok (.obj (field :: rest))
  | _ => t.upgrade.schema.defaults

def Template.shape (t : Template) : Shape :=
  if t.classify = .carousel then .carousel else .single

/-- The next version of a template, published. -/
def Template.publish (t : Template) (now : Timestamp) : Template :=
  { t with status := .published, version := t.version + 1, updatedAt := some now }

inductive PublishFault where
  /-- Compiling stops. -/
  | stopped (fault : PathFault)
  /-- Compiling has problems, or no message. -/
  | blocked (problems : List Problem)

/-- The words for problems that keep a document from being published. -/
def PublishFault.blockedMessage (problems : List Problem) : String :=
  s!"Document cannot be published: {problems.length} validation error(s)"

namespace Document

/-- Keeps the outcome of compiling. -/
def record (d : Document) (c : Compiled) (now : Timestamp) : Document :=
  { d with
    preview := c.message
    isValid := some c.isOk
    notices := c.problems.map Problem.notice
    validatedAt := some now }

/-- Publishes the document if it compiles to a message without a problem. -/
def publishBy (d : Document) (t : Template) (render : Renderer) (now : Timestamp) :
    Except PublishFault Document :=
  match t.compileBy render (.obj d.data) with
  | .error fault => .error (.stopped fault)
  | .ok c =>
    if c.isOk then
      .ok { d with
        status := .published
        preview := c.message
        isValid := some true
        notices := []
        validatedAt := some now
        updatedAt := some now }
    else .error (.blocked c.problems)

def publish (d : Document) (t : Template) (levels : Int) (now : Timestamp) :
    Except PublishFault Document :=
  d.publishBy t (Render.render levels) now

/-- The message to deliver: the one that was kept, if it keeps the rules, and else a new one. -/
def shareBy (d : Document) (t : Template) (render : Renderer) : Except PathFault Compiled :=
  let again := t.compileBy render (.obj d.data)
  match d.preview with
  | some kept => if (Message.check kept).isEmpty then .ok ⟨some kept, [], .custom⟩ else again
  | none => again

def share (d : Document) (t : Template) (levels : Int) : Except PathFault Compiled :=
  d.shareBy t (Render.render levels)

theorem shareBy_of_preview (d : Document) (t : Template) (render : Renderer) {kept : Json}
    (h : d.preview = some kept) (ok : Message.check kept = []) :
    d.shareBy t render = .ok ⟨some kept, [], .custom⟩ := by
  simp [shareBy, h, ok]

end Document

end FlexForm
