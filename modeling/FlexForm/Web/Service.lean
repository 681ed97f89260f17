import FlexForm.Web.Body

/-! # The service

Compiles, lists and publishes on request.

* `Web.Service`: what the service knows besides the request.
* `Web.Service.answer`: the response to a request.
-/

namespace FlexForm.Web
set_option autoImplicit false

/-- What the service knows besides the request. -/
structure Service where
  settings : Settings
  folder : Folder
  clock : Timestamp

namespace Service

def shelves (s : Service) : List Shelf := Shelf.ofFolder? s.settings.templatesFolder

def now (s : Service) : Except Refusal Timestamp :=
  match TimeZone.now? s.settings.clock s.clock with
  | some t => .ok t
  | none => .error .broken

/-- What compiling, rendering and reading of paths give; where they stop, the service fails. -/
def orBroken {α : Type} (x : Except PathFault α) : Except Refusal α :=
  x.mapError fun _ => .broken

/-! ## Answers -/

def compile (s : Service) (body : String) : Except Refusal Json := do
  let request ← readBody CompileBody.load body
  let t ← request.asked.find s.folder s.shelves
  let c ← orBroken (t.compile s.settings.render.levels (.obj request.data))
  pure (.obj [("ok", .bool c.isOk), ("kind", .str c.kind.name),
    ("message", (c.message.map Json.withNulls).getD .null),
    ("errors", .arr (c.problems.map Problem.dump))])

def defaults (s : Service) (body : String) : Except Refusal Json := do
  let asked ← readBody Asked.load body
  let t ← asked.find s.folder s.shelves
  orBroken t.upgrade.schema.defaults

def summary (t : Template) : Json :=
  .obj [("id", (t.id.map Json.str).getD .null), ("name", .str t.name),
    ("description", .str t.description), ("status", .str t.status.name),
    ("version", .int t.version), ("render_mode", .str t.mode.name)]

/-- All templates; on a single shelf none is left out. -/
def templates (s : Service) : Except Refusal Json := do
  let all ← (Shelf.listFrom s.folder s.shelves).mapError Refusal.template
  pure (.arr (all.map summary))

def template (s : Service) (id : String) : Except Refusal Json := do
  let t ← (Shelf.require s.folder s.shelves id).mapError Refusal.template
  pure (t.dump .brief)

/-- The document of a body, and the template with which it is compiled. -/
def document (s : Service) (body : String) : Except Refusal (Document × Template) := do
  let request ← readBody DocumentBody.load body
  match Document.load (.obj request.doc) with
  | .refused _ | .stopped _ => throw .broken
  | .ok d =>
    let t ← (request.askedFor d).find s.folder s.shelves
    pure (d, t)

def validate (s : Service) (body : String) : Except Refusal Json := do
  let (d, t) ← s.document body
  let c ← orBroken (t.compile s.settings.render.levels (.obj d.data))
  pure (d.record c (← s.now)).dump

def publish (s : Service) (body : String) : Except Refusal Json := do
  let (d, t) ← s.document body
  -- Only a document that is published needs the time.
  match d.publish t s.settings.render.levels (s.now.toOption.getD s.clock) with
  | .ok d => s.now.map fun _ => d.dump
  | .error (.stopped _) => throw .broken
  | .error (.blocked problems) => throw (.blocked problems)

def answerTo (s : Service) (body : String) : Endpoint → Except Refusal Json
  | .compile => s.compile body
  | .defaults => s.defaults body
  | .templates => s.templates
  | .template id => s.template id
  | .validate => s.validate body
  | .publish => s.publish body

/-- A response can only be written when its numbers are finite. -/
def writable (r : Response) : Response :=
  match r.content with
  | .json v => if v.isFinite then r else .failed
  | .text _ => r

def outcome (s : Service) (r : Request) : Except Refusal Json :=
  match Endpoint.ofPath? r.path with
  | none => .error .notFound
  | some e => if e.method = r.method then s.answerTo r.body e else .error .wrongMethod

def answer (s : Service) (r : Request) : Response :=
  match s.outcome r with
  | .ok v => writable ⟨200, .json v⟩
  | .error refusal =>
    let response := writable refusal.response
    { response with content := if r.method = "HEAD" then .text "" else response.content }

end Service

end FlexForm.Web
