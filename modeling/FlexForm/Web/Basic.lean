import FlexForm.Lifecycle
import FlexForm.Link.Domain
import FlexForm.Settings.Basic
import FlexForm.Shelf
import FlexForm.Text.Bytes

/-! # Requests and responses

What the service is asked and what it answers.

* `Web.Request`, `Web.Response`: the messages.
* `Web.Refusal`, `Web.Refusal.response`: why a request is not fulfilled.
* `Web.Endpoint`, `Web.endpoints`: what can be asked for, by method and path.
-/

namespace FlexForm.Web
set_option autoImplicit false

structure Request where
  method : String
  path : String
  body : String := ""

inductive Content where
  | json (v : Json)
  | text (s : String)

structure Response where
  status : Nat
  content : Content

/-- Why a request is not fulfilled. -/
inductive Refusal where
  /-- The body is no record of the right kind. -/
  | body (complaints : List Complaint)
  /-- The body is no JSON text, from a place on. -/
  | notJson (cause : Json.Cause) (place : Nat)
  /-- The body cannot be read for another reason. -/
  | unreadable
  | template (fault : TemplateFault)
  | blocked (problems : List Problem)
  | notFound
  | wrongMethod
  /-- The service itself fails. -/
  | broken

/-! ## Refusals -/

def issueName : Issue → String
  | .missing => "missing"
  | .notText => "string_type"
  | .notObject => "dict_type"
  | .notFieldObject => "model_attributes_type"
  | _ => "value_error"

/-- The record of a complaint about a body. -/
def complaintRecord (c : Complaint) : Json :=
  .obj [("type", .str (issueName c.issue)), ("loc", .arr (c.loc.map Json.str)),
    ("msg", .str c.message), ("input", c.input)]

def detail (v : Json) : Json := .obj [("detail", v)]

/-- The answer that only says so. -/
def Response.failed : Response := ⟨500, .text "Internal Server Error"⟩

def Refusal.response : Refusal → Response
  | .body complaints => ⟨422, .json (detail (.arr (complaints.map complaintRecord)))⟩
  | .notJson cause place =>
    let record : Json := .obj [("type", .str "json_invalid"),
      ("loc", .arr [.str "body", .int place]), ("msg", .str "JSON decode error"),
      ("input", .obj []), ("ctx", .obj [("error", .str cause.message)])]
    ⟨422, .json (detail (.arr [record]))⟩
  | .unreadable => ⟨400, .json (detail (.str "There was an error parsing the body"))⟩
  | .template (.notFound id) =>
    ⟨404, .json (detail (.str (TemplateFault.notFound id).message))⟩
  | .template (.stopped _) | .template (.outOfReach _) => .failed
  | .template fault => ⟨422, .json (detail (.str fault.message))⟩
  | .blocked problems =>
    ⟨422, .json (.obj [("detail", .str (PublishFault.blockedMessage problems)),
      ("errors", .arr (problems.map Problem.dump))])⟩
  | .notFound => ⟨404, .json (detail (.str "Not Found"))⟩
  | .wrongMethod => ⟨405, .json (detail (.str "Method Not Allowed"))⟩
  | .broken => .failed

/-! ## Endpoints -/

inductive Endpoint where
  | compile
  | defaults
  | templates
  | template (id : String)
  | validate
  | publish
  deriving DecidableEq

def Endpoint.method : Endpoint → String
  | .compile | .defaults | .validate | .publish => "POST"
  | .templates | .template _ => "GET"

/-- What is asked for with a path, by its names. -/
def Endpoint.ofNames? : List String → Option Endpoint
  | ["api", "v1", "compile"] => some .compile
  | ["api", "v1", "defaults"] => some .defaults
  | ["api", "v1", "templates"] => some .templates
  | ["api", "v1", "templates", id] => if id == "" then none else some (.template id)
  | ["api", "v1", "docs", "validate"] => some .validate
  | ["api", "v1", "docs", "publish"] => some .publish
  | _ => none

/-! ## Paths -/

/-- The names without single dots, and without what double dots take back. -/
def withoutDots : List (List Char) → List (List Char) → List (List Char)
  | before, [] => before.reverse
  | before, name :: rest =>
    if name = ['.'] then withoutDots before rest
    else if name = ['.', '.'] then
      withoutDots (if before = [[]] then before else before.drop 1) rest
    else withoutDots (name :: before) rest

/-- The text with its percent escapes replaced by what they stand for. -/
def decoded (s : List Char) : List Char := Text.ofBytes (Link.percentBytes s)

/-- The names of a path. A query is dropped, and escapes are decoded once on the way and once on
arrival. -/
def namesOf (path : String) : List String :=
  let raw := path.toList.takeWhile fun c => c != '?' && c != '#'
  let plain := withoutDots [] (Location.splitNames raw)
  let s := decoded (decoded (['/'].intercalate plain))
  ((Location.splitNames s).drop 1).map String.ofList

/-- What is asked for with a path; slashes at its end do not matter. -/
def Endpoint.ofPath? (path : String) : Option Endpoint :=
  let names := namesOf path
  (ofNames? names).or (ofNames? (names.reverse.dropWhile (· == "")).reverse)

end FlexForm.Web
