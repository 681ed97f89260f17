import FlexForm.Json.Basic
import FlexForm.Record.Loader

/-! # Problems

What is found wrong with form data, with a message or with the text of a template. Each problem is
located by a path.

* `Flaw`, `Flaw.message`: what can be wrong, and the words for it.
* `Problem`: a flaw with its place.
* `Notice`: a problem in words, as records of documents keep it.
-/

namespace FlexForm
set_option autoImplicit false

/-- What can be wrong. Fields and sections are named by the labels shown for them. -/
inductive Flaw where
  | required (label : String)
  | notColor (label : String)
  | notJson (label : String)
  | notJsonObject (label : String)
  | tooLong (label : String) (limit : Int) (count : Nat)
  | tooShort (label : String) (limit : Int)
  | notLink (label : String)
  | notSecure (label : String)
  | noMatch (label : String)
  | notList (label : String)
  | tooFew (label : String) (limit : Int)
  | tooMany (label : String) (limit : Int) (count : Nat)
  | noAltText
  | longAltText (count : Nat)
  | noActionLabel
  | noActionLink
  | badActionLink
  | insecureActionLink (scheme : String)
  | noActionText
  | noActionData
  | unresolved (path : String)
  | emptyTemplate
  | notMessage (why : String)
  | badTemplate (line : Nat) (why : String)
  | renderFailed (why : String)
  deriving DecidableEq

/-- The greatest length of an alternative text. -/
def altTextLimit : Nat := 400

def Flaw.message : Flaw → String
  | .required label => s!"'{label}' is required"
  | .notColor label => s!"'{label}' must be a color like #RRGGBB or #RRGGBBAA"
  | .notJson label => s!"'{label}' is not valid JSON"
  | .notJsonObject label => s!"'{label}' must be a JSON object"
  | .tooLong label limit count => s!"'{label}' exceeds {limit} characters (currently {count})"
  | .tooShort label limit => s!"'{label}' needs at least {limit} characters"
  | .notLink label => s!"'{label}' is not a valid URL"
  | .notSecure label => s!"'{label}' must start with https://"
  | .noMatch label => s!"'{label}' does not match the required format"
  | .notList label => s!"'{label}' must be a list"
  | .tooFew label limit => s!"'{label}' needs at least {limit} items"
  | .tooMany label limit count =>
    s!"'{label}' allows at most {limit} items (currently {count})"
  | .noAltText => "altText is required"
  | .longAltText count => s!"altText exceeds {altTextLimit} characters (currently {count})"
  | .noActionLabel => "Action label must not be empty"
  | .noActionLink => "A uri action requires uri"
  | .badActionLink => "Action uri is not a valid URL"
  | .insecureActionLink scheme => s!"Action uri must use https:// (got {scheme}://)"
  | .noActionText => "A message action requires text"
  | .noActionData => "A postback action requires data"
  | .unresolved path => s!"No value found for field \"{path}\""
  | .emptyTemplate => "Template text is empty"
  | .notMessage why => s!"Rendered template is not valid JSON: {why}"
  | .badTemplate line why => s!"Template syntax error at line {line}: {why}"
  | .renderFailed why => s!"Render failed: {why}"

/-- A flaw, the path of its place, and the key of the field if it is about one. -/
structure Problem where
  path : String
  flaw : Flaw
  fieldKey : Option String := none
  deriving DecidableEq

/-- A problem in words. -/
structure Notice where
  path : String
  message : String
  fieldKey : Option String
  deriving DecidableEq

def Problem.notice (p : Problem) : Notice := ⟨p.path, p.flaw.message, p.fieldKey⟩

open Load in
def Notice.load : Loader Notice :=
  record "ValidationError" fun r =>
    Notice.mk <$> required r "path" "path" text <*> required r "message" "message" text
      <*> optional r "fieldKey" "field_key" (nullable text) none

/-- The record of a notice; a missing key is written as null only in full records. -/
def Notice.dump (full : Bool) (n : Notice) : Json :=
  let key := match n.fieldKey with
    | some key => [("fieldKey", Json.str key)]
    | none => if full then [("fieldKey", .null)] else []
  .obj ([("path", .str n.path), ("message", .str n.message)] ++ key)

def Problem.dump (p : Problem) : Json := p.notice.dump false

end FlexForm
