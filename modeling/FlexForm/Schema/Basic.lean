import FlexForm.Json.Basic
import FlexForm.Pattern.Reader
import FlexForm.Pattern.Search

/-! # Form schemas

The shape of a form: sections of fields. A field is plain, a choice among options, or a list of
items that have fields themselves; a section has fields, or is such a list.

* `Regex`: the text of a pattern together with the pattern.
* `Constraints`, `FieldInfo`, `Field`, `Section`, `FormSchema`: the records.
* `Field.label`, `Section.label`: the names shown for them.
-/

namespace FlexForm
set_option autoImplicit false

/-! ## Constraints -/

/-- A text that can be read as a pattern, with that pattern. -/
structure Regex where
  source : String
  node : Pattern.Node
  reads : Pattern.read source = .ok node

/-- Whether the pattern occurs in the text. -/
def Regex.occursIn (r : Regex) (s : String) : Bool := Pattern.search r.node s

/-- A field is required when the value at the path `when'` is the given one. -/
structure Condition where
  path : String
  value : Json

structure Constraints where
  maxLength : Option Int := none
  minLength : Option Int := none
  minItems : Option Int := none
  maxItems : Option Int := none
  httpsOnly : Bool := false
  pattern : Option Regex := none
  requiredIf : Option Condition := none

/-! ## Fields -/

/-- The types of fields that hold one value. -/
inductive PlainType where
  | text
  | textarea
  | imageUrl
  | url
  | number
  | color
  | json
  deriving DecidableEq

/-- The written names of the plain types. -/
def PlainType.names : List (String × PlainType) :=
  [("text", .text), ("textarea", .textarea), ("imageUrl", .imageUrl), ("url", .url),
    ("number", .number), ("color", .color), ("json", .json)]

def PlainType.name : PlainType → String
  | .text => "text"
  | .textarea => "textarea"
  | .imageUrl => "imageUrl"
  | .url => "url"
  | .number => "number"
  | .color => "color"
  | .json => "json"

theorem PlainType.lookup_name (t : PlainType) : PlainType.names.lookup t.name = some t := by
  cases t <;> decide

structure FieldOption where
  label : String
  value : String
  deriving DecidableEq

/-- The options of a choice: values that are their own labels, or values with labels. -/
inductive Options where
  | plain (values : List String)
  | labelled (options : List FieldOption)
  deriving DecidableEq

def Options.values : Options → List String
  | .plain values => values
  | .labelled options => options.map FieldOption.value

/-- What fields of all types have. -/
structure FieldInfo where
  key : String
  label : String := ""
  required : Bool := false
  default : Json := .null
  help : Option String := none
  locked : Bool := false
  constraints : Constraints := {}

inductive Field where
  | plain (info : FieldInfo) (type : PlainType)
  | select (info : FieldInfo) (options : Options)
  | repeatable (info : FieldInfo) (title : String) (fields : List Field)

def Field.info : Field → FieldInfo
  | .plain info _ | .select info _ | .repeatable info _ _ => info

def Field.key (f : Field) : String := f.info.key

def Field.constraints (f : Field) : Constraints := f.info.constraints

/-- The name shown for a field. -/
def Field.label (f : Field) : String := if f.info.label == "" then f.info.key else f.info.label

/-! ## Sections -/

/-- The fields of the items of a list. -/
structure ItemSchema where
  title : String := ""
  fields : List Field := []

/-- A section has fields, or holds a list of items at a key. -/
inductive SectionBody where
  | plain (key : Option String) (fields : List Field)
  | repeatable (key : String) (item : ItemSchema)

structure Section where
  id : String
  title : String := ""
  constraints : Constraints := {}
  body : SectionBody

/-- The name shown for a section. -/
def Section.label (s : Section) : String :=
  let key := match s.body with
    | .plain key _ => key.getD ""
    | .repeatable key _ => key
  if s.title != "" then s.title else if key != "" then key else s.id

structure FormSchema where
  version : Int := 1
  title : String := ""
  sections : List Section := []

end FlexForm
