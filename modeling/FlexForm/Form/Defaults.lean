import FlexForm.Path.Access
import FlexForm.Schema.Basic

/-! # Initial form data

The data with which a form starts: each field with a default has it at its key, and each list of
items has as many items as it needs at least.

* `Field.fill`: the data with the defaults of some fields written into it.
* `FormSchema.defaults`: the data for a whole schema.
-/

namespace FlexForm
set_option autoImplicit false

/-- Writes at a path, or says why that is not possible. -/
def Json.assigned (v : Json) (path : String) (value : Json) : Except PathFault Json :=
  match v.assign path value with
  | (after, none) => .ok after
  | (_, some fault) => .error fault

/-- The data with the defaults of the fields; a null default is none. -/
def Field.fill (data : Json) (fields : List Field) : Except PathFault Json :=
  fields.foldlM (fun data f =>
    if f.info.default.isNull then .ok data else data.assigned f.key f.info.default) data

/-- The data with what a section starts with. -/
def Section.fill (s : Section) (data : Json) : Except PathFault Json :=
  match s.body with
  | .plain _ fields => Field.fill data fields
  | .repeatable key item => do
    let count := (s.constraints.minItems.getD 0).toNat
    let items ← (List.replicate count ()).mapM fun _ => Field.fill (.obj []) item.fields
    data.assigned key (.arr items)

def FormSchema.defaults (schema : FormSchema) : Except PathFault Json :=
  schema.sections.foldlM (fun data s => s.fill data) (.obj [])

end FlexForm
