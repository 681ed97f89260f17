import FlexForm.Json.Finite
import FlexForm.Schema.Basic

/-! # Writing form schemas

A schema is written as a JSON value with its parts in a fixed order. Parts without a value are
written as null, or left out.

* `Dump.Style`: how records are written.
* `Dump.part`, `Dump.freePart`: one part of a record.
* `Constraints.dump`, `Field.dump`, `Section.dump`, `FormSchema.dump`.
-/

namespace FlexForm
set_option autoImplicit false

namespace Dump

/-- How records are written. -/
inductive Style where
  /-- Parts without a value are left out, and values are written as they are. -/
  | plain
  /-- Parts without a value are left out, and null stands for numbers that are not finite. -/
  | brief
  /-- Null stands for parts without a value, and for numbers that are not finite. -/
  | full
  deriving DecidableEq, Inhabited

/-- Whether null is written for a part without a value. -/
def Style.writesNulls (style : Style) : Bool := style = .full

/-- A value that may be of any kind, as it is written. -/
def Style.value (style : Style) (v : Json) : Json :=
  match style with
  | .plain => v
  | .brief | .full => v.withNulls

/-- A part of a record; a null is written only in full dumps. -/
def part (style : Style) (name : String) (value : Json) : List (String × Json) :=
  if !style.writesNulls && value.isNull then [] else [(name, value)]

/-- A part of a record whose value may be of any kind. -/
def freePart (style : Style) (name : String) (value : Json) : List (String × Json) :=
  if !style.writesNulls && value.isNull then [] else [(name, style.value value)]

def ofOption {α : Type} (write : α → Json) : Option α → Json
  | none => .null
  | some a => write a

@[simp] theorem ofOption_none {α : Type} (write : α → Json) : ofOption write none = .null := rfl

end Dump

open Dump

def Condition.dump (style : Style) (c : Condition) : Json :=
  .obj ([("when", .str c.path)] ++ part style "is" c.value)

def Constraints.dump (style : Style) (c : Constraints) : Json :=
  .obj (part style "maxLength" (ofOption .int c.maxLength)
    ++ part style "minLength" (ofOption .int c.minLength)
    ++ part style "minItems" (ofOption .int c.minItems)
    ++ part style "maxItems" (ofOption .int c.maxItems)
    ++ [("httpsOnly", .bool c.httpsOnly)]
    ++ part style "pattern" (ofOption (fun r => .str r.source) c.pattern)
    ++ part style "requiredIf" (ofOption (Condition.dump style) c.requiredIf))

def FieldOption.dump (o : FieldOption) : Json :=
  .obj [("label", .str o.label), ("value", .str o.value)]

def Options.dump : Options → Json
  | .plain values => .arr (values.map .str)
  | .labelled options => .arr (options.map FieldOption.dump)

def FieldInfo.dump (style : Style) (i : FieldInfo) : List (String × Json) :=
  [("key", .str i.key), ("label", .str i.label), ("required", .bool i.required)]
    ++ freePart style "default" i.default
    ++ part style "help" (ofOption .str i.help)
    ++ [("locked", .bool i.locked), ("constraints", i.constraints.dump style)]

mutual

def Field.dump (style : Style) : Field → Json
  | .plain info type => .obj (info.dump style ++ [("type", .str type.name)])
  | .select info options =>
    .obj (info.dump style ++ [("type", .str "select"), ("options", options.dump)])
  | .repeatable info title fields =>
    .obj (info.dump style ++ [("type", .str "repeatable"),
      ("itemSchema", .obj [("title", .str title), ("fields", .arr (Field.dumpAll style fields))])])

def Field.dumpAll (style : Style) : List Field → List Json
  | [] => []
  | f :: rest => f.dump style :: Field.dumpAll style rest

end

def ItemSchema.dump (style : Style) (i : ItemSchema) : Json :=
  .obj [("title", .str i.title), ("fields", .arr (Field.dumpAll style i.fields))]

def Section.dump (style : Style) (s : Section) : Json :=
  let (fields, repeatable, key, item) : List Field × Bool × Option String × Option ItemSchema :=
    match s.body with
    | .plain key fields => (fields, false, key, none)
    | .repeatable key item => ([], true, some key, some item)
  .obj ([("id", .str s.id), ("title", .str s.title), ("fields", .arr (Field.dumpAll style fields)),
      ("repeatable", .bool repeatable)]
    ++ part style "key" (ofOption .str key)
    ++ [("constraints", s.constraints.dump style)]
    ++ part style "itemSchema" (ofOption (ItemSchema.dump style) item))

def FormSchema.dump (style : Style) (s : FormSchema) : Json :=
  .obj [("schemaVersion", .int s.version), ("title", .str s.title),
    ("sections", .arr (s.sections.map (Section.dump style)))]

theorem Field.dumpAll_eq_map (style : Style) (fields : List Field) :
    Field.dumpAll style fields = fields.map (Field.dump style) := by
  induction fields with
  | nil => rfl
  | cons f rest ih => simp [Field.dumpAll, ih]

end FlexForm
