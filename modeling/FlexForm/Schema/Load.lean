import FlexForm.Json.Display
import FlexForm.Record.Loader
import FlexForm.Schema.Basic

/-! # Reading form schemas

The loaders for the records of a schema. Parts have a written name and another one that is also
taken; the written one wins.

* `Constraints.load`, `Field.load`, `Section.load`, `FormSchema.load`.
-/

namespace FlexForm
set_option autoImplicit false

open Load

/-! ## Constraints -/

/-- A scalar or null. A list or an object is refused for each of the scalar types. -/
def Condition.loadValue : Loader Json
  | .arr items => refuse (.arr items)
  | .obj fields => refuse (.obj fields)
  | v => .ok v
where
  refuse (v : Json) : Checked Json :=
    .refused [⟨["bool"], .notBoolean, v⟩, ⟨["int"], .notInteger, v⟩, ⟨["float"], .notNumber, v⟩,
      ⟨["str"], .notText, v⟩]

def Condition.load : Loader Condition :=
  record "RequiredIf" fun r =>
    Condition.mk <$> required r "when" "when" text <*> required r "is" "is_" loadValue

/-- The words of a complaint about a text that is no pattern. -/
def Regex.complaint (source : String) (fault : Pattern.Fault) : String :=
  match fault with
  | .longNumber _ | .asciiAndUnicode => fault.message source
  | _ => s!"Invalid pattern {Text.quoted source}: {fault.message source}"

/-- A text that is a pattern. Too large a number of repetitions stops the reading. -/
def Regex.load : Loader Regex := fun v =>
  (text v).andThen fun source =>
    match reads : Pattern.read source with
    | .ok node => .ok ⟨source, node, reads⟩
    | .error .hugeRepeat => .stopped (Pattern.Fault.hugeRepeat.message source)
    | .error fault => .fail (.rule (complaint source fault)) v

def Constraints.load : Loader Constraints :=
  record "FieldConstraints" fun r =>
    Constraints.mk
      <$> optional r "maxLength" "max_length" (nullable integer) none
      <*> optional r "minLength" "min_length" (nullable integer) none
      <*> optional r "minItems" "min_items" (nullable integer) none
      <*> optional r "maxItems" "max_items" (nullable integer) none
      <*> optional r "httpsOnly" "https_only" boolean false
      <*> optional r "pattern" "pattern" (nullable Regex.load) none
      <*> optional r "requiredIf" "required_if" (nullable Condition.load) none

/-! ## Fields -/

def FieldOption.load : Loader FieldOption :=
  record "FieldOption" fun r =>
    FieldOption.mk <$> required r "label" "label" text <*> required r "value" "value" text

/-- Options without labels if they can be read as such, and else with labels. -/
def Options.load : Loader Options := fun v =>
  match (list text v).under "list[str]", (list FieldOption.load v).under "list[FieldOption]" with
  | .ok values, _ => .ok (.plain values)
  | .stopped why, _ => .stopped why
  | .refused _, .ok options => .ok (.labelled options)
  | .refused e, .refused f => .refused (e ++ f)
  | .refused _, .stopped why => .stopped why

def FieldInfo.load (r : List (String × Json)) : Checked FieldInfo :=
  FieldInfo.mk
    <$> Load.required r "key" "key" text
    <*> optional r "label" "label" text ""
    <*> optional r "required" "required" boolean false
    <*> optional r "default" "default" any .null
    <*> optional r "help" "help" (nullable text) none
    <*> optional r "locked" "locked" boolean false
    <*> optional r "constraints" "constraints" Constraints.load {}

/-- The names of the types of fields. -/
def Field.typeNames : List String := PlainType.names.map Prod.fst ++ ["select", "repeatable"]

mutual

/-- A field whose items are nested at most so many levels deep. -/
def Field.loadNested : Nat → Loader Field
  | 0, v => .fail .notFieldObject v
  | levels + 1, .obj r =>
    match Fields.get? r "type" with
    | none => .fail (.noTag "type") (.obj r)
    | some (.str tag) =>
      let found : Option (Checked Field) :=
        if tag == "select" then
          some (Field.select <$> FieldInfo.load r
            <*> optional r "options" "options" Options.load (.plain []))
        else if tag == "repeatable" then
          some ((fun info (item : ItemSchema) => Field.repeatable info item.title item.fields)
            <$> FieldInfo.load r
            <*> optional r "itemSchema" "item_schema" (ItemSchema.loadNested levels) {})
        else (PlainType.names.lookup tag).map fun type =>
          (fun info => Field.plain info type) <$> FieldInfo.load r
      match found with
      | some field => field.under tag
      | none => .fail (.unknownTag tag "type" Field.typeNames) (.obj r)
    | some other => .fail (.unknownTag other.shown "type" Field.typeNames) (.obj r)
  | _ + 1, v => .fail .notFieldObject v

def ItemSchema.loadNested : Nat → Loader ItemSchema
  | 0, v => .fail (.notRecord "ItemSchema") v
  | levels + 1, v =>
    record "ItemSchema" (fun r =>
      ItemSchema.mk
        <$> optional r "title" "title" text ""
        <*> optional r "fields" "fields" (list (Field.loadNested levels)) []) v

end

/-- A field; its items are nested less deeply than its values are. -/
def Field.load : Loader Field := fun v => Field.loadNested v.depth v

def ItemSchema.load : Loader ItemSchema := fun v => ItemSchema.loadNested v.depth v

/-! ## Sections -/

/-- The section with the parts, if they go together. -/
def Section.make (v : Json) (id title : String) (fields : List Field) (repeatable : Bool)
    (key : Option String) (constraints : Constraints) (item : Option ItemSchema) :
    Checked Section :=
  if repeatable then
    if key.getD "" == "" then .fail (.rule s!"Repeatable section '{id}' requires a key") v
    else match item with
      | none => .fail (.rule s!"Repeatable section '{id}' requires an itemSchema") v
      | some item =>
        if !fields.isEmpty then
          .fail (.rule s!"Repeatable section '{id}' cannot also declare fields") v
        else .ok ⟨id, title, constraints, .repeatable (key.getD "") item⟩
  else if item.isSome then
    .fail (.rule s!"Section '{id}' declares an itemSchema but is not repeatable") v
  else .ok ⟨id, title, constraints, .plain key fields⟩

def Section.load : Loader Section :=
  record "Section" fun r =>
    let made := Section.make (.obj r)
      <$> required r "id" "id" text
      <*> optional r "title" "title" text ""
      <*> optional r "fields" "fields" (list Field.load) []
      <*> optional r "repeatable" "repeatable" boolean false
      <*> optional r "key" "key" (nullable text) none
      <*> optional r "constraints" "constraints" Constraints.load {}
      <*> optional r "itemSchema" "item_schema" (nullable ItemSchema.load) none
    made.andThen fun s => s

def FormSchema.load : Loader FormSchema :=
  record "FormSchema" fun r =>
    FormSchema.mk
      <$> optional r "schemaVersion" "schema_version" integer 1
      <*> optional r "title" "title" text ""
      <*> optional r "sections" "sections" (list Section.load) []

end FlexForm
