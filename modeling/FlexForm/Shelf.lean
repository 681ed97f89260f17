import FlexForm.Catalog.Basic
import FlexForm.Folder.Basic
import FlexForm.Json.Reader

/-! # Shelves of templates

A template is looked up by its id, in the catalog or in a folder with a record per file. Of several
shelves, and of any other stores of templates, the first one that has it wins.

* `Shelf`: the catalog or a folder.
* `Shelf.get?`, `Shelf.list`: one or all templates of a shelf.
* `Store`, `Store.combine`: what templates are looked up and listed in, and several as one.
* `Shelf.getFrom?`, `Shelf.listFrom`: one or all templates of several shelves.
* `Shelf.require`: a template that has to be there.
-/

namespace FlexForm
set_option autoImplicit false

/-- Why there is no template. -/
inductive TemplateFault where
  | unreadable (place why : String)
  | refused (complaints : List Complaint)
  /-- The reading of a record stopped. -/
  | stopped (why : String)
  /-- A folder cannot be asked for the id. -/
  | outOfReach (why : Folder.AskFault)
  | notFound (id : String)
  /-- A request neither names nor holds a template. -/
  | noneGiven

def TemplateFault.message : TemplateFault → String
  | .unreadable place why => s!"Failed to read template {place}: {why}"
  | .refused complaints => Template.refusal complaints
  | .stopped why => why
  | .outOfReach why => why.message
  | .notFound id => s!"Template not found: {id}"
  | .noneGiven => "Either template_id or template is required"

/-- The template of a record. -/
def Template.ofRecord (v : Json) : Except TemplateFault Template :=
  match Template.load v with
  | .ok t => .ok t
  | .refused complaints => .error (.refused complaints)
  | .stopped why => .error (.stopped why)

inductive Shelf where
  | catalog
  | folder (place : Location)

namespace Shelf

/-- The extension of the files that hold templates. -/
def extension : String := ".json"

/-- The text in which every line ends with a newline alone. -/
def withNewlines : List Char → List Char
  | '\r' :: '\n' :: rest => '\n' :: withNewlines rest
  | '\r' :: rest => '\n' :: withNewlines rest
  | c :: rest => c :: withNewlines rest
  | [] => []

/-- The value of the JSON text of a file, or the words for its first fault. -/
def readJson (content : String) : Except String Json :=
  Json.read true (String.ofList (withNewlines content.toList))

/-- The record with its own id, or with one to take when it has none. -/
def withId (id : String) : Json → Json
  | .obj fields =>
    if ((Fields.get? fields "id").getD .null).isTruthy then .obj fields
    else .obj (Fields.insert fields "id" (.str id))
  | v => v

/-- The template in the file at a location, with its content. -/
def ofContent (l : Location) (content : String) : Except TemplateFault Template :=
  match readJson content with
  | .error why => .error (.unreadable l.text why)
  | .ok record => Template.ofRecord (withId l.stem record)

/-- The template in the file at a location. -/
def read (f : Folder) (l : Location) : Except TemplateFault Template :=
  match f.askFault? l with
  | some why => .error (.unreadable l.text why.message)
  | none =>
    match f.textAt? l with
    | none => .error (.unreadable l.text s!"[Errno 21] Is a directory: {Text.quoted l.text}")
    | some content => ofContent l content

/-- The template with the id; in a folder, only a file right inside it counts. Where the id leads,
and where the folder is, comes out only of names without a NUL. -/
def get? (f : Folder) (id : String) : Shelf → Except TemplateFault (Option Template)
  | .catalog => .ok (Catalog.templates.find? fun t => t.id == some id)
  | .folder place =>
    let l := place.child (id ++ extension)
    if l.parent.hasNul || place.hasNul then .error (.outOfReach .nul)
    else if f.resolve l.parent ≠ f.resolve place then .ok none
    else if f.tooLong l then .error (.outOfReach (.tooLong l.text))
    else if (f.textAt? l).isSome then (read f l).map some
    else .ok none

/-- The locations of the files that hold templates in a folder, in the order of their names. -/
def locations (f : Folder) (place : Location) : List Location :=
  let names := (f.childNames place).filter fun name => name.endsWith extension
  (names.mergeSort fun a b => !(b < a)).map fun name => place.child name

def list (f : Folder) : Shelf → Except TemplateFault (List Template)
  | .catalog => .ok Catalog.templates
  | .folder place =>
    if f.tooLong place then .error (.outOfReach (.tooLong place.text))
    else (locations f place).mapM (read f)

/-- The templates without those whose id an earlier one has. -/
def distinct (templates : List Template) : List Template :=
  templates.foldl (fun before t =>
    if before.any fun other => other.id == t.id then before else before ++ [t]) []

end Shelf

/-! ## Several stores as one -/

/-- What templates are looked up in by their ids and listed in. Both may fail. -/
structure Store (ε : Type) where
  get? : String → Except ε (Option Template)
  list : Except ε (List Template)

namespace Store

variable {ε : Type}

/-- The template with the id in the first store that has it. -/
def first? (id : String) : List (Store ε) → Except ε (Option Template)
  | [] => .ok none
  | store :: rest => do
    match ← store.get? id with
    | some t => pure (some t)
    | none => first? id rest

/-- The templates of all stores, the first one of each id. -/
def listAll (stores : List (Store ε)) : Except ε (List Template) := do
  let all ← stores.mapM list
  pure (Shelf.distinct all.flatten)

/-- The stores as one, in which an earlier one wins. -/
def combine (stores : List (Store ε)) : Store ε where
  get? id := first? id stores
  list := listAll stores

variable {store : Store ε} {id : String}

theorem first?_cons_of_none (h : store.get? id = .ok none) (rest : List (Store ε)) :
    first? id (store :: rest) = first? id rest := by
  rw [first?, h]
  rfl

/-- A store that has more to say than that there is nothing has the last word. -/
theorem first?_cons_of_ne (h : store.get? id ≠ .ok none) (rest : List (Store ε)) :
    first? id (store :: rest) = store.get? id := by
  rw [first?]
  rcases hget : store.get? id with _ | _ | t
  · rfl
  · exact absurd hget h
  · rfl

end Store

namespace Shelf

/-! ## Several shelves -/

def store (f : Folder) (shelf : Shelf) : Store TemplateFault := ⟨(get? f · shelf), list f shelf⟩

/-- The template with the id on the first shelf that has it. -/
def getFrom? (f : Folder) (id : String) (shelves : List Shelf) :
    Except TemplateFault (Option Template) :=
  (Store.combine (shelves.map (store f))).get? id

/-- The templates of all shelves, the first one of each id. -/
def listFrom (f : Folder) (shelves : List Shelf) : Except TemplateFault (List Template) :=
  (Store.combine (shelves.map (store f))).list

/-- A template that has to be there. -/
def require (f : Folder) (shelves : List Shelf) (id : String) : Except TemplateFault Template := do
  match ← getFrom? f id shelves with
  | some t => pure t
  | none => throw (.notFound id)

/-- The shelves for a folder of templates: its own ones come before the catalog. -/
def ofFolder? (folder : Option String) : List Shelf :=
  match folder with
  | none | some "" => [.catalog]
  | some place => [.folder (.ofText place), .catalog]

theorem getFrom?_cons_of_none {f : Folder} {id : String} {shelf : Shelf}
    (h : shelf.get? f id = .ok none) (rest : List Shelf) :
    getFrom? f id (shelf :: rest) = getFrom? f id rest :=
  Store.first?_cons_of_none h (rest.map (store f))

theorem getFrom?_cons_of_ne {f : Folder} {id : String} {shelf : Shelf}
    (h : shelf.get? f id ≠ .ok none) (rest : List Shelf) :
    getFrom? f id (shelf :: rest) = shelf.get? f id :=
  Store.first?_cons_of_ne h (rest.map (store f))

end Shelf

end FlexForm
