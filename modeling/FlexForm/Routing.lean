import FlexForm.Catalog.Basic
import FlexForm.Text.Case
import FlexForm.Text.Search

/-! # Routing of old templates

Templates from before the grammar cannot loop over pages. Those whose name or description tells that
they belong to a family of the catalog are compiled with the text and the form of that family.

* `Kind`: the families, and all other templates.
* `Template.classify`: the family that the name and the description tell.
* `Template.resolve`: the text and the form with which a template is compiled.
* `Template.upgrade`: the template with that text and form.
-/

namespace FlexForm
set_option autoImplicit false

inductive Kind where
  | carousel
  | single
  | custom
  deriving DecidableEq, Inhabited

def Kind.name : Kind → String
  | .carousel => "carousel"
  | .single => "single"
  | .custom => "custom"

/-- The text and the form with which a template is compiled. -/
structure Resolved where
  text : String
  schema : FormSchema
  kind : Kind
  mode : Render.Mode

namespace Template

/-- The words in a name that tell a family of cards in a row. -/
def carouselNames : List String := ["carousel", "multi-page", "多頁"]

def carouselDescriptions : List String := ["carousel"]

/-- The words in a name that tell a family of single cards. -/
def singleNames : List String := ["single", "poster", "單頁", "海報"]

def singleDescriptions : List String := ["single"]

def containsAny (text : String) (words : List String) : Bool :=
  words.any fun word => Text.contains text word

/-- The family that the name and the description tell, whatever their case. -/
def classify (t : Template) : Kind :=
  let name := Text.lower t.name
  let description := Text.lower t.description
  if containsAny name carouselNames || containsAny description carouselDescriptions then .carousel
  else if containsAny name singleNames || containsAny description singleDescriptions then .single
  else .custom

/-- The template of the catalog for a family. -/
def ofKind? : Kind → Option Template
  | .carousel => some Catalog.carousel
  | .single => some Catalog.poster
  | .custom => none

/-- The text and the form with which the template is compiled. -/
def resolve (t : Template) : Resolved :=
  let own : Resolved := ⟨t.text, t.schema, .custom, t.mode⟩
  if t.mode = .grammar then own
  else
    match ofKind? t.classify with
    | some family => ⟨family.text, family.schema, t.classify, .grammar⟩
    | none => own

/-- The template with the text and the form with which it is compiled. -/
def upgrade (t : Template) : Template :=
  let r := t.resolve
  match r.kind with
  | .custom => t
  | _ => { t with text := r.text, schema := r.schema, mode := r.mode }

theorem resolve_of_grammar {t : Template} (h : t.mode = .grammar) :
    t.resolve = ⟨t.text, t.schema, .custom, .grammar⟩ := by
  simp [resolve, h]

end Template

end FlexForm
