import FlexForm.Compile
import FlexForm.Proofs.Render.Outcome

/-! # What compiling comes to

Compiling comes to an end exactly if the form can be checked, and then its problems are those of the
form, of the rendering and of the message.

* `Compiled.ofParts`, `Template.compileBy_eq_ok_iff`: a rendering together with the problems of the
  form.
* `Compiled.ofParts_silent_iff`: when a message is missing without a problem.
-/

namespace FlexForm
set_option autoImplicit false

open Render

/-- The form data that is compiled: null is an empty object. -/
def formData (data : Json) : Json := if data.isNull then .obj [] else data

@[simp] theorem formData_obj (fields : List (String × Json)) :
    formData (.obj fields) = .obj fields := rfl

/-- The problems of a message, if there is one. -/
def problemsOf : Option Json → List Problem
  | some message => Message.check message
  | none => []

/-- A rendering together with the problems of the form. -/
def Compiled.ofParts (kind : Kind) (problems : List Problem) (r : Rendering) : Compiled :=
  ⟨r.message, problems ++ r.problems ++ problemsOf r.message, kind⟩

theorem Compiled.isOk_iff {c : Compiled} :
    c.isOk = true ↔ c.problems = [] ∧ c.message.isSome = true := by
  rw [isOk, Bool.and_eq_true, List.isEmpty_iff, and_comm]

section
variable {kind : Kind} {problems : List Problem} {r : Rendering}

theorem Compiled.problems_ofParts_eq_nil_iff :
    (ofParts kind problems r).problems = [] ↔
      problems = [] ∧ r.problems = [] ∧ problemsOf r.message = [] := by
  rw [ofParts, List.append_eq_nil_iff, List.append_eq_nil_iff, and_assoc]

theorem Compiled.isOk_ofParts_iff :
    (ofParts kind problems r).isOk = true ↔
      problems = [] ∧ ∃ message, r = ⟨some message, []⟩ ∧ Message.check message = [] := by
  rw [isOk_iff, problems_ofParts_eq_nil_iff]
  obtain ⟨message, found⟩ := r
  cases message with
  | none => simp [ofParts]
  | some message => simp [ofParts, problemsOf, and_assoc]

/-- Problems and message are both missing only if the rendering has neither. -/
theorem Compiled.ofParts_silent_iff :
    (ofParts kind problems r).problems = [] ∧ (ofParts kind problems r).isOk = false ↔
      problems = [] ∧ r.IsSilent := by
  rw [Bool.eq_false_iff, Ne, isOk_iff, problems_ofParts_eq_nil_iff, Rendering.IsSilent]
  obtain ⟨message, found⟩ := r
  cases message with
  | none => simp [ofParts, problemsOf]
  | some message => simp [ofParts]

end

namespace Template

variable {t : Template} {render : Renderer} {data : Json}

/-- The rendering that compiling makes of form data. -/
def rendering (t : Template) (render : Renderer) (data : Json) : Rendering :=
  render (some t.resolve.mode) t.resolve.text (formData data)

/-- Compiling is the check of the form, and a rendering that cannot stop. -/
theorem compileBy_eq (t : Template) (render : Renderer) (data : Json) :
    t.compileBy render data = (t.resolve.schema.check (formData data)).map fun problems =>
      Compiled.ofParts t.resolve.kind problems (t.rendering render data) := by
  unfold compileBy rendering formData
  generalize (if data.isNull = true then Json.obj [] else data) = used
  dsimp only
  cases t.resolve.schema.check used with
  | error fault => rfl
  | ok problems => rfl

theorem compileBy_eq_ok_iff {c : Compiled} :
    t.compileBy render data = .ok c ↔ ∃ problems,
      t.resolve.schema.check (formData data) = .ok problems ∧
        c = Compiled.ofParts t.resolve.kind problems (t.rendering render data) := by
  rw [compileBy_eq]
  cases t.resolve.schema.check (formData data) with
  | error fault => simp [Except.map]
  | ok problems => simp [Except.map, eq_comm]

/-- Compiling stops exactly where the check of the form stops. -/
theorem compileBy_eq_error_iff {fault : PathFault} :
    t.compileBy render data = .error fault ↔
      t.resolve.schema.check (formData data) = .error fault := by
  rw [compileBy_eq]
  cases t.resolve.schema.check (formData data) with
  | error fault => simp [Except.map]
  | ok problems => simp [Except.map]

end Template

end FlexForm
