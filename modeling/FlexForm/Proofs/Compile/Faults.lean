import FlexForm.Proofs.Compile.Outcome
import FlexForm.Proofs.Form.Steady
import FlexForm.Proofs.Schema.Patterns

/-! # Where reading and compiling a template stop

A template is refused with complaints, or compiled with problems. Two things stop the work instead:
a pattern with a number of repetitions that cannot be counted, when the record is read; and an index
without a value, when form data brings the check to it.

* `Template.load_and_compile_stops`: these are the only ones, and for which templates they occur.
* `Template.compileBy_of_routed`: templates of the catalog's families always compile.
-/

namespace FlexForm
set_option autoImplicit false

namespace Template

variable {t : Template} {render : Renderer} {fields : List (String × Json)} {fault : PathFault}

theorem compileBy_obj_error (h : t.compileBy render (.obj fields) = .error fault) :
    ∃ e, fault = .index e := by
  rw [compileBy_eq_error_iff, formData_obj] at h
  exact (FormSchema.check_error h).2

theorem compileBy_isSteady_iff :
    (∀ fields, ∃ c, t.compileBy render (.obj fields) = .ok c) ↔
      t.resolve.schema.isSteady = true := by
  rw [FormSchema.isSteady_iff]
  refine forall_congr' fun fields => ?_
  constructor
  · rintro ⟨c, h⟩
    obtain ⟨problems, hcheck, -⟩ := compileBy_eq_ok_iff.1 h
    exact ⟨problems, hcheck⟩
  · rintro ⟨problems, hcheck⟩
    exact ⟨_, compileBy_eq_ok_iff.2 ⟨problems, hcheck, rfl⟩⟩

/-- Reading stops exactly for the records with a huge pattern. Compiling stops only at an index
without a value, and for some form data exactly if the form is not steady. -/
theorem load_and_compile_stops (v : Json) (t : Template) (render : Renderer) :
    ((∃ why, load v = .stopped why) ↔
      ∃ source, HasPattern source v ∧ Pattern.read source = .error .hugeRepeat) ∧
    (∀ fields fault, t.compileBy render (.obj fields) = .error fault → ∃ e, fault = .index e) ∧
    ((∀ fields, ∃ c, t.compileBy render (.obj fields) = .ok c) ↔
      t.resolve.schema.isSteady = true) :=
  ⟨stops_load, fun _ _ => compileBy_obj_error, compileBy_isSteady_iff⟩

example : load (.obj [("schema", .obj [("sections", .arr [.obj [("id", .str "main"),
    ("fields", .arr [.obj [("key", .str "name"), ("type", .str "text"),
      ("constraints", .obj [("pattern", .str "a\x7b4294967295\x7d")])]])]])])]) =
    .stopped "the repetition number is too large" := by
  rfl

/-- The second segment of the key is a digit, but not a decimal one. -/
example (render : Renderer) :
    let f : Field := .plain { key := "names.²" } .text
    let t : Template := { schema.sections := [{ id := "main", body := .plain none [f] }] }
    t.compileBy render (.obj [("names", .arr [])]) = .error (.index (.notDecimal "²")) := by
  refine compileBy_eq_error_iff.2 ?_
  decide +kernel

/-- The forms of the catalog are steady. -/
theorem compileBy_of_routed (h : t.resolve.kind ≠ .custom) (render : Renderer)
    (fields : List (String × Json)) : ∃ c, t.compileBy render (.obj fields) = .ok c := by
  refine compileBy_isSteady_iff.2 ?_ fields
  have hcarousel : Catalog.carousel.schema.isSteady = true := by decide +kernel
  have hposter : Catalog.poster.schema.isSteady = true := by decide +kernel
  revert h
  unfold resolve
  dsimp only
  split
  next => exact fun h => absurd rfl h
  next =>
    cases t.classify with
    | carousel => exact fun _ => hcarousel
    | single => exact fun _ => hposter
    | custom => exact fun h => absurd rfl h

end Template

end FlexForm
