import FlexForm.Lifecycle
import FlexForm.Proofs.Compile.Outcome

/-! # Publishing and sharing

Publishing settles the form, the rendering and the message at once, and what it keeps is all that
sharing looks at.

* `Document.published`, `Document.publishBy_eq_ok_iff`: when a document is published, and as what.
* `Document.publishBy_then_shareBy`: what is published is valid, and is what is shared from then on.
* `silent_iff_givesNull`: the one case in which a message is missing without a problem.
-/

namespace FlexForm
set_option autoImplicit false

open Render

/-! ## Publishing -/

namespace Document

variable {d p : Document} {t : Template} {render : Renderer} {now : Timestamp}

/-- The document as it is published with a message. -/
def published (d : Document) (message : Json) (now : Timestamp) : Document :=
  { d with
    status := .published
    preview := some message
    isValid := some true
    notices := []
    validatedAt := some now
    updatedAt := some now }

/-- A document is published exactly if its data fits the form and is rendered as a message that
keeps the rules. -/
theorem publishBy_eq_ok_iff :
    d.publishBy t render now = .ok p ↔ ∃ message,
      t.resolve.schema.check (.obj d.data) = .ok [] ∧
        t.rendering render (.obj d.data) = ⟨some message, []⟩ ∧ Message.check message = [] ∧
        p = d.published message now := by
  unfold publishBy
  cases hcompile : t.compileBy render (.obj d.data) with
  | error fault =>
    rw [Template.compileBy_eq_error_iff, formData_obj] at hcompile
    simp [hcompile]
  | ok c =>
    obtain ⟨problems, hcheck, rfl⟩ := Template.compileBy_eq_ok_iff.1 hcompile
    rw [formData_obj] at hcheck
    rw [hcheck]
    simp only
    split
    next hok =>
      obtain ⟨rfl, message, hrendering, hmessage⟩ := Compiled.isOk_ofParts_iff.1 hok
      rw [hrendering]
      constructor
      · intro h
        cases h
        exact ⟨message, rfl, rfl, hmessage, rfl⟩
      · rintro ⟨other, -, hother, -, rfl⟩
        cases hother
        rfl
    next hok =>
      constructor
      · intro h
        cases h
      · rintro ⟨message, hproblems, hrendering, hmessage, -⟩
        cases hproblems
        exact absurd (Compiled.isOk_ofParts_iff.2 ⟨rfl, message, hrendering, hmessage⟩) hok

/-- Publishing is refused with the problems of compiling, when there is one or no message. -/
theorem publishBy_eq_blocked_iff {problems : List Problem} :
    d.publishBy t render now = .error (.blocked problems) ↔
      ∃ c, t.compileBy render (.obj d.data) = .ok c ∧ c.problems = problems ∧ c.isOk = false := by
  unfold publishBy
  cases t.compileBy render (.obj d.data) with
  | error fault => simp
  | ok c => cases hok : c.isOk <;> simp [hok]

theorem exists_compiled_of_publishBy (h : d.publishBy t render now = .ok p) :
    ∃ c message, t.compileBy render (.obj d.data) = .ok c ∧ c.problems = [] ∧
      c.message = some message ∧ p = d.published message now := by
  obtain ⟨message, hcheck, hrendering, hmessage, rfl⟩ := publishBy_eq_ok_iff.1 h
  refine ⟨_, message, Template.compileBy_eq_ok_iff.2 ⟨[], hcheck, rfl⟩, ?_, ?_, rfl⟩
  · rw [hrendering]
    exact Compiled.problems_ofParts_eq_nil_iff.2 ⟨rfl, rfl, hmessage⟩
  · rw [hrendering]
    rfl

/-! ## Sharing what was published -/

/-- What is published fits the form and has a message that keeps the rules; whatever becomes of its
data, and whichever template and renderer it is shared with, that message is delivered. -/
theorem publishBy_then_shareBy (h : d.publishBy t render now = .ok p) :
    p.data = d.data ∧ t.resolve.schema.check (.obj p.data) = .ok [] ∧
      ∃ c message, t.compileBy render (.obj d.data) = .ok c ∧ c.problems = [] ∧
        c.message = some message ∧ p.preview = some message ∧ Message.check message = [] ∧
        ∀ (data : List (String × Json)) (other : Template) (renderer : Renderer),
          { p with data := data }.shareBy other renderer = .ok ⟨some message, [], .custom⟩ := by
  obtain ⟨c, message, hcompile, hproblems, hc, rfl⟩ := exists_compiled_of_publishBy h
  obtain ⟨kept, hcheck, -, hmessage, hkept⟩ := publishBy_eq_ok_iff.1 h
  obtain rfl : message = kept := Option.some.inj (congrArg Document.preview hkept)
  exact ⟨rfl, hcheck, c, message, hcompile, hproblems, hc, rfl, hmessage,
    fun _ other renderer => shareBy_of_preview _ other renderer rfl hmessage⟩

end Document

/-- A form with one text that has to be there, and puts it at the head of a message. -/
def greeting : Template where
  text := "\x7b\"altText\": \"${data.title}\"\x7d"
  mode := .legacy
  schema.sections :=
    [{ id := "main", body := .plain none [.plain { key := "title", required := true } .text] }]

/-- The greeting is published, and delivered after its data was lost. -/
theorem publishBy_then_shareBy_greeting :
    ∃ p message, Document.publishBy { data := [("title", .str "Hello")] } greeting
        (Render.render 32) ⟨2026, 3, 1, 12, 0, 0, 0, none, by decide⟩ = .ok p ∧
      Message.check message = [] ∧
      { p with data := [] }.shareBy {} (Render.render 1) = .ok ⟨some message, [], .custom⟩ := by
  let outcome := Document.publishBy { data := [("title", .str "Hello")] } greeting
    (Render.render 32) ⟨2026, 3, 1, 12, 0, 0, 0, none, by decide⟩
  have hok : outcome.isOk = true := by decide +kernel
  cases h : outcome with
  | error fault =>
    rw [h] at hok
    cases hok
  | ok p =>
    obtain ⟨-, -, -, message, -, -, -, -, hmessage, hshare⟩ := Document.publishBy_then_shareBy h
    exact ⟨p, message, h, hmessage, hshare [] {} (Render.render 1)⟩

/-! ## Missing messages -/

/-- A message comes without problems, and is not null. Without one there is a problem, but for texts
that give null: they are what compiles to no message without a problem, and what is not published
for no reason. -/
theorem silent_iff_givesNull (levels : ℤ) :
    (∀ mode text data, (Render.render levels mode text data).IsSilent ↔
      GivesNull mode text data) ∧
    (∀ mode text data message, (Render.render levels mode text data).message = some message →
      (Render.render levels mode text data).problems = [] ∧ message.isNull = false) ∧
    (∀ (t : Template) data,
      (∃ c, t.compile levels data = .ok c ∧ c.problems = [] ∧ c.isOk = false) ↔
        t.resolve.schema.check (formData data) = .ok [] ∧
          GivesNull (some t.resolve.mode) t.resolve.text (formData data)) ∧
    (∀ (d : Document) (t : Template) now, d.publish t levels now = .error (.blocked []) ↔
      t.resolve.schema.check (.obj d.data) = .ok [] ∧
        GivesNull (some t.resolve.mode) t.resolve.text (.obj d.data)) := by
  have hcompile (t : Template) (data : Json) :
      (∃ c, t.compile levels data = .ok c ∧ c.problems = [] ∧ c.isOk = false) ↔
        t.resolve.schema.check (formData data) = .ok [] ∧
          GivesNull (some t.resolve.mode) t.resolve.text (formData data) := by
    rw [← @isSilent_render_iff levels]
    constructor
    · rintro ⟨c, hc, hsilent⟩
      obtain ⟨problems, hcheck, rfl⟩ := Template.compileBy_eq_ok_iff.1 hc
      obtain ⟨rfl, hrendering⟩ := Compiled.ofParts_silent_iff.1 hsilent
      exact ⟨hcheck, hrendering⟩
    · rintro ⟨hcheck, hrendering⟩
      exact ⟨_, Template.compileBy_eq_ok_iff.2 ⟨[], hcheck, rfl⟩,
        Compiled.ofParts_silent_iff.2 ⟨rfl, hrendering⟩⟩
  refine ⟨fun _ _ _ => isSilent_render_iff, fun _ _ _ _ => render_of_message, hcompile,
    fun d t now => ?_⟩
  rw [← formData_obj d.data, ← hcompile]
  exact Document.publishBy_eq_blocked_iff

example : GivesNull none " null" (.obj []) :=
  ⟨by decide +kernel, " null", rfl, [' '], [], rfl, rfl, rfl⟩

end FlexForm
