import FlexForm.Proofs.Lifecycle.Publish
import Mathlib.Data.List.Induction

/-! # Runs of a document's life

A document is edited, compiled, marked with the latest outcome of compiling, and published, in any
order and with any templates. What a published document keeps always comes from compiling it, but
not always from an outcome without problems: marking does not look at the status.

* `Desk`, `Desk.Step`, `Desk.run`: a document under work, and what is done with it.
* `Desk.Traced`: what every step preserves.
* `Desk.published_of_start`: what published documents keep, and when they stay vetted.
-/

namespace FlexForm
set_option autoImplicit false

/-- A document under work, with the latest outcome of compiling it. -/
structure Desk where
  doc : Document
  last : Option Compiled

inductive Desk.Step where
  | edit (data : List (String × Json))
  | compile (t : Template) (render : Renderer)
  | record (now : Timestamp)
  | publish (t : Template) (render : Renderer) (now : Timestamp)

namespace Document

/-- What the document keeps is this outcome. -/
def Keeps (d : Document) (c : Compiled) : Prop :=
  d.preview = c.message ∧ d.isValid = some c.isOk ∧ d.notices = c.problems.map Problem.notice

/-- The outcome that the documents keep, and their status, are the same. -/
structure SameOutcome (d e : Document) : Prop where
  status : e.status = d.status
  preview : e.preview = d.preview
  isValid : e.isValid = d.isValid
  notices : e.notices = d.notices

theorem SameOutcome.refl (d : Document) : SameOutcome d d := ⟨rfl, rfl, rfl, rfl⟩

/-- The document is valid, and its message is one of an outcome without problems. -/
def IsVetted (d : Document) (outcomes : List Compiled) : Prop :=
  d.isValid = some true ∧ d.notices = [] ∧ ∃ c ∈ outcomes, c.problems = [] ∧ d.preview = c.message

end Document

namespace Desk

/-! ## Steps and runs -/

/-- A draft of which nothing has been compiled. -/
def start (d : Document) : Desk := ⟨{ d with status := .draft }, none⟩

/-- A step that stops or is refused changes nothing. -/
def step (s : Desk) : Step → Desk
  | .edit data => { s with doc := { s.doc with data := data } }
  | .compile t render =>
    match t.compileBy render (.obj s.doc.data) with
    | .ok c => { s with last := some c }
    | .error _ => s
  | .record now =>
    match s.last with
    | some c => { s with doc := s.doc.record c now }
    | none => s
  | .publish t render now =>
    match s.doc.publishBy t render now with
    | .ok p => { s with doc := p }
    | .error _ => s

def run (s : Desk) (steps : List Step) : Desk := steps.foldl step s

/-- What a step compiles the document to. -/
def outcome? (s : Desk) : Step → Option Compiled
  | .compile t render | .publish t render _ => (t.compileBy render (.obj s.doc.data)).toOption
  | .edit _ | .record _ => none

/-- What the document was compiled to in a run. -/
def outcomes (s : Desk) : List Step → List Compiled
  | [] => []
  | a :: rest => (s.outcome? a).toList ++ (s.step a).outcomes rest

variable {s : Desk} {d : Document} {a : Step} {past : List Compiled} {steps : List Step}

theorem run_concat : s.run (steps ++ [a]) = (s.run steps).step a := by
  rw [run, List.foldl_append]
  rfl

theorem outcomes_concat :
    s.outcomes (steps ++ [a]) = s.outcomes steps ++ ((s.run steps).outcome? a).toList := by
  induction steps generalizing s with
  | nil => simp [outcomes, run]
  | cons b rest ih =>
    rw [List.cons_append, outcomes, outcomes, ih, List.append_assoc]
    rfl

/-! ## What a step changes -/

/-- Only marking and publishing change what the document keeps. -/
theorem step_doc_cases (s : Desk) (a : Step) :
    s.doc.SameOutcome (s.step a).doc ∨
    (∃ now c, a = .record now ∧ s.last = some c ∧ (s.step a).doc = s.doc.record c now) ∨
    ∃ c message now, s.outcome? a = some c ∧ c.problems = [] ∧ c.message = some message ∧
      (s.step a).doc = s.doc.published message now := by
  cases a with
  | edit data => exact .inl ⟨rfl, rfl, rfl, rfl⟩
  | compile t render =>
    rw [step]
    cases t.compileBy render (.obj s.doc.data) <;> exact .inl (.refl s.doc)
  | record now =>
    rw [step]
    cases hlast : s.last with
    | none => exact .inl (.refl s.doc)
    | some c => exact .inr (.inl ⟨now, c, rfl, rfl, rfl⟩)
  | publish t render now =>
    rw [step, outcome?]
    cases hpublish : s.doc.publishBy t render now with
    | error fault => exact .inl (.refl s.doc)
    | ok p =>
      obtain ⟨c, message, hcompile, hproblems, hmessage, rfl⟩ :=
        Document.exists_compiled_of_publishBy hpublish
      exact .inr (.inr ⟨c, message, now, by rw [hcompile]; rfl, hproblems, hmessage, rfl⟩)

theorem last_step {c : Compiled} (h : (s.step a).last = some c) :
    s.last = some c ∨ s.outcome? a = some c := by
  cases a with
  | edit data => exact .inl h
  | compile t render =>
    rw [step] at h
    rw [outcome?]
    cases hcompile : t.compileBy render (.obj s.doc.data) with
    | error fault =>
      rw [hcompile] at h
      exact .inl h
    | ok latest =>
      rw [hcompile] at h
      exact .inr h
  | record now =>
    rw [step] at h
    split at h <;> exact .inl h
  | publish t render now =>
    rw [step] at h
    split at h <;> exact .inl h

/-! ## Where the kept outcome comes from -/

/-- The latest outcome and what a published document keeps are among the past outcomes. -/
structure Traced (s : Desk) (past : List Compiled) : Prop where
  last : ∀ c, s.last = some c → c ∈ past
  published : s.doc.status = .published → ∃ c ∈ past, s.doc.Keeps c

theorem Traced.start : Traced (start d) [] where
  last c hc := by cases hc
  published h := by cases h

theorem Traced.after (h : Traced s past) : Traced (s.step a) (past ++ (s.outcome? a).toList) where
  last c hc := by
    rw [List.mem_append, Option.mem_toList]
    exact (last_step hc).imp_left (h.last c)
  published hpublished := by
    simp only [List.mem_append, Option.mem_toList]
    rcases step_doc_cases s a with hsame | ⟨now, c, -, hlast, hdoc⟩ |
      ⟨c, message, now, hc, hproblems, hmessage, hdoc⟩
    · obtain ⟨c, hc, hpreview, hvalid, hnotices⟩ := h.published (hsame.status ▸ hpublished)
      exact ⟨c, .inl hc, hsame.preview.trans hpreview, hsame.isValid.trans hvalid,
        hsame.notices.trans hnotices⟩
    · rw [hdoc]
      exact ⟨c, .inl (h.last c hlast), rfl, rfl, rfl⟩
    · have hok : c.isOk = true := Compiled.isOk_iff.2 ⟨hproblems, by rw [hmessage]; rfl⟩
      rw [hdoc]
      refine ⟨c, .inr hc, hmessage.symm, ?_, ?_⟩
      · rw [hok]
        rfl
      · rw [hproblems]
        rfl

theorem traced_run (d : Document) (steps : List Step) :
    Traced ((start d).run steps) ((start d).outcomes steps) := by
  induction steps using List.reverseRecOn with
  | nil => exact Traced.start
  | append_singleton steps a ih =>
    rw [run_concat, outcomes_concat]
    exact ih.after

/-! ## When published documents stay vetted -/

theorem isVetted_iff (h : Traced s past) (hpublished : s.doc.status = .published) :
    s.doc.IsVetted past ↔ s.doc.isValid = some true := by
  refine ⟨And.left, fun hvalid => ?_⟩
  obtain ⟨c, hc, hpreview, hkept, hnotices⟩ := h.published hpublished
  have hok : c.isOk = true := Option.some.inj (hkept.symm.trans hvalid)
  have hproblems : c.problems = [] := (Compiled.isOk_iff.1 hok).1
  rw [hproblems] at hnotices
  exact ⟨hvalid, hnotices, c, hc, hproblems, hpreview⟩

/-- A step loses validity only where it marks a published document with a faulty outcome. -/
theorem isValid_step (h : s.doc.status = .published → s.doc.isValid = some true)
    (hrecord : ∀ now, a = .record now → s.doc.status = .published →
      ∀ c, s.last = some c → c.isOk = true)
    (hpublished : (s.step a).doc.status = .published) : (s.step a).doc.isValid = some true := by
  rcases step_doc_cases s a with hsame | ⟨now, c, ha, hlast, hdoc⟩ |
    ⟨c, message, now, -, -, -, hdoc⟩
  · exact hsame.isValid.trans (h (hsame.status ▸ hpublished))
  · rw [hdoc] at hpublished ⊢
    exact congrArg some (hrecord now ha hpublished c hlast)
  · rw [hdoc]
    rfl

/-- What a published document keeps comes from compiling it. The published documents of a run are
all vetted exactly if none is marked with an outcome that has problems or no message. -/
theorem published_of_start (d : Document) (steps : List Step) :
    (((start d).run steps).doc.status = .published →
      ∃ c ∈ (start d).outcomes steps, ((start d).run steps).doc.Keeps c) ∧
    ((∀ done, done <+: steps → ((start d).run done).doc.status = .published →
        ((start d).run done).doc.IsVetted ((start d).outcomes done)) ↔
      ∀ done now, done ++ [.record now] <+: steps →
        ((start d).run done).doc.status = .published →
        ∀ c, ((start d).run done).last = some c → c.isOk = true) := by
  refine ⟨(traced_run d steps).published,
    fun h done now hdone hpublished c hlast => ?_, fun h => ?_⟩
  · have hmarked : ((start d).run (done ++ [.record now])).doc =
        ((start d).run done).doc.record c now := by
      rw [run_concat, step, hlast]
    have hvetted := h _ hdone (by rw [hmarked]; exact hpublished)
    rw [hmarked] at hvetted
    exact Option.some.inj hvetted.1
  · intro done hdone hpublished
    refine (isVetted_iff (traced_run d done) hpublished).2 ?_
    induction done using List.reverseRecOn with
    | nil => cases hpublished
    | append_singleton done a ih =>
      rw [run_concat] at hpublished ⊢
      refine isValid_step (ih ((List.prefix_append done [a]).trans hdone)) ?_ hpublished
      rintro now rfl
      exact h done now hdone

/-- The title goes missing behind the publishing. -/
example :
    let t : Template :=
      { text := "\x7b\"altText\": \"News\"\x7d"
        schema.sections :=
          [{ id := "main"
             body := .plain none [.plain { key := "title", required := true } .text] }] }
    let now : Timestamp := ⟨2026, 3, 1, 12, 0, 0, 0, none, by decide⟩
    let steps : List Step := [.publish t (Render.render 32) now, .edit [],
      .compile t (Render.render 32), .record now]
    let s := (start { data := [("title", .str "Hello")] }).run steps
    s.doc.status = .published ∧ s.doc.isValid = some false := by
  decide +kernel

end Desk

end FlexForm
