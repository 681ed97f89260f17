import FlexForm.Proofs.Compile.Faults
import FlexForm.Proofs.Json.Position
import FlexForm.Proofs.Shelf.Faults
import FlexForm.Web.Service

/-! # Statuses of responses

A request is answered in steps, and the first step that refuses it decides on the status of the
response. What is refused because of the request has a status between 400 and 499; but some bodies
make the service fail, which is told by 500.

* `Web.Refusal.status`: the status of a refusal.
* `Web.Refuses`, `Web.Ends`: the statuses with which a step refuses; `Web.Ends.bind`: two steps.
* `Web.Service.Fails`: where the service fails.
* `Web.Service.status_of_post`: the statuses for bodies that are sent.
-/

namespace FlexForm
set_option autoImplicit false

open Load Checked

/-! ## What never stops -/

@[simp] theorem Notice.not_stops_load {v : Json} : ¬ (Notice.load v).Stops := by
  simp [load, stops_record, stops_nullable]

@[simp] theorem Document.not_stops_load {v : Json} : ¬ (load v).Stops := by
  simp [load, stops_record, stops_nullable]

namespace Web

@[simp] theorem Asked.not_stops_load {r : List (String × Json)} : ¬ (load r).Stops := by
  simp [load, stops_nullable]

@[simp] theorem CompileBody.not_stops_load {r : List (String × Json)} : ¬ (load r).Stops := by
  simp [load]

@[simp] theorem DocumentBody.not_stops_load {r : List (String × Json)} : ¬ (load r).Stops := by
  simp [load]

/-! ## Finite values -/

theorem areFinite_map {α : Type} {write : α → Json} {as : List α}
    (h : ∀ a ∈ as, (write a).isFinite = true) : Json.areFinite (as.map write) = true := by
  rw [Json.areFinite_eq_all, List.all_map]
  exact List.all_eq_true.2 h

theorem isFinite_complaintRecord (c : Complaint) :
    (complaintRecord c).isFinite = c.input.isFinite := by
  have hloc : Json.areFinite (c.loc.map Json.str) = true := areFinite_map fun _ _ => rfl
  simp [complaintRecord, Json.isFinite, Json.haveFinite, hloc]

theorem isFinite_notice_dump (nulls : Bool) (n : Notice) : (n.dump nulls).isFinite = true := by
  unfold Notice.dump
  cases n.fieldKey <;> cases nulls <;> rfl

theorem isFinite_ofOption {α : Type} {write : α → Json} (h : ∀ a, (write a).isFinite = true)
    (a? : Option α) : (Dump.ofOption write a?).isFinite = true := by
  cases a? with
  | none => rfl
  | some a => exact h a

theorem isFinite_document_dump (d : Document) : d.dump.isFinite = true := by
  have hnotices : Json.areFinite (d.notices.map (Notice.dump true)) = true :=
    areFinite_map fun n _ => isFinite_notice_dump true n
  have htext (a? : Option String) : (Dump.ofOption Json.str a?).isFinite = true :=
    isFinite_ofOption (fun _ => rfl) a?
  have htime (a? : Option Timestamp) :
      (Dump.ofOption (fun at' => Json.str at'.text) a?).isFinite = true :=
    isFinite_ofOption (fun _ => rfl) a?
  have hbool (a? : Option Bool) : (Dump.ofOption Json.bool a?).isFinite = true :=
    isFinite_ofOption (fun _ => rfl) a?
  simp [Document.dump, Json.isFinite, Json.haveFinite, Dump.Style.value, Json.isFinite_withNulls,
    hnotices, htext, htime, hbool]

/-! ## Refusals -/

/-- The status of a refusal. A complaint about a number that is not finite cannot be written. -/
def Refusal.status : Refusal → ℕ
  | .body complaints => if complaints.all fun c => c.input.isFinite then 422 else 500
  | .notJson _ _ | .blocked _ => 422
  | .unreadable => 400
  | .template (.notFound _) | .notFound => 404
  | .template (.stopped _) | .template (.outOfReach _) | .broken => 500
  | .template _ => 422
  | .wrongMethod => 405

theorem Refusal.status_response (refusal : Refusal) :
    (Service.writable refusal.response).status = refusal.status := by
  cases refusal with
  | body complaints =>
    have hrecords : Json.areFinite (complaints.map complaintRecord) =
        complaints.all fun c => c.input.isFinite := by
      rw [Json.areFinite_eq_all, List.all_map]
      exact congrArg complaints.all (funext isFinite_complaintRecord)
    simp only [response, Service.writable, detail, Json.isFinite, Json.haveFinite, hrecords,
      Bool.and_true, status]
    split <;> rfl
  | blocked problems =>
    have hproblems : Json.areFinite (problems.map Problem.dump) = true :=
      areFinite_map fun p _ => isFinite_notice_dump false p.notice
    simp [response, Service.writable, Json.isFinite, Json.haveFinite, hproblems, status]
  | template fault => cases fault <;> rfl
  | notJson | unreadable | notFound | wrongMethod | broken => rfl

/-! ## Steps that refuse -/

section
variable {α β : Type} {x : Except Refusal α} {f : α → Except Refusal β} {n : ℕ}

/-- The step refuses with the status. -/
def Refuses (x : Except Refusal α) (status : ℕ) : Prop :=
  ∃ refusal, x = .error refusal ∧ refusal.status = status

@[simp] theorem not_refuses_ok (a : α) : ¬ Refuses (.ok a) n := by
  rintro ⟨_, h, -⟩
  cases h

@[simp] theorem refuses_error (refusal : Refusal) :
    Refuses (.error refusal : Except Refusal α) n ↔ refusal.status = n := by
  simp [Refuses]

theorem refuses_bind :
    Refuses (x >>= f) n ↔ Refuses x n ∨ ∃ a, x = .ok a ∧ Refuses (f a) n := by
  cases x with
  | error refusal => simp [bind, Except.bind]
  | ok a => simp [bind, Except.bind]

/-- The step refuses with 400 exactly if something is unreadable, with 500 exactly if something
fails, and else with 404 or 422. -/
structure Ends (x : Except Refusal α) (unreadable fails : Prop) : Prop where
  status : ∀ n, Refuses x n → n ∈ [400, 404, 422, 500]
  unreadable_iff : Refuses x 400 ↔ unreadable
  fails_iff : Refuses x 500 ↔ fails

namespace Ends

variable {unreadable fails : Prop}

protected theorem ok (a : α) : Ends (.ok a) False False where
  status := by simp
  unreadable_iff := by simp
  fails_iff := by simp

protected theorem error {refusal : Refusal} (hstatus : refusal.status ∈ [400, 404, 422, 500])
    (hunreadable : refusal.status = 400 ↔ unreadable) (hfails : refusal.status = 500 ↔ fails) :
    Ends (.error refusal : Except Refusal α) unreadable fails where
  status _ h := (refuses_error refusal).1 h ▸ hstatus
  unreadable_iff := (refuses_error refusal).trans hunreadable
  fails_iff := (refuses_error refusal).trans hfails

theorem broken : Ends (.error .broken : Except Refusal α) False True :=
  .error (by decide) (by decide) (by decide)

theorem told {refusal : Refusal} (h : refusal.status = 404 ∨ refusal.status = 422) :
    Ends (.error refusal : Except Refusal α) False False := by
  rcases h with h | h <;>
    exact .error (by simp [h]) (by simp [h]) (by simp [h])

/-- Only the first step reads, so it alone comes to something unreadable. -/
protected theorem bind {failsAt : α → Prop} (hx : Ends x unreadable fails)
    (hf : ∀ a, x = .ok a → Ends (f a) False (failsAt a)) :
    Ends (x >>= f) unreadable (fails ∨ ∃ a, x = .ok a ∧ failsAt a) where
  status n h := by
    rcases refuses_bind.1 h with h | ⟨a, ha, h⟩
    · exact hx.status n h
    · exact (hf a ha).status n h
  unreadable_iff := by
    rw [refuses_bind, hx.unreadable_iff, or_iff_left]
    rintro ⟨a, ha, h⟩
    exact (hf a ha).unreadable_iff.1 h
  fails_iff := by
    rw [refuses_bind, hx.fails_iff]
    exact or_congr_right (exists_congr fun a =>
      and_congr_right fun ha => (hf a ha).fails_iff)

protected theorem map (hx : Ends x unreadable fails) (f : α → β) :
    Ends (x >>= fun a => pure (f a)) unreadable fails := by
  have h := hx.bind fun a _ => Ends.ok (f a)
  simp only [and_false, exists_false, or_false] at h
  exact h

theorem congr {fails' : Prop} (h : Ends x unreadable fails) (heq : fails ↔ fails') :
    Ends x unreadable fails' :=
  ⟨h.status, h.unreadable_iff, h.fails_iff.trans heq⟩

end Ends

end

/-! ## The steps of the service -/

section
variable {α : Type} {load : List (String × Json) → Checked α} {body : String}

/-- Something is complained about that holds a number which is not finite. -/
def HasInfiniteInput (load : List (String × Json) → Checked α) (body : String) : Prop :=
  ∃ v complaints, bodyValue body = .ok v ∧ loadBody load v = .refused complaints ∧
    ∃ c ∈ complaints, c.input.isFinite = false

/-- Only numbers with too many digits are unreadable; other faults of the text are told. -/
theorem ends_bodyValue (body : String) :
    Ends (bodyValue body) (bodyValue body = .error .unreadable) False := by
  unfold bodyValue
  dsimp only
  split
  next => simpa using Ends.ok Json.null
  next =>
    split
    next v _ => simpa using Ends.ok v
    next => exact .error (by decide) (by simp [Refusal.status]) (by simp [Refusal.status])
    next => simpa using Ends.told (.inr rfl)

theorem ends_orRefused {x : Checked α} (h : ¬ x.Stops) : Ends (orRefused (x.under "body")) False
    (∃ complaints, x = .refused complaints ∧ ∃ c ∈ complaints, c.input.isFinite = false) := by
  cases x with
  | ok a => simpa [orRefused] using Ends.ok a
  | refused complaints =>
    have hstatus : Refusal.status (.body (complaints.map (Complaint.under "body"))) =
        if complaints.all fun c => c.input.isFinite then 422 else 500 := by
      rw [Refusal.status, List.all_map]
      rfl
    refine .error ?_ ?_ ?_ <;> rw [hstatus]
    · split <;> decide
    · split <;> decide
    · simp
  | stopped why => exact absurd (stops_stopped why) h

theorem ends_readBody (h : ∀ r, ¬ (load r).Stops) : Ends (readBody load body)
    (bodyValue body = .error .unreadable) (HasInfiniteInput load body) := by
  have hload (v : Json) : ¬ (loadBody load v).Stops := by
    cases v <;> simp [loadBody, h]
  refine ((ends_bodyValue body).bind fun v _ => ends_orRefused (hload v)).congr ?_
  simp [HasInfiniteInput]

theorem ends_orBroken (x : Except PathFault α) :
    Ends (Service.orBroken x) False (∃ fault, x = .error fault) := by
  cases x with
  | error fault => exact Ends.broken.congr (by simp)
  | ok a => exact (Ends.ok a).congr (by simp)

end

section
variable {folder : Folder} {shelves : List Shelf}

/-- The record of the template that is asked for has a huge pattern. -/
def Asked.HasHugePattern (a : Asked) (folder : Folder) (shelves : List Shelf) : Prop :=
  match a.record, a.id with
  | some record, _ => ∃ source, Template.HasPattern source (.obj record) ∧ Pattern.IsHuge source
  | none, some id => ∃ before place after record source,
      shelves = before ++ .folder place :: after ∧
        (∀ other ∈ before, other.get? folder id = .ok none) ∧ Shelf.Keeps folder place id record ∧
        Template.HasPattern source record ∧ Pattern.IsHuge source
  | none, none => False

/-- A folder cannot be asked for the id, and nothing has it before. -/
def Asked.IsOutOfReach (a : Asked) (folder : Folder) (shelves : List Shelf) : Prop :=
  a.record = none ∧ ∃ id, a.id = some id ∧ ∃ before place after,
    shelves = before ++ .folder place :: after ∧
      (∀ other ∈ before, other.get? folder id = .ok none) ∧ Shelf.IsOutOfReach folder place id

theorem ends_mapError {x : Except TemplateFault Template} {fails : Prop}
    (h : ((∃ why, x = .error (.stopped why)) ∨ ∃ why, x = .error (.outOfReach why)) ↔ fails) :
    Ends (x.mapError Refusal.template) False fails := by
  cases x with
  | ok t => exact (Ends.ok t).congr (by simpa using h)
  | error fault =>
    refine Ends.congr ?_ h
    cases fault with
    | stopped | outOfReach =>
      exact .error (by simp [Refusal.status]) (by simp [Refusal.status]) (by simp [Refusal.status])
    | notFound id => exact (Ends.told (.inl rfl)).congr (by simp)
    | unreadable | refused | noneGiven => exact (Ends.told (.inr rfl)).congr (by simp)

theorem Asked.ends_find (a : Asked) : Ends (a.find folder shelves) False
    (a.HasHugePattern folder shelves ∨ a.IsOutOfReach folder shelves) := by
  refine ends_mapError ?_
  unfold HasHugePattern IsOutOfReach
  cases a.record with
  | some record => simp [Template.ofRecord_stops, Template.ofRecord_ne_outOfReach]
  | none =>
    cases a.id with
    | some id => simpa using or_congr Shelf.require_stops Shelf.require_outOfReach
    | none => simp

end

/-! ## Sending -/

/-- A value that can be sent. -/
def sendable (v : Json) : Except Refusal Json := if v.isFinite then .ok v else .error .broken

theorem ends_sendable (v : Json) : Ends (sendable v) False (v.isFinite = false) := by
  unfold sendable
  cases v.isFinite with
  | true => exact (Ends.ok v).congr (by simp)
  | false => exact Ends.broken.congr (by simp)

/-- Where all answers are finite, sending them does not fail. -/
theorem Ends.send {x : Except Refusal Json} {unreadable fails : Prop} (hx : Ends x unreadable fails)
    (hfinite : ∀ v, x = .ok v → v.isFinite = true) :
    Ends (x >>= sendable) unreadable fails := by
  refine (hx.bind fun v _ => ends_sendable v).congr (or_iff_left ?_)
  rintro ⟨v, hv, h⟩
  rw [hfinite v hv] at h
  cases h

/-! ## Where the service fails -/

namespace Service

variable {s : Service} {body : String}

/-- The clocks of the zone in the settings show no time. -/
def LacksTime (s : Service) : Prop := TimeZone.now? s.settings.clock s.clock = none

/-- Finding the template that is asked for fails, or something does with the template. -/
def FailsWith (s : Service) (asked : Asked) (fails : Template → Prop) : Prop :=
  (asked.HasHugePattern s.folder s.shelves ∨ asked.IsOutOfReach s.folder s.shelves) ∨
    ∃ t, asked.find s.folder s.shelves = .ok t ∧ fails t

/-- The document is no record of one, or something fails with the document and its template. -/
def FailsWithDocument (s : Service) (body : String) (fails : Document → Template → Prop) : Prop :=
  HasInfiniteInput DocumentBody.load body ∨
    ∃ request, readBody DocumentBody.load body = .ok request ∧
      ((∃ complaints, Document.load (.obj request.doc) = .refused complaints) ∨
        ∃ d, Document.load (.obj request.doc) = .ok d ∧
          s.FailsWith (request.askedFor d) (fails d))

/-- Compiling comes to an index without a value. -/
def FailsToCompile (s : Service) (t : Template) (data : List (String × Json)) : Prop :=
  ∃ e, t.compile s.settings.render.levels (.obj data) = .error (.index e)

/-- The service fails at the body that is sent. -/
def Fails (s : Service) (body : String) : Endpoint → Prop
  | .compile => HasInfiniteInput CompileBody.load body ∨
      ∃ request, readBody CompileBody.load body = .ok request ∧
        s.FailsWith request.asked fun t => s.FailsToCompile t request.data
  | .defaults => HasInfiniteInput Asked.load body ∨
      ∃ asked, readBody Asked.load body = .ok asked ∧
        s.FailsWith asked fun t => ∀ v, t.upgrade.schema.defaults = .ok v → v.isFinite = false
  | .validate => s.FailsWithDocument body fun d t => s.FailsToCompile t d.data ∨ s.LacksTime
  | .publish => s.FailsWithDocument body fun d t => s.FailsToCompile t d.data ∨
      s.LacksTime ∧ ∃ c, t.compile s.settings.render.levels (.obj d.data) = .ok c ∧ c.isOk = true
  | .templates | .template _ => False

theorem ends_now : Ends s.now False s.LacksTime := by
  unfold now LacksTime
  cases TimeZone.now? s.settings.clock s.clock with
  | none => exact Ends.broken.congr (by simp)
  | some t => exact (Ends.ok t).congr (by simp)

theorem failsToCompile_or (s : Service) (t : Template) (data : List (String × Json)) :
    s.FailsToCompile t data ∨ ∃ c, t.compile s.settings.render.levels (.obj data) = .ok c := by
  cases hcompile : t.compile s.settings.render.levels (.obj data) with
  | ok c => exact .inr ⟨c, rfl⟩
  | error fault =>
    obtain ⟨e, rfl⟩ := Template.compileBy_obj_error hcompile
    exact .inl ⟨e, hcompile⟩

theorem ends_compile (t : Template) (data : List (String × Json)) :
    Ends (orBroken (t.compile s.settings.render.levels (.obj data))) False
      (s.FailsToCompile t data) := by
  refine (ends_orBroken _).congr ⟨?_, fun ⟨e, h⟩ => ⟨_, h⟩⟩
  rintro ⟨fault, h⟩
  obtain ⟨e, rfl⟩ := Template.compileBy_obj_error h
  exact ⟨e, h⟩

section
variable {α : Type}

theorem ends_with {asked : Asked} {f : Template → Except Refusal α} {fails : Template → Prop}
    (hf : ∀ t, Ends (f t) False (fails t)) :
    Ends (asked.find s.folder s.shelves >>= f) False (s.FailsWith asked fails) :=
  asked.ends_find.bind fun t _ => hf t

theorem ends_withDocument {f : Document × Template → Except Refusal α}
    {fails : Document → Template → Prop} (hf : ∀ d t, Ends (f (d, t)) False (fails d t)) :
    Ends (s.document body >>= f) (bodyValue body = .error .unreadable)
      (s.FailsWithDocument body fails) := by
  rw [document, bind_assoc]
  refine (ends_readBody fun _ => DocumentBody.not_stops_load).bind fun request _ => ?_
  cases hload : Document.load (.obj request.doc) with
  | ok d =>
    -- What follows gets the pair, but can only fail behind the search for the template.
    have hfind : ((do
        let t ← (request.askedFor d).find s.folder s.shelves
        pure (d, t)) >>= f) =
          (request.askedFor d).find s.folder s.shelves >>= fun t => f (d, t) := by
      rw [bind_assoc]
      simp only [pure_bind]
    dsimp only
    rw [hfind]
    exact (ends_with (hf d)).congr (by simp)
  | refused complaints => exact Ends.broken.congr (by simp)
  | stopped why => exact absurd ⟨why, hload⟩ Document.not_stops_load

end

/-! ## Statuses -/

theorem status_answer (r : Request) {e : Endpoint} (he : Endpoint.ofPath? r.path = some e)
    (hmethod : e.method = r.method) : (s.answer r).status =
      match s.answerTo r.body e >>= sendable with
      | .ok _ => 200
      | .error refusal => refusal.status := by
  unfold answer outcome
  rw [he]
  dsimp only
  rw [if_pos hmethod]
  cases s.answerTo r.body e with
  | error refusal => exact refusal.status_response
  | ok v =>
    unfold writable sendable
    cases hv : v.isFinite <;> simp [bind, Except.bind, hv, Refusal.status, Response.failed]

theorem ends_compileBody (s : Service) (body : String) : Ends (s.compile body >>= sendable)
    (bodyValue body = .error .unreadable) (s.Fails body .compile) := by
  have hends : Ends (s.compile body) (bodyValue body = .error .unreadable)
      (s.Fails body .compile) :=
    (ends_readBody fun _ => CompileBody.not_stops_load).bind fun request _ =>
      ends_with fun t => (ends_compile t request.data).map _
  refine hends.send fun v hv => ?_
  obtain ⟨request, -, hv⟩ := exists_of_bind_ok hv
  obtain ⟨t, -, hv⟩ := exists_of_bind_ok hv
  obtain ⟨c, -, hv⟩ := exists_of_bind_ok hv
  cases hv
  have hproblems : Json.areFinite (c.problems.map Problem.dump) = true :=
    areFinite_map fun p _ => isFinite_notice_dump false p.notice
  have hmessage : ((c.message.map Json.withNulls).getD .null).isFinite = true := by
    cases c.message with
    | none => rfl
    | some m => exact Json.isFinite_withNulls m
  simp [Json.isFinite, Json.haveFinite, hproblems, hmessage]

theorem ends_defaultsBody (s : Service) (body : String) : Ends (s.defaults body >>= sendable)
    (bodyValue body = .error .unreadable) (s.Fails body .defaults) := by
  rw [defaults, bind_assoc]
  refine (ends_readBody fun _ => Asked.not_stops_load).bind fun asked _ => ?_
  rw [bind_assoc]
  refine ends_with fun t => ((ends_orBroken _).bind fun v _ => ends_sendable v).congr ?_
  cases t.upgrade.schema.defaults with
  | error fault => simp
  | ok v => simp [orBroken, Except.mapError]

theorem ends_validateBody (s : Service) (body : String) : Ends (s.validate body >>= sendable)
    (bodyValue body = .error .unreadable) (s.Fails body .validate) := by
  have hends : Ends (s.validate body) (bodyValue body = .error .unreadable)
      (s.Fails body .validate) := by
    refine ends_withDocument fun d t => ?_
    refine ((ends_compile t d.data).bind fun c _ => ends_now.map _).congr ?_
    constructor
    · exact Or.imp_right fun ⟨_, _, h⟩ => h
    · rcases s.failsToCompile_or t d.data with h | ⟨c, hc⟩
      · exact fun _ => .inl h
      · exact Or.imp_right fun h => ⟨c, congrArg orBroken hc, h⟩
  refine hends.send fun v hv => ?_
  obtain ⟨⟨d, t⟩, -, hv⟩ := exists_of_bind_ok hv
  obtain ⟨c, -, hv⟩ := exists_of_bind_ok hv
  obtain ⟨now, -, hv⟩ := exists_of_bind_ok hv
  cases hv
  exact isFinite_document_dump _

theorem ends_publishBody (s : Service) (body : String) : Ends (s.publish body >>= sendable)
    (bodyValue body = .error .unreadable) (s.Fails body .publish) := by
  have hends : Ends (s.publish body) (bodyValue body = .error .unreadable)
      (s.Fails body .publish) := by
    refine ends_withDocument fun d t => ?_
    dsimp only
    rcases s.failsToCompile_or t d.data with ⟨e, he⟩ | ⟨c, hc⟩
    · rw [Document.publish, Document.publishBy, show t.compileBy _ _ = _ from he]
      exact Ends.broken.congr (by simp [FailsToCompile, he])
    · rw [Document.publish, Document.publishBy, show t.compileBy _ _ = _ from hc]
      -- The time is missed only where the document is published.
      cases hok : c.isOk with
      | true =>
        have hnow (v : Json) : (s.now.map fun _ => v) = s.now >>= fun _ => pure v := by
          cases s.now <;> rfl
        simp only [hok, if_true, hnow]
        exact (ends_now.map _).congr (by simp [FailsToCompile, hc, hok])
      | false =>
        simp only [hok, Bool.false_eq_true, if_false]
        exact (Ends.told (.inr rfl)).congr (by simp [FailsToCompile, hc, hok])
  refine hends.send fun v hv => ?_
  obtain ⟨⟨d, t⟩, -, hv⟩ := exists_of_bind_ok hv
  dsimp only at hv
  split at hv
  next d' _ =>
    cases hnow : s.now with
    | error refusal =>
      rw [hnow] at hv
      cases hv
    | ok now =>
      rw [hnow] at hv
      cases hv
      exact isFinite_document_dump d'
  next => cases hv
  next => cases hv

theorem ends_answerTo (s : Service) (body : String) (e : Endpoint) (he : e.method = "POST") :
    Ends (s.answerTo body e >>= sendable) (bodyValue body = .error .unreadable)
      (s.Fails body e) := by
  cases e with
  | compile => exact ends_compileBody s body
  | defaults => exact ends_defaultsBody s body
  | validate => exact ends_validateBody s body
  | publish => exact ends_publishBody s body
  | templates => exact absurd he (by decide)
  | template id => exact absurd he (by simp [Endpoint.method])

/-- A body that is sent is answered with 200, 400, 404, 422 or 500. It is answered with 500 exactly
where the service fails, and with 400 exactly if a number has more digits than can be read. -/
theorem status_of_post (s : Service) {r : Request} {e : Endpoint}
    (he : Endpoint.ofPath? r.path = some e) (hpost : e.method = "POST") (hr : r.method = "POST") :
    (s.answer r).status ∈ [200, 400, 404, 422, 500] ∧
      ((s.answer r).status = 500 ↔ s.Fails r.body e) ∧
      ((s.answer r).status = 400 ↔ bodyValue r.body = .error .unreadable) := by
  have hends := ends_answerTo s r.body e hpost
  rw [status_answer r he (hpost.trans hr.symm), ← hends.fails_iff, ← hends.unreadable_iff]
  have hstatus := hends.status
  cases hsent : s.answerTo r.body e >>= sendable with
  | ok v => simp
  | error refusal =>
    rw [hsent] at hstatus
    simp only [refuses_error]
    exact ⟨List.mem_cons_of_mem _ (hstatus _ ((refuses_error _).2 rfl)), trivial, trivial⟩

/-- The service with the settings that nothing else is said about, and no files. -/
def plain : Service :=
  { settings := {}, folder := .ofFiles [], clock := ⟨2026, 3, 1, 12, 0, 0, 0, some 0, by decide⟩ }

/-- A shape of documents that is not known makes the service fail. -/
theorem status_of_post_unknown_shape :
    let r : Request := ⟨"POST", "/api/v1/docs/validate",
      "\x7b\"doc\": \x7b\"mode\": \"bad\"\x7d, \"template_id\": \"builtin-single-poster\"\x7d"⟩
    (plain.answer r).status = 500 ∧ plain.Fails r.body .validate := by
  intro r
  have hstatus := status_of_post plain (r := r) (e := .validate) (by decide +kernel) rfl rfl
  have hfails : (plain.answer r).status = 500 := by decide +kernel
  exact ⟨hfails, hstatus.2.1.1 hfails⟩

/-- So does an id that has a NUL before its last name, where a folder is asked for it. -/
example :
    let s : Service := { plain with settings := { templatesFolder := some "t" } }
    let body := "\x7b\"template_id\": \"\\u0000/x\", \"data\": \x7b\x7d\x7d"
    (s.answer ⟨"POST", "/api/v1/compile", body⟩).status = 500 := by
  decide +kernel

end Service

end Web

end FlexForm
