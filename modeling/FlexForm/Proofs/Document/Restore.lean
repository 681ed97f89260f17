import FlexForm.Lifecycle
import FlexForm.Proofs.Compile.Outcome
import FlexForm.Proofs.Template.Restore

/-! # Reading back a written document

A full dump of a document is read as the same document, unless its kept message is no object: any
message is kept, but only objects are read.

* `Document.load_dump`: what a dump is read as.
* `Document.load_dump_record`: the dump after an outcome of compiling was recorded.
-/

namespace FlexForm
set_option autoImplicit false

open Load Checked Dump

namespace Document

variable {d : Document}

/-! ## The parts -/

/-- The loader for the kept message. -/
def loadPreview : Loader (Option Json) := nullable fun v => Checked.map Json.obj (object v)

theorem loadPreview_of_objects {preview : Option Json} (h : ∀ m ∈ preview, m.isObject = true) :
    loadPreview (preview.getD .null) = .ok preview := by
  cases preview with
  | none => rfl
  | some m =>
    have hm := h m rfl
    cases m with
    | obj fields => rfl
    | null | bool | int | float | str | arr => cases hm

theorem loadPreview_of_not_object {v : Json} (hnull : v.isNull = false) (h : v.isObject = false) :
    loadPreview v = .fail .notObject v := by
  cases v with
  | null => cases hnull
  | obj fields => cases h
  | bool | int | float | str | arr => rfl

theorem notice_load_dump (n : Notice) : Notice.load (n.dump true) = .ok n := by
  obtain ⟨path, message, key⟩ := n
  cases key <;> rfl

/-- Everything but the kept message is given back. -/
theorem load_dump (hdata : Json.haveFinite d.data = true)
    (hpreview : ∀ m ∈ d.preview, m.isFinite = true) :
    load d.dump = Checked.map (fun preview => { d with preview })
      ((loadPreview (d.preview.getD .null)).under "previewJson") := by
  have hvalue : Style.full.value (d.preview.getD .null) = d.preview.getD .null := by
    refine Style.value_of_isFinite .full ?_
    cases hp : d.preview with
    | none => rfl
    | some m => exact hpreview m hp
  rw [dump, Style.value_of_isFinite .full (v := .obj d.data) hdata, hvalue, load, Load.record]
  dsimp only
  generalize hr : ("id", _) :: _ = r
  have hparts : HasPart .full r "id" "id" (ofOption .str d.id) ∧
      Fields.get? r "title" = some (.str d.title) ∧
      HasPart .full r "templateId" "template_id" (ofOption .str d.templateId) ∧
      Fields.get? r "data" = some (.obj d.data) ∧
      Fields.get? r "mode" = some (.str d.shape.name) ∧
      Fields.get? r "status" = some (.str d.status.name) ∧
      Fields.get? r "previewJson" = some (d.preview.getD .null) ∧
      HasPart .full r "isValid" "is_valid" (ofOption .bool d.isValid) ∧
      Fields.get? r "validationErrors" = some (.arr (d.notices.map (Notice.dump true))) ∧
      HasPart .full r "lastValidatedAt" "last_validated_at"
        (ofOption (fun at' => .str at'.text) d.validatedAt) ∧
      HasPart .full r "createdAt" "created_at"
        (ofOption (fun at' => .str at'.text) d.createdAt) ∧
      HasPart .full r "updatedAt" "updated_at"
        (ofOption (fun at' => .str at'.text) d.updatedAt) := by
    simp [HasPart, ← hr, Fields.get?_cons, part, Style.writesNulls]
  obtain ⟨hid, htitle, htemplate, hdata', hshape, hstatus, hpreview', hvalid, hnotices, hvalidated,
    hcreated, hupdated⟩ := hparts
  rw [optional_eq_ok hid (fun _ => rfl) text_str, optional_of_get? htitle,
    optional_eq_ok htemplate (fun _ => rfl) text_str, optional_of_get? hdata',
    optional_of_get? hshape, oneOf_of_lookup d.shape.lookup_name, optional_of_get? hstatus,
    oneOf_of_lookup d.status.lookup_name, optional_of_get? hpreview',
    optional_eq_ok hvalid (fun _ => rfl) boolean_bool, optional_of_get? hnotices,
    list_eq_ok notice_load_dump, optional_eq_ok hvalidated (fun _ => rfl) Timestamp.load_text,
    optional_eq_ok hcreated (fun _ => rfl) Timestamp.load_text,
    optional_eq_ok hupdated (fun _ => rfl) Timestamp.load_text]
  rw [show (nullable fun v => Checked.map Json.obj (object v)) = loadPreview from rfl]
  cases (loadPreview (d.preview.getD .null)).under "previewJson" <;> rfl

theorem load_dump_of_object (hdata : Json.haveFinite d.data = true)
    (hfinite : ∀ m ∈ d.preview, m.isFinite = true) (hobject : ∀ m ∈ d.preview, m.isObject = true) :
    load d.dump = .ok d := by
  rw [load_dump hdata hfinite, loadPreview_of_objects hobject]
  rfl

theorem load_dump_of_not_object {m : Json} (hdata : Json.haveFinite d.data = true)
    (hpreview : d.preview = some m) (hfinite : m.isFinite = true) (hnull : m.isNull = false)
    (hobject : m.isObject = false) :
    load d.dump = .refused [⟨["previewJson"], .notObject, m⟩] := by
  have hfinite' : ∀ n ∈ d.preview, n.isFinite = true := by
    rw [hpreview]
    rintro n ⟨⟩
    exact hfinite
  rw [load_dump hdata hfinite', hpreview, Option.getD_some, loadPreview_of_not_object hnull hobject]
  rfl

/-! ## Kept outcomes -/

section
variable {t : Template} {levels : ℤ} {c : Compiled} {m : Json}

theorem rendering_message (hcompile : t.compile levels (.obj d.data) = .ok c)
    (hm : c.message = some m) :
    (t.rendering (Render.render levels) (.obj d.data)).message = some m := by
  obtain ⟨problems, -, rfl⟩ := Template.compileBy_eq_ok_iff.1 hcompile
  exact hm

theorem isObject_of_isOk (hcompile : t.compile levels (.obj d.data) = .ok c) (hok : c.isOk = true)
    (hm : c.message = some m) : m.isObject = true := by
  obtain ⟨problems, -, rfl⟩ := Template.compileBy_eq_ok_iff.1 hcompile
  obtain ⟨-, message, hrendering, hcheck⟩ := Compiled.isOk_ofParts_iff.1 hok
  rw [Compiled.ofParts, hrendering] at hm
  cases hm
  by_contra hobject
  rw [Message.check_of_not_object (Bool.eq_false_iff.2 hobject)] at hcheck
  cases hcheck

/-- A document with a recorded outcome is given back exactly if the message is an object or missing;
so are all with a good outcome. A message of another kind is the only thing that is refused, and it
comes from templates that put out a value of such a kind. -/
theorem load_dump_record (now : Timestamp) (hdata : Json.haveFinite d.data = true)
    (hcompile : t.compile levels (.obj d.data) = .ok c)
    (hfinite : ∀ m ∈ c.message, m.isFinite = true) :
    (load (d.record c now).dump = .ok (d.record c now) ↔ ∀ m ∈ c.message, m.isObject = true) ∧
    (c.isOk = true → load (d.record c now).dump = .ok (d.record c now)) ∧
    ∀ m ∈ c.message, m.isObject = false →
      load (d.record c now).dump = .refused [⟨["previewJson"], .notObject, m⟩] ∧
      ∃ out v, Render.produce t.resolve.mode t.resolve.text (Render.dataUsed (.obj d.data)) =
        .ok out ∧ Json.read false out = .ok v ∧ v.isObject = false := by
  have hgiven : (∀ m ∈ c.message, m.isObject = true) →
      load (d.record c now).dump = .ok (d.record c now) :=
    load_dump_of_object (d := d.record c now) hdata hfinite
  have hrefused : ∀ m ∈ c.message, m.isObject = false →
      load (d.record c now).dump = .refused [⟨["previewJson"], .notObject, m⟩] := by
    intro m hm hobject
    have hnull := (Render.render_of_message (rendering_message hcompile hm)).2
    exact load_dump_of_not_object (d := d.record c now) hdata hm (hfinite m hm) hnull hobject
  refine ⟨⟨fun hload m hm => ?_, hgiven⟩, fun hok => ?_, fun m hm hobject => ?_⟩
  · by_contra hobject
    rw [hrefused m hm (Bool.eq_false_iff.2 hobject)] at hload
    cases hload
  · exact hgiven fun m hm => isObject_of_isOk hcompile hok hm
  · obtain ⟨out, v, hout, hread, hkind⟩ :=
      Render.ofKind_isObject.render (rendering_message hcompile hm)
    exact ⟨hrefused m hm hobject, out, v, hout, hread, hkind ▸ hobject⟩

/-- The text of the template is a list as it stands. -/
def listing : Template := { text := "[1]" }

/-- The list is kept as the message of a draft, and the draft is refused when it comes back. -/
theorem load_dump_record_listing :
    let now : Timestamp := ⟨2026, 3, 1, 12, 0, 0, 0, some 0, by decide⟩
    ∃ c, listing.compile 32 (.obj []) = .ok c ∧ c.message = some (.arr [.int 1]) ∧
      load (Document.record {} c now).dump =
        .refused [⟨["previewJson"], .notObject, .arr [.int 1]⟩] := by
  intro now
  obtain ⟨c, hcompile, hm⟩ : ∃ c, listing.compile 32 (.obj []) = .ok c ∧
      c.message = some (.arr [.int 1]) := ⟨_, rfl, rfl⟩
  have hfinite : ∀ m ∈ c.message, m.isFinite = true := by
    rw [hm]
    rintro m ⟨⟩
    rfl
  have hrecord := load_dump_record (d := {}) now rfl hcompile hfinite
  exact ⟨c, hcompile, hm, (hrecord.2.2 _ hm rfl).1⟩

end

end Document

end FlexForm
