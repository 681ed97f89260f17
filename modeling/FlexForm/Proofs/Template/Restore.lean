import FlexForm.Proofs.Schema.Restore
import FlexForm.Proofs.Timestamp.Text
import FlexForm.Template

/-! # Reading back a written template

A full dump of a template is read as the same template. A brief dump is so too, unless a condition of
its form compares with null: that null is left out like any other, but a condition needs its value.

* `Template.HasFiniteData`: no number in the sample or in a default is infinite or not a number.
* `Template.load_dump_full`: full dumps.
* `Template.restores_exported`: brief dumps, and plain dumps of schemas.
-/

namespace FlexForm
set_option autoImplicit false

open Load Checked Dump

/-- Every number in the data of the template is finite. -/
structure Template.HasFiniteData (t : Template) : Prop where
  sample : ∀ fields ∈ t.sample, Json.haveFinite fields = true
  defaults : t.schema.EveryField fun f => f.info.default.isFinite = true

theorem Dump.Style.value_of_isFinite {v : Json} (style : Style) (h : v.isFinite = true) :
    style.value v = v := by
  cases style with
  | plain => rfl
  | brief | full => exact Json.withNulls_of_isFinite v h

theorem FormSchema.EveryField.mono {p q : Field → Prop} {s : FormSchema} (hs : s.EveryField p)
    (h : ∀ f, p f → q f) : s.EveryField q :=
  fun part hpart f hf => (hs part hpart f hf).mono h

namespace Template

variable {style : Style} {v : Json} {t : Template}

/-! ## The parts -/

theorem load_nameOf_mode (m : Render.Mode) :
    nullable (oneOf Render.Mode.names) (.str m.name) = .ok (some m) := by
  rw [nullable_of_not_null rfl, oneOf_of_lookup m.lookup_name]
  rfl

theorem yields_load (v : Json) : (load v).Yields fun t => t.schema.IsProper := by
  refine yields_record (fun r => ?_) v
  have hschema : (optional r "schema" "form_schema" FormSchema.load {}).Yields
      FormSchema.IsProper :=
    yields_optional FormSchema.yields_load fun part hpart => absurd hpart List.not_mem_nil
  iterate 4 apply yields_seq
  refine Yields.seq ?_ hschema
  iterate 5 apply yields_seq
  exact yields_functor fun _ _ _ _ _ _ _ hproper _ _ _ _ => hproper

theorem restores_load (hproper : t.schema.IsProper) (hfinite : t.HasFiniteData) :
    (load (t.dump style)).Restores (t.schema.EveryCondition style.Keeps) t := by
  have hdefaults := hfinite.defaults.mono fun f => style.value_of_isFinite (v := f.info.default)
  have hsample : style.value (ofOption .obj t.sample) = ofOption .obj t.sample := by
    refine style.value_of_isFinite ?_
    cases hs : t.sample with
    | none => rfl
    | some fields => exact hfinite.sample fields hs
  rw [dump, freePart_eq "sampleData" hsample, load, record]
  generalize hr : _ ++ part style "updatedAt" _ = r
  have hparts : HasPart style r "id" "id" (ofOption .str t.id) ∧
      Fields.get? r "name" = some (.str t.name) ∧
      Fields.get? r "description" = some (.str t.description) ∧
      Fields.get? r "status" = some (.str t.status.name) ∧
      Fields.get? r "version" = some (.int t.version) ∧
      Fields.get? r "templateText" = some (.str t.text) ∧
      Fields.get? r "schema" = some (t.schema.dump style) ∧
      HasPart style r "sampleData" "sample_data" (ofOption .obj t.sample) ∧
      Fields.get? r "renderMode" = some (.str t.mode.name) ∧
      HasPart style r "createdAt" "created_at" (ofOption (fun at' => .str at'.text) t.createdAt) ∧
      HasPart style r "updatedAt" "updated_at"
        (ofOption (fun at' => .str at'.text) t.updatedAt) := by
    simp [HasPart, ← hr, Fields.get?_append, Fields.get?_cons, get?_part_of_ne]
  obtain ⟨hid, hname, hdescription, hstatus, hversion, htext, hschema, hsample', hmode, hcreated,
    hupdated⟩ := hparts
  rw [optional_eq_ok hid (fun _ => rfl) text_str, optional_of_get? hname,
    optional_of_get? hdescription, optional_of_get? hstatus, oneOf_of_lookup t.status.lookup_name,
    optional_of_get? hversion, optional_of_get? htext, optional_of_get? hschema,
    optional_eq_ok hsample' (fun _ => rfl) (fun _ => rfl), optional_of_get? hmode,
    load_nameOf_mode, optional_eq_ok hcreated (fun _ => rfl) Timestamp.load_text,
    optional_eq_ok hupdated (fun _ => rfl) Timestamp.load_text]
  have hform := (FormSchema.restores_load hproper hdefaults).under "schema"
  exact ((((hform.apply (make t.id t.name t.description t.status t.version t.text)).seq_ok
    t.sample).seq_ok (some t.mode)).seq_ok t.createdAt).seq_ok t.updatedAt

/-! ## Full and brief dumps -/

/-- A record with a list inside of a list, and with a condition that compares with null. -/
def tripRecord : Json :=
  .obj [("id", .str "trip"), ("createdAt", .str "2024-02-29T12:30:00+09:00"),
    ("sampleData", .obj [("cards", .arr [])]),
    ("schema", .obj [("sections", .arr [.obj [("id", .str "cards"), ("repeatable", .bool true),
      ("key", .str "cards"), ("itemSchema", .obj [("fields", .arr [
        .obj [("key", .str "title"), ("type", .str "text"), ("constraints", .obj [
          ("pattern", .str "[a-z]+"),
          ("requiredIf", .obj [("when", .str "subtitle"), ("is", .null)])])],
        .obj [("key", .str "buttons"), ("type", .str "repeatable"), ("itemSchema", .obj [
          ("fields", .arr [.obj [("key", .str "kind"), ("type", .str "select"),
            ("default", .str "uri"), ("options", .arr [
              .obj [("label", .str "Open"), ("value", .str "uri")]])]])])]])])]])])]

def tripPattern : Regex where
  source := "[a-z]+"
  node := .seq (.loop .greedy 1 none (.one ⟨[.range 97 122], false, {}⟩)) .empty
  reads := rfl

/-- The template that the record stands for. -/
def trip : Template where
  id := some "trip"
  createdAt := some ⟨2024, 2, 29, 12, 30, 0, 0, some 32400, by decide⟩
  sample := some [("cards", .arr [])]
  schema := { sections := [⟨"cards", "", {}, .repeatable "cards" ⟨"", [
    .plain { key := "title", constraints := {
      pattern := some tripPattern, requiredIf := some ⟨"subtitle", .null⟩ } } .text,
    .repeatable { key := "buttons" } "" [
      .select { key := "kind", default := .str "uri" } (.labelled [⟨"Open", "uri"⟩])]]⟩⟩] }

theorem load_tripRecord : load tripRecord = .ok trip := rfl

theorem hasFiniteData_trip : trip.HasFiniteData where
  sample := by simp [trip, Json.haveFinite, Json.isFinite, Json.areFinite]
  defaults := by
    simp [trip, FormSchema.EveryField, Section.fields, Field.info, Json.isFinite]

theorem load_dump_full (hload : load v = .ok t) (hfinite : t.HasFiniteData) :
    load (t.dump .full) = .ok t := by
  have hproper := yields_load v t hload
  refine (restores_load hproper hfinite).ok fun part hpart => ⟨fun c _ => .inl rfl, fun f hf => ?_⟩
  exact ((hproper part hpart).2.2 f hf).mono fun _ _ c _ => .inl rfl

theorem load_dump_full_trip :
    load tripRecord = .ok trip ∧ trip.HasFiniteData ∧ load (trip.dump .full) = .ok trip :=
  ⟨load_tripRecord, hasFiniteData_trip, load_dump_full load_tripRecord hasFiniteData_trip⟩

/-- What is exported is given back exactly if no condition compares with null, both for templates and
for schemas. If one does, all that is complained about is its value. -/
theorem restores_exported (v : Json) :
    (∀ t, load v = .ok t → t.HasFiniteData → (load (t.dump .brief)).Restores
      (t.schema.EveryCondition fun c => c.value.isNull = false) t) ∧
    ∀ s, FormSchema.load v = .ok s → (FormSchema.load (s.dump .plain)).Restores
      (s.EveryCondition fun c => c.value.isNull = false) s := by
  constructor
  · intro t hload hfinite
    rw [← Style.keeps_eq .brief rfl]
    exact restores_load (yields_load v t hload) hfinite
  · intro s hload
    rw [← Style.keeps_eq .plain rfl]
    have hproper := FormSchema.yields_load v s hload
    exact FormSchema.restores_load hproper fun part hpart f hf =>
      ((hproper part hpart).2.2 f hf).mono fun _ _ => rfl

/-- The trip cannot be loaded from its export: what it compares with is null. -/
theorem not_restores_exported_trip :
    load tripRecord = .ok trip ∧ load (trip.dump .brief) ≠ .ok trip ∧
      FormSchema.load (trip.schema.dump .plain) ≠ .ok trip.schema := by
  have hnull : ¬ trip.schema.EveryCondition fun c => c.value.isNull = false := by
    simp [trip, FormSchema.EveryCondition, Section.EveryCondition, Section.fields,
      Field.EveryCondition, Constraints.EveryCondition, Field.constraints, Field.info, Json.isNull]
  have hbrief := (restores_exported tripRecord).1 trip load_tripRecord hasFiniteData_trip
  have hplain := (restores_exported (trip.schema.dump .full)).2 trip.schema rfl
  exact ⟨load_tripRecord, hbrief.eq_ok_iff.not.2 hnull, hplain.eq_ok_iff.not.2 hnull⟩

end Template

end FlexForm
