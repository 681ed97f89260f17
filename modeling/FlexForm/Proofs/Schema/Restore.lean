import FlexForm.Proofs.Schema.Everywhere

/-! # Reading back a written schema

A schema that was read and is written again has all its parts under their written names, so it is
read as the same schema. A condition whose value is null is the exception: where nulls are left out,
its value is missed.

* `Dump.Style.Keeps`: the conditions that are written with their value.
* `Field.restores_load`, `Section.restores_load`, `FormSchema.restores_load`: a written record is
  given back exactly if all its conditions are.
-/

namespace FlexForm
set_option autoImplicit false

open Load Checked Dump

variable {style : Style}

/-- The value of the condition is written: it is not null, or nulls are written as well. -/
def Dump.Style.Keeps (style : Style) (c : Condition) : Prop :=
  style.writesNulls = true ∨ c.value.isNull = false

theorem Dump.Style.keeps_eq (style : Style) (h : style.writesNulls = false) :
    style.Keeps = fun c => c.value.isNull = false := by
  funext c
  simp [Keeps, h]

theorem Dump.freePart_eq {v : Json} (name : String) (h : style.value v = v) :
    freePart style name v = part style name v := by
  rw [freePart, part, h]

/-! ## Conditions and constraints -/

theorem Condition.loadValue_of_proper {c : Condition} (h : c.IsProper) :
    loadValue c.value = .ok c.value := by
  obtain ⟨path, value⟩ := c
  cases value with
  | arr | obj => cases h
  | null | bool | int | float | str => rfl

theorem Condition.restores_load {c : Condition} (hproper : c.IsProper) :
    (load (c.dump style)).Restores (style.Keeps c) c := by
  rw [dump, load, record]
  generalize hr : [("when", Json.str c.path)] ++ part style "is" c.value = r
  have hwhen : Fields.get? r "when" = some (.str c.path) := by
    simp [← hr, Fields.get?_cons]
  have his : HasPart style r "is" "is_" c.value := by
    simp [HasPart, ← hr, Fields.get?_cons, get?_part_of_ne]
  rw [required_of_get? hwhen]
  exact (restores_value his (loadValue_of_proper hproper)).apply (mk c.path)

/-- A text that was read as a pattern is read as the same one again. -/
theorem Regex.load_source (r : Regex) : load (.str r.source) = .ok r := by
  obtain ⟨source, node, reads⟩ := r
  rw [load, text_str, andThen]
  split
  next other hother =>
    cases reads.symm.trans hother
    rfl
  next h => cases reads.symm.trans h
  next fault _ h => cases reads.symm.trans h

theorem Constraints.restores_load {c : Constraints}
    (hproper : c.EveryCondition Condition.IsProper) :
    (load (c.dump style)).Restores (c.EveryCondition style.Keeps) c := by
  rw [dump, load, record]
  generalize hr : _ ++ part style "requiredIf" (ofOption (Condition.dump style) c.requiredIf) = r
  have hparts : HasPart style r "maxLength" "max_length" (ofOption .int c.maxLength) ∧
      HasPart style r "minLength" "min_length" (ofOption .int c.minLength) ∧
      HasPart style r "minItems" "min_items" (ofOption .int c.minItems) ∧
      HasPart style r "maxItems" "max_items" (ofOption .int c.maxItems) ∧
      HasPart style r "pattern" "pattern" (ofOption (fun p => .str p.source) c.pattern) ∧
      HasPart style r "requiredIf" "required_if"
        (ofOption (Condition.dump style) c.requiredIf) ∧
      Fields.get? r "httpsOnly" = some (.bool c.httpsOnly) := by
    simp [HasPart, ← hr, Fields.get?_append, Fields.get?_cons, get?_part_of_ne]
  obtain ⟨hmaxLength, hminLength, hminItems, hmaxItems, hpattern, hrequired, hhttps⟩ := hparts
  rw [optional_eq_ok hmaxLength (fun _ => rfl) integer_int,
    optional_eq_ok hminLength (fun _ => rfl) integer_int,
    optional_eq_ok hminItems (fun _ => rfl) integer_int,
    optional_eq_ok hmaxItems (fun _ => rfl) integer_int, optional_of_get? hhttps,
    optional_eq_ok hpattern (fun _ => rfl) Regex.load_source]
  exact (restores_nullable hrequired (fun _ => rfl) fun q hq =>
    Condition.restores_load (hproper q hq)).apply
      (mk c.maxLength c.minLength c.minItems c.maxItems c.httpsOnly c.pattern)

/-! ## Options -/

theorem FieldOption.load_dump (o : FieldOption) : load o.dump = .ok o := rfl

theorem FieldOption.refused_list_text (o : FieldOption) (rest : List FieldOption) :
    ∃ e, list text (.arr ((o :: rest).map dump)) = .refused e := by
  have hstops : ¬ (list text (.arr ((o :: rest).map dump))).Stops := by simp
  rw [list, List.map_cons, List.mapIdx_cons, all_cons] at hstops ⊢
  cases hrest : all ((rest.map dump).mapIdx fun i v => (text v).under (toString (i + 1))) with
  | ok values => exact ⟨_, rfl⟩
  | refused e => exact ⟨_, rfl⟩
  | stopped why =>
    rw [hrest] at hstops
    exact absurd ⟨why, rfl⟩ hstops

/-- Texts are tried first, so options with labels are read as such only if texts are refused. -/
theorem Options.load_dump {o : Options} (hproper : o.IsProper) : load o.dump = .ok o := by
  cases o with
  | plain values =>
    rw [dump, load, list_eq_ok text_str]
    rfl
  | labelled options =>
    cases options with
    | nil => exact absurd rfl hproper
    | cons o rest =>
      obtain ⟨e, he⟩ := FieldOption.refused_list_text o rest
      rw [dump, load, list_eq_ok FieldOption.load_dump, he]
      rfl

/-! ## Fields -/

theorem FieldInfo.restores_load {info : FieldInfo} (more : List (String × Json))
    (hproper : info.constraints.EveryCondition Condition.IsProper)
    (hvalue : style.value info.default = info.default)
    (hmore : Fields.get? more "default" = none ∧ Fields.get? more "help" = none) :
    (load (info.dump style ++ more)).Restores (info.constraints.EveryCondition style.Keeps)
      info := by
  rw [dump, load, freePart_eq "default" hvalue]
  generalize hr : _ ++ more = r
  have hparts : Fields.get? r "key" = some (.str info.key) ∧
      Fields.get? r "label" = some (.str info.label) ∧
      Fields.get? r "required" = some (.bool info.required) ∧
      HasPart style r "default" "default" info.default ∧
      HasPart style r "help" "help" (ofOption .str info.help) ∧
      Fields.get? r "locked" = some (.bool info.locked) ∧
      Fields.get? r "constraints" = some (info.constraints.dump style) := by
    simp [HasPart, ← hr, Fields.get?_append, Fields.get?_cons, get?_part_of_ne, hmore]
  obtain ⟨hkey, hlabel, hrequired, hdefault, hhelp, hlocked, hconstraints⟩ := hparts
  rw [required_of_get? hkey, optional_of_get? hlabel, optional_of_get? hrequired,
    optional_any_eq_ok hdefault, optional_eq_ok hhelp (fun _ => rfl) text_str,
    optional_of_get? hlocked, optional_of_get? hconstraints]
  exact ((Constraints.restores_load hproper).under "constraints").apply
    (mk info.key info.label info.required info.default info.help info.locked)

/-- The names of the parts that fields of all types have. -/
def FieldInfo.names : List String :=
  ["key", "label", "required", "default", "help", "locked", "constraints"]

theorem FieldInfo.get?_dump_append {key : String} (info : FieldInfo) (more : List (String × Json))
    (h : ∀ name ∈ names, name ≠ key) :
    Fields.get? (info.dump style ++ more) key = Fields.get? more key := by
  simp only [names, List.forall_mem_cons] at h
  simp only [dump, Fields.get?_append, freePart]
  split <;> simp [Fields.get?_cons, get?_part_of_ne, h]

section
variable {levels : Nat} {r : List (String × Json)}

theorem Field.loadNested_plain {type : PlainType}
    (h : Fields.get? r "type" = some (.str type.name)) :
    loadNested (levels + 1) (.obj r) =
      ((fun info => plain info type) <$> FieldInfo.load r).under type.name := by
  have hname : type.name ≠ "select" ∧ type.name ≠ "repeatable" := by cases type <;> decide
  simp [loadNested, h, hname, PlainType.lookup_name]

theorem Field.loadNested_select (h : Fields.get? r "type" = some (.str "select")) :
    loadNested (levels + 1) (.obj r) = (select <$> FieldInfo.load r
      <*> Load.optional r "options" "options" Options.load (.plain [])).under "select" := by
  simp [loadNested, h]

theorem Field.loadNested_repeatable (h : Fields.get? r "type" = some (.str "repeatable")) :
    loadNested (levels + 1) (.obj r) =
      ((fun info (item : ItemSchema) => repeatable info item.title item.fields)
        <$> FieldInfo.load r
        <*> Load.optional r "itemSchema" "item_schema" (ItemSchema.loadNested levels) {}).under
          "repeatable" := by
  simp [loadNested, h]

end

theorem Field.dump_repeatable (info : FieldInfo) (title : String) (fields : List Field) :
    (repeatable info title fields).dump style = .obj (info.dump style ++
      [("type", .str "repeatable"), ("itemSchema", (ItemSchema.mk title fields).dump style)]) := rfl

theorem Field.depth_dump_pos (f : Field) : 0 < (f.dump style).depth := by
  cases f <;> simp [dump, Json.depth]

theorem Field.depth_item_lt (info : FieldInfo) (title : String) (fields : List Field) :
    ((ItemSchema.mk title fields).dump style).depth <
      ((repeatable info title fields).dump style).depth := by
  rw [dump_repeatable]
  exact Json.depth_lt_of_mem_fields (k := "itemSchema") (by simp)

theorem ItemSchema.depth_field_lt {item : ItemSchema} {f : Field} (hf : f ∈ item.fields) :
    (f.dump style).depth + 1 < (item.dump style).depth := by
  rw [dump, Field.dumpAll_eq_map]
  have hitems : (f.dump style).depth < (Json.arr (item.fields.map (Field.dump style))).depth :=
    Json.depth_lt_of_mem_items (List.mem_map_of_mem hf)
  have hfields : (Json.arr (item.fields.map (Field.dump style))).depth <
      (Json.obj [("title", .str item.title),
        ("fields", .arr (item.fields.map (Field.dump style)))]).depth :=
    Json.depth_lt_of_mem_fields (k := "fields") (by simp)
  omega

theorem ItemSchema.restores_loadNested {item : ItemSchema} {levels : Nat} {condition : Field → Prop}
    (h : ∀ f ∈ item.fields, ∀ inner, (f.dump style).depth ≤ inner →
      (Field.loadNested inner (f.dump style)).Restores (condition f) f)
    (hlevels : (item.dump style).depth ≤ levels) :
    (loadNested levels (item.dump style)).Restores (∀ f ∈ item.fields, condition f) item := by
  have hfields (f) (hf : f ∈ item.fields) : (f.dump style).depth ≤ levels - 1 := by
    have hdepth : (f.dump style).depth + 1 < (item.dump style).depth := depth_field_lt hf
    omega
  cases levels with
  | zero => simp [dump, Json.depth] at hlevels
  | succ inner =>
    rw [dump, loadNested, record, Field.dumpAll_eq_map]
    have hlist : (list (Field.loadNested inner) (.arr (item.fields.map (Field.dump style)))).Restores
        (∀ f ∈ item.fields, condition f) item.fields :=
      restores_list fun f hf => h f hf inner (hfields f hf)
    exact (hlist.under "fields").apply (mk item.title)

/-- The field was read, and its defaults are written as they are. -/
def Field.IsRestorable (style : Style) (f : Field) : Prop :=
  f.Everywhere fun g => g.IsProper ∧ style.value g.info.default = g.info.default

theorem Field.restores_loadNested {f : Field} {levels : Nat} (hf : f.IsRestorable style)
    (hlevels : (f.dump style).depth ≤ levels) :
    (loadNested levels (f.dump style)).Restores (f.EveryCondition style.Keeps) f := by
  unfold EveryCondition
  -- The items of a list are read with fewer levels, and their dumps are less deep by more than that.
  induction hf generalizing levels with
  | @intro f own _ ih =>
    obtain ⟨⟨hconditions, hoptions⟩, hdefault⟩ := own
    have hinfo (more) (hmore) : (FieldInfo.load (f.info.dump style ++ more)).Restores
        (f.info.constraints.EveryCondition style.Keeps) f.info :=
      FieldInfo.restores_load more hconditions hdefault hmore
    obtain ⟨outer, rfl⟩ := Nat.exists_eq_succ_of_ne_zero
      (Nat.ne_of_gt (Nat.lt_of_lt_of_le f.depth_dump_pos hlevels))
    cases f with
    | plain info type =>
      let more := [("type", Json.str type.name)]
      rw [everywhere_plain, dump, loadNested_plain (info.get?_dump_append more (by decide))]
      exact ((hinfo more ⟨rfl, rfl⟩).map (plain · type)).under type.name
    | select info options =>
      let more := [("type", Json.str "select"), ("options", options.dump)]
      rw [everywhere_select, dump, loadNested_select (info.get?_dump_append more (by decide)),
        optional_of_get? (info.get?_dump_append more (by decide)),
        Options.load_dump (hoptions info options rfl)]
      exact (((hinfo more ⟨rfl, rfl⟩).map select).seq_ok options).under "select"
    | repeatable info title fields =>
      let item := ItemSchema.mk title fields
      let more := [("type", Json.str "repeatable"), ("itemSchema", item.dump style)]
      have hitem : (ItemSchema.loadNested outer (item.dump style)).Restores
          (∀ g ∈ fields, g.EveryCondition style.Keeps) item :=
        ItemSchema.restores_loadNested (fun g hg inner hinner => ih g hg hinner)
          (Nat.le_of_lt_succ (Nat.lt_of_lt_of_le (depth_item_lt info title fields) hlevels))
      rw [everywhere_repeatable, dump_repeatable,
        loadNested_repeatable (info.get?_dump_append more (by decide)),
        optional_of_get? (info.get?_dump_append more (by decide))]
      exact (((hinfo more ⟨rfl, rfl⟩).map fun info (item : ItemSchema) =>
        repeatable info item.title item.fields).seq (hitem.under "itemSchema")).under "repeatable"

theorem Field.restores_load {f : Field} (hf : f.IsRestorable style) :
    (load (f.dump style)).Restores (f.EveryCondition style.Keeps) f :=
  restores_loadNested hf (Nat.le_refl _)

theorem ItemSchema.restores_load {item : ItemSchema} (h : ∀ f ∈ item.fields, f.IsRestorable style) :
    (load (item.dump style)).Restores (∀ f ∈ item.fields, f.EveryCondition style.Keeps) item :=
  restores_loadNested (fun f hf _ => Field.restores_loadNested (h f hf)) (Nat.le_refl _)

/-! ## Sections -/

/-- The record of a section with the parts, whether or not they go together. -/
def Section.written (style : Style) (id title : String) (fields : List Field) (repeatable : Bool)
    (key : Option String) (constraints : Constraints) (item : Option ItemSchema) :
    List (String × Json) :=
  [("id", .str id), ("title", .str title), ("fields", .arr (fields.map (Field.dump style))),
    ("repeatable", .bool repeatable)]
    ++ part style "key" (ofOption .str key)
    ++ [("constraints", constraints.dump style)]
    ++ part style "itemSchema" (ofOption (ItemSchema.dump style) item)

theorem Section.dump_plain (id title : String) (constraints : Constraints) (key : Option String)
    (fields : List Field) : dump style ⟨id, title, constraints, .plain key fields⟩ =
      .obj (written style id title fields false key constraints none) := by
  rw [written, ← Field.dumpAll_eq_map]
  rfl

theorem Section.dump_repeatable (id title : String) (constraints : Constraints) (key : String)
    (item : ItemSchema) : dump style ⟨id, title, constraints, .repeatable key item⟩ =
      .obj (written style id title [] true (some key) constraints (some item)) := rfl

/-- What the record comes to is up to how its parts go together. -/
theorem Section.restores_written {id title : String} {fields : List Field} {repeatable : Bool}
    {key : Option String} {constraints : Constraints} {item : Option ItemSchema} {s : Section}
    (hconstraints : constraints.EveryCondition Condition.IsProper)
    (hfields : ∀ f ∈ fields, f.IsRestorable style)
    (hitem : ∀ i ∈ item, ∀ f ∈ i.fields, f.IsRestorable style)
    (hmake : ∀ v, make v id title fields repeatable key constraints item = .ok s) :
    (load (.obj (written style id title fields repeatable key constraints item))).Restores
      (((∀ f ∈ fields, f.EveryCondition style.Keeps) ∧ constraints.EveryCondition style.Keeps) ∧
        ∀ i ∈ item, ∀ f ∈ i.fields, f.EveryCondition style.Keeps) s := by
  rw [load, record]
  generalize hr : written style id title fields repeatable key constraints item = r
  have hparts : Fields.get? r "id" = some (.str id) ∧
      Fields.get? r "title" = some (.str title) ∧
      Fields.get? r "fields" = some (.arr (fields.map (Field.dump style))) ∧
      Fields.get? r "repeatable" = some (.bool repeatable) ∧
      HasPart style r "key" "key" (ofOption .str key) ∧
      Fields.get? r "constraints" = some (constraints.dump style) ∧
      HasPart style r "itemSchema" "item_schema" (ofOption (ItemSchema.dump style) item) := by
    simp [written, HasPart, ← hr, Fields.get?_append, Fields.get?_cons, get?_part_of_ne]
  obtain ⟨hid, htitle, hfields', hrepeatable, hkey, hconstraints', hitem'⟩ := hparts
  dsimp only
  rw [required_of_get? hid, optional_of_get? htitle, optional_of_get? hfields',
    optional_of_get? hrepeatable, optional_eq_ok hkey (fun _ => rfl) text_str,
    optional_of_get? hconstraints']
  have hlist := (restores_list fun f hf => Field.restores_load (hfields f hf)).under "fields"
  have hrules : (Constraints.load (constraints.dump style)).Restores
      (constraints.EveryCondition style.Keeps) constraints := Constraints.restores_load hconstraints
  have hitems := restores_nullable hitem' (fun _ => rfl) fun i hi =>
    ItemSchema.restores_load (hitem i hi)
  have hmade := ((((hlist.apply (make (.obj r) id title)).seq_ok repeatable).seq_ok key).seq
    (hrules.under "constraints")).seq hitems
  exact hmade.andThen (hmake (.obj r))

theorem Section.restores_load {s : Section} (hproper : s.IsProper)
    (hdefaults : ∀ f ∈ s.fields, f.Everywhere fun g => style.value g.info.default = g.info.default) :
    (load (s.dump style)).Restores (s.EveryCondition style.Keeps) s := by
  obtain ⟨hconstraints, hkey, hfields⟩ := hproper
  have hall (f) (hf : f ∈ s.fields) : f.IsRestorable style := (hfields f hf).and (hdefaults f hf)
  obtain ⟨id, title, constraints, body⟩ := s
  cases body with
  | plain key fields =>
    rw [dump_plain]
    refine (restores_written hconstraints hall (by simp) fun v => rfl).congr ?_
    simp [Section.EveryCondition, Section.fields, and_comm]
  | repeatable key item =>
    rw [dump_repeatable]
    have hitem : ∀ i ∈ some item, ∀ f ∈ i.fields, f.IsRestorable style := by
      rintro _ ⟨⟩
      exact hall
    refine (restores_written hconstraints (by simp) hitem fun v => ?_).congr ?_
    · simp [make, hkey key item rfl]
    · simp [Section.EveryCondition, Section.fields]

/-- A schema that was read is given back, but for conditions whose value was left out. -/
theorem FormSchema.restores_load {s : FormSchema} (hproper : s.IsProper)
    (hdefaults : s.EveryField fun f => style.value f.info.default = f.info.default) :
    (load (s.dump style)).Restores (s.EveryCondition style.Keeps) s := by
  rw [dump, load, record]
  have hsections := (restores_list fun part hpart =>
    Section.restores_load (hproper part hpart) (hdefaults part hpart)).under "sections"
  exact hsections.apply (mk s.version s.title)

end FlexForm
