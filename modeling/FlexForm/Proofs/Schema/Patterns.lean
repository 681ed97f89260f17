import FlexForm.Proofs.Record.Stop
import FlexForm.Template

/-! # The patterns of a record

The patterns in the record of a template are read together with it. All but one kind of faulty
pattern is a complaint; a number of repetitions beyond the limit stops the reading.

* `Constraints.HasPattern`, `Field.HasPattern`, …, `Template.HasPattern`: the texts that the
  loaders take for patterns.
* `Template.stops_load`: reading stops exactly if one of these texts has too large a number.
-/

namespace FlexForm
set_option autoImplicit false

open Load

/-! ## Texts taken for patterns -/

def Constraints.HasPattern (source : String) (v : Json) : Prop :=
  Part "pattern" "pattern" v (.str source)

/-- Only fields of the known types are read, and only lists have items with fields. -/
inductive Field.HasPattern (source : String) : Json → Prop
  | own {v constraints : Json} {tag : String} (htag : v.get? "type" = some (.str tag))
      (hknown : tag ∈ Field.typeNames) (hpart : Part "constraints" "constraints" v constraints)
      (h : Constraints.HasPattern source constraints) : HasPattern source v
  | inner {v item fields f : Json} (htag : v.get? "type" = some (.str "repeatable"))
      (hitem : Part "itemSchema" "item_schema" v item)
      (hfields : Part "fields" "fields" item fields) (hf : Item fields f)
      (h : HasPattern source f) : HasPattern source v

def ItemSchema.HasPattern (source : String) (v : Json) : Prop :=
  ∃ fields, Part "fields" "fields" v fields ∧ ∃ f, Item fields f ∧ Field.HasPattern source f

/-- A section has fields of its own or an item, and its own constraints. -/
def Section.HasPattern (source : String) (v : Json) : Prop :=
  (∃ fields, Part "fields" "fields" v fields ∧ ∃ f, Item fields f ∧ Field.HasPattern source f) ∨
  (∃ c, Part "constraints" "constraints" v c ∧ Constraints.HasPattern source c) ∨
  (∃ item, Part "itemSchema" "item_schema" v item ∧ ItemSchema.HasPattern source item)

def FormSchema.HasPattern (source : String) (v : Json) : Prop :=
  ∃ sections, Part "sections" "sections" v sections ∧
    ∃ s, Item sections s ∧ Section.HasPattern source s

def Template.HasPattern (source : String) (v : Json) : Prop :=
  ∃ schema, Part "schema" "form_schema" v schema ∧ FormSchema.HasPattern source schema

/-- The pattern repeats something more often than can be counted. -/
def Pattern.IsHuge (source : String) : Prop := read source = .error .hugeRepeat

/-! ## Parts that never stop -/

variable {v : Json} {r : List (String × Json)}

@[simp] theorem Condition.not_stops_load : ¬ (Condition.load v).Stops := by
  have hvalue (w : Json) : ¬ (loadValue w).Stops := by
    cases w <;> simp [loadValue, loadValue.refuse]
  simp [load, stops_record, hvalue]

@[simp] theorem FieldOption.not_stops_load : ¬ (FieldOption.load v).Stops := by
  simp [load, stops_record]

@[simp] theorem Options.not_stops_load : ¬ (Options.load v).Stops := by
  have hplain : ¬ ((list text v).under "list[str]").Stops := by simp
  have hlabelled : ¬ ((list FieldOption.load v).under "list[FieldOption]").Stops := by simp
  unfold load
  split
  next => simp
  next h => exact absurd ⟨_, h⟩ hplain
  next => simp
  next => simp
  next h => exact absurd ⟨_, h⟩ hlabelled

@[simp] theorem Timestamp.not_stops_load : ¬ (Timestamp.load v).Stops := by
  cases v with
  | str s =>
    rw [load]
    split
    next => simp
    next =>
      split
      next => simp
      next => split <;> simp
  | int n =>
    unfold load
    dsimp only
    split <;> simp
  | float x =>
    rw [load]
    cases ofFloat x <;> simp
  | null | bool | arr | obj => simp [load]

/-! ## Constraints and fields -/

theorem Regex.stops_load :
    (Regex.load v).Stops ↔ ∃ source, v = .str source ∧ Pattern.IsHuge source := by
  unfold Pattern.IsHuge
  cases v with
  | str source =>
    rw [load, text_str, Checked.andThen]
    split
    next node h => simp [h]
    next h => simp [h]
    next fault hne h => simpa [h] using hne
  | null | bool | int | float | arr | obj => simp [load, text, Checked.andThen, Checked.fail]

theorem Regex.not_stops_load_null : ¬ (Regex.load .null).Stops := by
  rw [stops_load]
  rintro ⟨source, h, -⟩
  cases h

theorem Constraints.stops_load :
    (Constraints.load v).Stops ↔ ∃ source, HasPattern source v ∧ Pattern.IsHuge source := by
  have hparts : (Constraints.load v).Stops ↔
      ∃ w, Part "pattern" "pattern" v w ∧ (Regex.load w).Stops := by
    simp [load, stops_record, stops_nullable, Regex.not_stops_load_null, exists_obj_part]
  rw [hparts]
  constructor
  · rintro ⟨w, hpart, hstops⟩
    obtain ⟨source, rfl, hhuge⟩ := Regex.stops_load.1 hstops
    exact ⟨source, hpart, hhuge⟩
  · rintro ⟨source, hpart, hhuge⟩
    exact ⟨.str source, hpart, Regex.stops_load.2 ⟨source, rfl, hhuge⟩⟩

theorem FieldInfo.stops_load : (FieldInfo.load r).Stops ↔
    ∃ c, Part "constraints" "constraints" (.obj r) c ∧ (Constraints.load c).Stops := by
  simp [load, stops_nullable]

theorem ItemSchema.stops_loadNested (levels : Nat) :
    (ItemSchema.loadNested (levels + 1) v).Stops ↔ ∃ fields, Part "fields" "fields" v fields ∧
      ∃ f, Item fields f ∧ (Field.loadNested levels f).Stops := by
  simp [loadNested, stops_record, exists_obj_part]

theorem Field.mem_typeNames {tag : String} : tag ∈ typeNames ↔
    tag = "select" ∨ tag = "repeatable" ∨ (PlainType.names.lookup tag).isSome = true := by
  rw [List.lookup_isSome_iff]
  simp [typeNames, PlainType.names, or_assoc, or_comm, or_left_comm]

theorem Field.stops_loadNested (levels : Nat) :
    (Field.loadNested (levels + 1) v).Stops ↔
      ∃ tag, v.get? "type" = some (.str tag) ∧ tag ∈ typeNames ∧
        ((∃ c, Part "constraints" "constraints" v c ∧ (Constraints.load c).Stops) ∨
          tag = "repeatable" ∧ ∃ item, Part "itemSchema" "item_schema" v item ∧
            (ItemSchema.loadNested levels item).Stops) := by
  cases v with
  | obj r =>
    rw [loadNested, Json.get?]
    split
    next h => simp [h]
    next tag h =>
      simp only [h, Option.some.injEq, Json.str.injEq, exists_eq_left', mem_typeNames]
      by_cases hselect : tag = "select"
      · subst hselect
        simp [FieldInfo.stops_load]
      by_cases hrepeatable : tag = "repeatable"
      · subst hrepeatable
        simp [FieldInfo.stops_load]
      cases hplain : PlainType.names.lookup tag with
      | none => simp [hselect, hrepeatable]
      | some type => simp [hselect, hrepeatable, FieldInfo.stops_load]
    next other hne h =>
      simp only [h, Checked.not_stops_fail, false_iff]
      rintro ⟨tag, htag, -⟩
      cases htag
      exact hne tag rfl
  | null | bool | int | float | str | arr => simp [loadNested, Json.get?]

/-- A field stops the reading at a pattern that it has. -/
theorem Field.hasPattern_of_stops {levels : Nat} (h : (Field.loadNested levels v).Stops) :
    ∃ source, HasPattern source v ∧ Pattern.IsHuge source := by
  -- The item of a list and its fields take one level each.
  induction levels using Nat.strongRecOn generalizing v with
  | ind levels ih =>
    cases levels with
    | zero => simp [loadNested] at h
    | succ outer =>
      obtain ⟨tag, htag, hknown, hown | ⟨rfl, item, hitem, h⟩⟩ := (stops_loadNested outer).1 h
      · obtain ⟨c, hpart, hstops⟩ := hown
        obtain ⟨source, hsource, hhuge⟩ := Constraints.stops_load.1 hstops
        exact ⟨source, .own htag hknown hpart hsource, hhuge⟩
      · cases outer with
        | zero => simp [ItemSchema.loadNested] at h
        | succ inner =>
          obtain ⟨fields, hfields, f, hf, h⟩ := (ItemSchema.stops_loadNested inner).1 h
          obtain ⟨source, hsource, hhuge⟩ := ih inner (by omega) h
          exact ⟨source, .inner htag hitem hfields hf hsource, hhuge⟩

/-- Every field lies inside the value that is read, so its depth is enough. -/
theorem Field.stops_of_hasPattern {source : String} (h : HasPattern source v)
    (hhuge : Pattern.IsHuge source) {levels : Nat} (hlevels : v.depth ≤ levels) :
    (Field.loadNested levels v).Stops := by
  induction h generalizing levels with
  | own htag hknown hpart h =>
    have hdepth := hpart.depth_lt
    obtain ⟨outer, rfl⟩ := Nat.exists_eq_add_one.2 (by omega : 0 < levels)
    exact (stops_loadNested outer).2
      ⟨_, htag, hknown, .inl ⟨_, hpart, Constraints.stops_load.2 ⟨source, h, hhuge⟩⟩⟩
  | inner htag hitem hfields hf h ih =>
    have hdepth := hitem.depth_lt
    have hdepth' := hfields.depth_lt
    have hdepth'' := hf.depth_lt
    obtain ⟨outer, rfl⟩ := Nat.exists_eq_add_one.2 (by omega : 0 < levels)
    obtain ⟨inner, rfl⟩ := Nat.exists_eq_add_one.2 (by omega : 0 < outer)
    exact (stops_loadNested _).2 ⟨_, htag, by decide, .inr ⟨rfl, _, hitem,
      (ItemSchema.stops_loadNested inner).2 ⟨_, hfields, _, hf, ih (by omega)⟩⟩⟩

theorem Field.stops_load :
    (Field.load v).Stops ↔ ∃ source, HasPattern source v ∧ Pattern.IsHuge source := by
  constructor
  · exact hasPattern_of_stops
  · rintro ⟨source, h, hhuge⟩
    exact stops_of_hasPattern h hhuge (Nat.le_refl _)

/-! ## Sections and templates -/

theorem exists_huge_comm {p : Json → Prop} {has : String → Json → Prop} :
    (∃ w, p w ∧ ∃ source, has source w ∧ Pattern.IsHuge source) ↔
      ∃ source, (∃ w, p w ∧ has source w) ∧ Pattern.IsHuge source := by
  constructor
  · rintro ⟨w, hw, source, h, hhuge⟩
    exact ⟨source, ⟨w, hw, h⟩, hhuge⟩
  · rintro ⟨source, ⟨w, hw, h⟩, hhuge⟩
    exact ⟨w, hw, source, h, hhuge⟩

theorem ItemSchema.stops_load :
    (ItemSchema.load v).Stops ↔ ∃ source, HasPattern source v ∧ Pattern.IsHuge source := by
  unfold load HasPattern
  constructor
  · intro h
    cases hdepth : v.depth with
    | zero => simp [hdepth, loadNested] at h
    | succ levels =>
      rw [hdepth] at h
      obtain ⟨fields, hfields, f, hf, h⟩ := (stops_loadNested levels).1 h
      obtain ⟨source, hsource, hhuge⟩ := Field.hasPattern_of_stops h
      exact ⟨source, ⟨fields, hfields, f, hf, hsource⟩, hhuge⟩
  · rintro ⟨source, ⟨fields, hfields, f, hf, hsource⟩, hhuge⟩
    have hdepth := hfields.depth_lt
    have hdepth' := hf.depth_lt
    obtain ⟨levels, hlevels⟩ := Nat.exists_eq_add_one.2 (by omega : 0 < v.depth)
    rw [hlevels]
    exact (stops_loadNested levels).2
      ⟨fields, hfields, f, hf, Field.stops_of_hasPattern hsource hhuge (by omega)⟩

theorem ItemSchema.not_stops_load_null : ¬ (ItemSchema.load .null).Stops := by
  simp [load, Json.depth, loadNested, stops_record]

theorem Section.not_stops_make {id title : String} {fields : List Field} {repeatable : Bool}
    {key : Option String} {constraints : Constraints} {item : Option ItemSchema} :
    ¬ (make v id title fields repeatable key constraints item).Stops := by
  unfold make
  cases item <;> simp

theorem Section.stops_load :
    (Section.load v).Stops ↔ ∃ source, HasPattern source v ∧ Pattern.IsHuge source := by
  have hparts : (Section.load v).Stops ↔
      (∃ fields, Part "fields" "fields" v fields ∧
        ∃ f, Item fields f ∧ (Field.load f).Stops) ∨
      (∃ c, Part "constraints" "constraints" v c ∧ (Constraints.load c).Stops) ∨
      ∃ item, Part "itemSchema" "item_schema" v item ∧ (ItemSchema.load item).Stops := by
    rw [load, stops_record]
    refine (exists_congr fun r => and_congr_right fun _ =>
      Checked.stops_andThen_of_yields ?_).trans ?_
    · iterate 6 apply Checked.yields_seq
      exact Checked.yields_functor fun _ _ _ _ _ _ _ => not_stops_make
    · simp [stops_nullable, ItemSchema.not_stops_load_null, exists_obj_part, and_or_left,
        exists_or, or_assoc]
  rw [hparts]
  simp only [Field.stops_load, Constraints.stops_load, ItemSchema.stops_load, exists_huge_comm,
    Section.HasPattern, or_and_right, exists_or]

theorem FormSchema.stops_load :
    (FormSchema.load v).Stops ↔ ∃ source, HasPattern source v ∧ Pattern.IsHuge source := by
  have hparts : (FormSchema.load v).Stops ↔ ∃ sections, Part "sections" "sections" v sections ∧
      ∃ s, Item sections s ∧ (Section.load s).Stops := by
    simp [load, stops_record, exists_obj_part]
  rw [hparts]
  simp only [Section.stops_load, exists_huge_comm]
  rfl

/-- The record of a template stops the reading exactly if one of its patterns is huge. -/
theorem Template.stops_load :
    (Template.load v).Stops ↔ ∃ source, HasPattern source v ∧ Pattern.IsHuge source := by
  have hparts : (Template.load v).Stops ↔
      ∃ schema, Part "schema" "form_schema" v schema ∧ (FormSchema.load schema).Stops := by
    have hdescription (w : Json) : ¬ (nullableText w).Stops := by
      cases w <;> simp [nullableText]
    simp [load, stops_record, stops_nullable, exists_obj_part, hdescription]
  rw [hparts]
  simp only [FormSchema.stops_load, exists_huge_comm]
  rfl

end FlexForm
