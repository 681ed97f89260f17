import FlexForm.Proofs.Record.Restore
import FlexForm.Schema.Load

/-! # Properties of all fields of a schema

Lists have fields inside of fields. A property that holds everywhere holds of all of them; what the
loaders accept has some properties everywhere that the types do not say.

* `Field.inner`, `Field.Everywhere`: the fields inside of a field, at any depth.
* `FormSchema.EveryField`, `FormSchema.EveryCondition`: the same for a whole schema.
* `FormSchema.IsProper`, `FormSchema.yields_load`: what every schema that was read has.
-/

namespace FlexForm
set_option autoImplicit false

open Load Checked

/-! ## Fields inside of fields -/

/-- The fields of the items, if the field is a list. -/
def Field.inner : Field → List Field
  | .repeatable _ _ fields => fields
  | .plain _ _ | .select _ _ => []

/-- The property holds of the field, and of all fields inside of it. -/
inductive Field.Everywhere (p : Field → Prop) : Field → Prop
  | intro {f : Field} (own : p f) (inner : ∀ g ∈ f.inner, Everywhere p g) : Everywhere p f

section
variable {p q : Field → Prop} {f : Field}

theorem Field.everywhere_iff : f.Everywhere p ↔ p f ∧ ∀ g ∈ f.inner, g.Everywhere p := by
  constructor
  · rintro ⟨own, inner⟩
    exact ⟨own, inner⟩
  · rintro ⟨own, inner⟩
    exact ⟨own, inner⟩

@[simp] theorem Field.everywhere_plain {info : FieldInfo} {type : PlainType} :
    (plain info type).Everywhere p ↔ p (plain info type) :=
  everywhere_iff.trans (and_iff_left fun _ hg => absurd hg List.not_mem_nil)

@[simp] theorem Field.everywhere_select {info : FieldInfo} {options : Options} :
    (select info options).Everywhere p ↔ p (select info options) :=
  everywhere_iff.trans (and_iff_left fun _ hg => absurd hg List.not_mem_nil)

@[simp] theorem Field.everywhere_repeatable {info : FieldInfo} {title : String}
    {fields : List Field} : (repeatable info title fields).Everywhere p ↔
      p (repeatable info title fields) ∧ ∀ g ∈ fields, g.Everywhere p :=
  everywhere_iff

theorem Field.Everywhere.and (hp : f.Everywhere p) (hq : f.Everywhere q) :
    f.Everywhere fun g => p g ∧ q g := by
  induction hp with
  | intro own _ ih =>
    obtain ⟨own', inner'⟩ := hq
    exact ⟨⟨own, own'⟩, fun g hg => ih g hg (inner' g hg)⟩

theorem Field.Everywhere.mono (h : ∀ g, p g → q g) (hp : f.Everywhere p) : f.Everywhere q := by
  induction hp with
  | intro own _ ih => exact ⟨h _ own, ih⟩

end

def Section.fields (s : Section) : List Field :=
  match s.body with
  | .plain _ fields => fields
  | .repeatable _ item => item.fields

def FormSchema.EveryField (p : Field → Prop) (s : FormSchema) : Prop :=
  ∀ part ∈ s.sections, ∀ f ∈ part.fields, f.Everywhere p

def Constraints.EveryCondition (p : Condition → Prop) (c : Constraints) : Prop :=
  ∀ condition ∈ c.requiredIf, p condition

/-- The property holds of the conditions of the field and of all fields inside of it. -/
def Field.EveryCondition (p : Condition → Prop) (f : Field) : Prop :=
  f.Everywhere fun g => g.constraints.EveryCondition p

def Section.EveryCondition (p : Condition → Prop) (s : Section) : Prop :=
  s.constraints.EveryCondition p ∧ ∀ f ∈ s.fields, f.EveryCondition p

/-- The property holds of the conditions of all sections and fields. -/
def FormSchema.EveryCondition (p : Condition → Prop) (s : FormSchema) : Prop :=
  ∀ part ∈ s.sections, part.EveryCondition p

/-! ## What is read -/

/-- Conditions compare with scalars. -/
def Condition.IsProper (c : Condition) : Prop := c.value.isContainer = false

/-- An empty list of options counts as one without labels. -/
def Options.IsProper (o : Options) : Prop := o ≠ .labelled []

def Field.IsProper (f : Field) : Prop :=
  f.constraints.EveryCondition Condition.IsProper ∧
    ∀ info options, f = .select info options → options.IsProper

/-- A list has a key. -/
def Section.IsProper (s : Section) : Prop :=
  s.constraints.EveryCondition Condition.IsProper ∧
    (∀ key item, s.body = .repeatable key item → key ≠ "") ∧
    ∀ f ∈ s.fields, f.Everywhere Field.IsProper

def FormSchema.IsProper (s : FormSchema) : Prop := ∀ part ∈ s.sections, part.IsProper

theorem Condition.yields_loadValue (v : Json) :
    (loadValue v).Yields fun w => w.isContainer = false := by
  cases v with
  | arr | obj => exact yields_refused _
  | null | bool | int | float | str => exact yields_ok rfl

theorem Condition.yields_load (v : Json) : (load v).Yields IsProper := by
  refine yields_record (fun r => ?_) v
  exact (yields_functor fun _ _ hvalue => hvalue).seq (yields_required yields_loadValue)

theorem Constraints.yields_load (v : Json) :
    (load v).Yields fun c => c.EveryCondition Condition.IsProper := by
  refine yields_record (fun r => ?_) v
  refine Yields.seq ?_ (yields_optional (yields_nullable Condition.yields_load) ?_)
  · iterate 5 apply yields_seq
    exact yields_functor fun _ _ _ _ _ _ _ hcondition => hcondition
  · exact fun condition h => nomatch h

/-- The empty list is read as options without labels, so labelled options are not empty. -/
theorem Options.yields_load (v : Json) : (load v).Yields IsProper := by
  intro options h
  unfold load at h
  split at h
  next =>
    cases h
    exact nofun
  next => cases h
  next refusal labelled hplain hlabelled =>
    cases h
    rintro ⟨⟩
    cases v with
    | arr items =>
      have hlength := length_of_list (ok_of_under hlabelled)
      cases List.length_eq_zero_iff.1 hlength.symm
      cases hplain
    | null | bool | int | float | str | obj => cases hlabelled
  next => cases h
  next => cases h

theorem FieldInfo.yields_load (r : List (String × Json)) :
    (load r).Yields fun i => i.constraints.EveryCondition Condition.IsProper := by
  refine Yields.seq ?_ (yields_optional Constraints.yields_load ?_)
  · iterate 5 apply yields_seq
    exact yields_functor fun _ _ _ _ _ _ _ hconstraints => hconstraints
  · exact fun condition h => nomatch h

theorem ItemSchema.yields_loadNested {levels : ℕ}
    (h : ∀ v, (Field.loadNested levels v).Yields fun f => f.Everywhere Field.IsProper) (v : Json) :
    (loadNested (levels + 1) v).Yields fun i => ∀ f ∈ i.fields, f.Everywhere Field.IsProper := by
  rw [loadNested]
  refine yields_record (fun r => ?_) v
  refine Yields.seq (yields_functor fun _ _ hfields => hfields)
    (yields_optional (yields_list h) ?_)
  exact fun f hf => absurd hf List.not_mem_nil

section
variable {r : List (String × Json)}

theorem Field.yields_plain (type : PlainType) :
    ((fun info => Field.plain info type) <$> FieldInfo.load r).Yields
      fun f => f.Everywhere IsProper := by
  refine (FieldInfo.yields_load r).map fun info hinfo => .intro ⟨hinfo, ?_⟩ nofun
  intro info' options h
  cases h

theorem Field.yields_select :
    (Field.select <$> FieldInfo.load r <*>
      optional r "options" "options" Options.load (.plain [])).Yields
      fun f => f.Everywhere IsProper := by
  have hoptions : (optional r "options" "options" Options.load (.plain [])).Yields
      Options.IsProper := by
    refine yields_optional Options.yields_load ?_
    intro h
    cases h
  refine Yields.seq ((FieldInfo.yields_load r).map fun info hinfo options hproper => ?_) hoptions
  refine .intro ⟨hinfo, ?_⟩ nofun
  intro info' options' h
  cases h
  exact hproper

theorem Field.yields_repeatable {load : Loader ItemSchema}
    (h : ∀ v, (load v).Yields fun i => ∀ f ∈ i.fields, f.Everywhere IsProper) :
    ((fun info (item : ItemSchema) => Field.repeatable info item.title item.fields) <$>
      FieldInfo.load r <*> optional r "itemSchema" "item_schema" load {}).Yields
      fun f => f.Everywhere IsProper := by
  have hitem : (optional r "itemSchema" "item_schema" load {}).Yields
      fun i => ∀ f ∈ i.fields, f.Everywhere IsProper :=
    yields_optional h fun f hf => absurd hf List.not_mem_nil
  refine Yields.seq ((FieldInfo.yields_load r).map fun info hinfo item hinner =>
    .intro ⟨hinfo, ?_⟩ hinner) hitem
  intro info' options h
  cases h

end

theorem Field.yields_loadNested (levels : ℕ) (v : Json) :
    (Field.loadNested levels v).Yields fun f => f.Everywhere IsProper := by
  -- The item of a list and its fields take one level each.
  induction levels using Nat.strongRecOn generalizing v with
  | ind levels ih =>
    cases levels with
    | zero =>
      rw [loadNested]
      exact yields_fail _ v
    | succ outer =>
      have hitem (w : Json) : (ItemSchema.loadNested outer w).Yields
          fun i => ∀ f ∈ i.fields, f.Everywhere IsProper := by
        cases outer with
        | zero =>
          rw [ItemSchema.loadNested]
          exact yields_fail _ w
        | succ inner => exact ItemSchema.yields_loadNested (ih inner (by omega)) w
      cases v with
      | obj r =>
        rw [loadNested]
        split
        next => exact yields_fail _ _
        next tag _ =>
          dsimp only
          by_cases hselect : (tag == "select") = true
          · rw [if_pos hselect]
            exact yields_select.under tag
          rw [if_neg hselect]
          by_cases hrepeatable : (tag == "repeatable") = true
          · rw [if_pos hrepeatable]
            exact (yields_repeatable hitem).under tag
          rw [if_neg hrepeatable]
          cases PlainType.names.lookup tag with
          | none => exact yields_fail _ _
          | some type => exact (yields_plain type).under tag
        next => exact yields_fail _ _
      | null | bool | int | float | str | arr =>
        simp only [loadNested]
        exact yields_fail _ _

theorem ItemSchema.yields_load (v : Json) :
    (load v).Yields fun i => ∀ f ∈ i.fields, f.Everywhere Field.IsProper := by
  unfold load
  cases v.depth with
  | zero => exact yields_fail _ v
  | succ levels => exact yields_loadNested (Field.yields_loadNested levels) v

theorem Section.yields_make {v : Json} {id title : String} {fields : List Field}
    {repeatable : Bool} {key : Option String} {constraints : Constraints} {item : Option ItemSchema}
    (hfields : ∀ f ∈ fields, f.Everywhere Field.IsProper)
    (hconstraints : constraints.EveryCondition Condition.IsProper)
    (hitem : ∀ i ∈ item, ∀ f ∈ i.fields, f.Everywhere Field.IsProper) :
    (make v id title fields repeatable key constraints item).Yields IsProper := by
  unfold make
  split
  next =>
    split
    next => exact yields_fail _ v
    next hkey =>
      split
      next => exact yields_fail _ v
      next i =>
        split
        next => exact yields_fail _ v
        next =>
          refine yields_ok ⟨hconstraints, ?_, hitem i rfl⟩
          rintro _ _ ⟨⟩
          simpa using hkey
  next =>
    split
    next => exact yields_fail _ v
    next => exact yields_ok ⟨hconstraints, nofun, hfields⟩

theorem Section.yields_load (v : Json) : (load v).Yields IsProper := by
  refine yields_record (fun r => ?_) v
  refine Yields.andThen (q := fun s => s.Yields IsProper) ?_ fun _ hs => hs
  have hfields : (optional r "fields" "fields" (list Field.load) []).Yields
      fun fs => ∀ f ∈ fs, f.Everywhere Field.IsProper :=
    yields_optional (yields_list fun w => Field.yields_loadNested w.depth w)
      fun f hf => absurd hf List.not_mem_nil
  have hconstraints : (optional r "constraints" "constraints" Constraints.load {}).Yields
      fun c => c.EveryCondition Condition.IsProper :=
    yields_optional Constraints.yields_load nofun
  have hitem : (optional r "itemSchema" "item_schema" (nullable ItemSchema.load) none).Yields
      fun item => ∀ i ∈ item, ∀ f ∈ i.fields, f.Everywhere Field.IsProper :=
    yields_optional (yields_nullable ItemSchema.yields_load) nofun
  refine Yields.seq (Yields.seq (yields_seq (yields_seq (Yields.seq (yields_seq
    (yields_functor ?_)) hfields))) hconstraints) hitem
  exact fun id title fields hfields repeatable key constraints hconstraints item hitem =>
    yields_make hfields hconstraints hitem

theorem FormSchema.yields_load (v : Json) : (load v).Yields IsProper := by
  refine yields_record (fun r => ?_) v
  refine Yields.seq ?_ (yields_optional (yields_list Section.yields_load) ?_)
  · exact yields_seq (yields_functor fun _ _ _ hsections => hsections)
  · exact fun part hpart => absurd hpart List.not_mem_nil

end FlexForm
