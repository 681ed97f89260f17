import FlexForm.Form.Check
import FlexForm.Proofs.Path.Reading

/-! # Forms whose check always comes to an end

Checking reads form data at the keys of fields and sections and at the paths of conditions, and
stops only where such a path stops. Form data is an object, so paths at the top may start with any
segment; the items of lists may be of any kind.

* `Field.isSteady`, `Section.isSteady`, `FormSchema.isSteady`: the forms with open paths only.
* `FormSchema.check_error`: a check that stops meets a path that is not open.
* `FormSchema.isSteady_of_check`: a form with such a path stops for some form data.
-/

namespace FlexForm
set_option autoImplicit false

/-! ## Steady forms -/

/-- A condition is read from the object around the field, unless the field is required anyway. -/
def FieldInfo.isSteady (info : FieldInfo) : Bool :=
  info.required || info.constraints.requiredIf.all fun c => Path.isOpenInside c.path

mutual

def Field.isSteady : Field → Bool
  | .plain info _ | .select info _ => info.isSteady
  | .repeatable info _ fields => info.isSteady && Field.areSteady fields

/-- The fields of the items of a list, which are read from values of any kind. -/
def Field.areSteady : List Field → Bool
  | [] => true
  | f :: rest => Path.isOpen f.key && Field.isSteady f && Field.areSteady rest

end

def Section.isSteady (s : Section) : Bool :=
  match s.body with
  | .plain _ fields => fields.all fun f => Path.isOpenInside f.key && f.isSteady
  | .repeatable key item => Path.isOpenInside key && Field.areSteady item.fields

def FormSchema.isSteady (schema : FormSchema) : Bool := schema.sections.all Section.isSteady

/-! ## Faults of the check -/

variable {f : Field} {value : Option Json} {path : String} {scope item : Json} {items : List Json}
  {inside : List Json → Except PathFault (List Problem)} {fault : PathFault}

theorem Field.isRequired_error (h : f.isRequired value scope = .error fault) :
    f.info.isSteady = false ∧ ∃ e, fault = .index e := by
  unfold isRequired at h
  split at h
  next => cases h
  next hrequired =>
    split at h
    next condition _ hcondition =>
      rcases bind_eq_error_iff.1 h with h | ⟨found, -, h⟩
      · obtain ⟨hpath, hfault⟩ := Json.at?_obj_error h
        refine ⟨?_, hfault⟩
        rw [FieldInfo.isSteady, Bool.eq_false_iff.2 hrequired, show
          f.info.constraints.requiredIf = some condition from hcondition]
        exact hpath
      · cases found <;> cases h
    next => cases h

theorem Field.checkWith_error (h : f.checkWith value path scope inside = .error fault) :
    f.isRequired value scope = .error fault ∨
      ∃ items, value = some (.arr items) ∧ inside items = .error fault := by
  unfold checkWith at h
  rcases bind_eq_error_iff.1 h with h | ⟨required, -, h⟩
  · exact .inl h
  · split at h
    next => cases h
    next =>
      split at h
      next => cases h
      next v =>
        split at h
        next => cases h
        next =>
          split at h
          next items _ =>
            rcases bind_eq_error_iff.1 h with h | ⟨others, -, h⟩
            · exact .inr ⟨items, rfl, h⟩
            · cases h
          next => cases h

theorem Field.checkItems_error {checkItem : Json → String → Except PathFault (List Problem)}
    {index : ℕ} (h : checkItems checkItem path index items = .error fault) :
    ∃ item place, checkItem item place = .error fault := by
  induction items generalizing index with
  | nil => cases h
  | cons item rest ih =>
    rw [checkItems] at h
    rcases bind_eq_error_iff.1 h with h | ⟨first, -, h⟩
    · exact ⟨item, _, h⟩
    · rcases bind_eq_error_iff.1 h with h | ⟨others, -, h⟩
      · exact ih h
      · cases h

mutual

/-- The check of a field stops only at a path that is not open. -/
theorem Field.check_error {f : Field} {value : Option Json} {path : String} {scope : Json}
    (h : f.check value path scope = .error fault) :
    f.isSteady = false ∧ ∃ e, fault = .index e := by
  match f with
  | .plain info type | .select info options =>
    rw [check] at h
    rcases checkWith_error h with h | ⟨items, -, h⟩
    · exact isRequired_error h
    · cases h
  | .repeatable info title fields =>
    rw [check] at h
    rw [isSteady, Bool.and_eq_false_iff]
    rcases checkWith_error h with h | ⟨items, -, h⟩
    · obtain ⟨hinfo, hfault⟩ := isRequired_error h
      exact ⟨.inl hinfo, hfault⟩
    · obtain ⟨item, place, h⟩ := checkItems_error h
      obtain ⟨hfields, hfault⟩ := checkAll_error h
      exact ⟨.inr hfields, hfault⟩

theorem Field.checkAll_error {fields : List Field} {item : Json} {path : String}
    (h : checkAll fields item path = .error fault) :
    areSteady fields = false ∧ ∃ e, fault = .index e := by
  match fields with
  | [] => cases h
  | f :: rest =>
    rw [checkAll] at h
    rw [areSteady, Bool.and_eq_false_iff, Bool.and_eq_false_iff]
    rcases bind_eq_error_iff.1 h with h | ⟨value, -, h⟩
    · obtain ⟨hkey, hfault⟩ := Json.at?_error h
      exact ⟨.inl (.inl hkey), hfault⟩
    rcases bind_eq_error_iff.1 h with h | ⟨first, -, h⟩
    · obtain ⟨hfield, hfault⟩ := check_error h
      exact ⟨.inl (.inr hfield), hfault⟩
    rcases bind_eq_error_iff.1 h with h | ⟨others, -, h⟩
    · obtain ⟨hrest, hfault⟩ := checkAll_error h
      exact ⟨.inr hrest, hfault⟩
    · cases h

end

theorem Section.check_error {s : Section} {fields : List (String × Json)}
    (h : s.check (.obj fields) = .error fault) : s.isSteady = false ∧ ∃ e, fault = .index e := by
  cases hbody : s.body with
  | plain key members =>
    simp only [check, hbody] at h
    rw [isSteady, hbody]
    rcases bind_eq_error_iff.1 h with h | ⟨perField, -, h⟩
    · obtain ⟨f, hf, h⟩ := exists_of_mapM_error h
      rw [List.all_eq_false]
      rcases bind_eq_error_iff.1 h with h | ⟨value, -, h⟩
      · obtain ⟨hkey, hfault⟩ := Json.at?_obj_error h
        exact ⟨⟨f, hf, by rw [hkey]; exact Bool.false_ne_true⟩, hfault⟩
      · obtain ⟨hfield, hfault⟩ := Field.check_error h
        exact ⟨⟨f, hf, by rw [hfield, Bool.and_false]; exact Bool.false_ne_true⟩, hfault⟩
    · cases h
  | repeatable key item =>
    simp only [check, hbody] at h
    rw [isSteady, hbody]
    rcases bind_eq_error_iff.1 h with h | ⟨found, -, h⟩
    · obtain ⟨hkey, hfault⟩ := Json.at?_obj_error h
      exact ⟨Bool.and_eq_false_iff.2 (.inl hkey), hfault⟩
    · split at h
      next items =>
        rcases bind_eq_error_iff.1 h with h | ⟨others, -, h⟩
        · obtain ⟨v, place, h⟩ := Field.checkItems_error h
          obtain ⟨hfields, hfault⟩ := Field.checkAll_error h
          exact ⟨Bool.and_eq_false_iff.2 (.inr hfields), hfault⟩
        · cases h
      next => split at h <;> cases h

/-- The check of a form stops only at an index without a value in a path that is not open. -/
theorem FormSchema.check_error {schema : FormSchema} {fields : List (String × Json)}
    (h : schema.check (.obj fields) = .error fault) :
    schema.isSteady = false ∧ ∃ e, fault = .index e := by
  unfold check at h
  rcases bind_eq_error_iff.1 h with h | ⟨perSection, -, h⟩
  · obtain ⟨s, hs, h⟩ := exists_of_mapM_error h
    obtain ⟨hsteady, hfault⟩ := Section.check_error h
    exact ⟨List.all_eq_false.2 ⟨s, hs, Bool.eq_false_iff.1 hsteady⟩, hfault⟩
  · cases h

/-! ## Checks that come to an end -/

/-- The check of a field whose value is found in an object. -/
def Field.checkAt (f : Field) (data : Json) (path : String) : Except PathFault (List Problem) := do
  let value ← data.at? f.key
  f.check value path data

theorem Field.checkAll_cons (rest : List Field) :
    checkAll (f :: rest) item path = (do
      let first ← f.checkAt item s!"{path}.{f.key}"
      let others ← checkAll rest item path
      pure (first ++ others)) := by
  rw [checkAll, checkAt, bind_assoc]

theorem Field.isRequired_of_check (h : (f.check value path scope).isOk = true) :
    (f.isRequired value scope).isOk = true := by
  cases f <;> exact isOk_of_bind h

theorem Field.isRequired_filled {required : Bool} (hvalue : Json.isEmpty value = false)
    (h : f.isRequired value scope = .ok required) : required = false := by
  unfold isRequired at h
  split at h
  next =>
    cases h
    exact hvalue
  next =>
    split at h
    next =>
      obtain ⟨found, -, h⟩ := exists_of_bind_ok h
      cases found <;> cases h
      · rfl
      · rw [hvalue, Bool.and_false]
    next =>
      cases h
      rfl

/-- A list is not empty as a value, so its items are looked at. -/
theorem Field.inside_of_checkWith
    (h : (f.checkWith (some (.arr items)) path scope inside).isOk = true) :
    (inside items).isOk = true := by
  obtain ⟨required, hrequired, h⟩ := exists_of_isOk_bind h
  obtain rfl := isRequired_filled rfl hrequired
  exact isOk_of_bind h

theorem Field.isSteady_info
    (h : ∀ fields, ∃ value, (f.isRequired value (.obj fields)).isOk = true) :
    f.info.isSteady = true := by
  unfold isRequired at h
  unfold FieldInfo.isSteady
  cases hrequired : f.info.required with
  | true => rfl
  | false =>
    cases hcondition : f.info.constraints.requiredIf with
    | none => rfl
    | some condition =>
      refine Json.isOpenInside_of_at? fun fields => ?_
      obtain ⟨value, h⟩ := h fields
      simp only [hrequired, show f.constraints.requiredIf = some condition from hcondition] at h
      exact isOk_of_bind h

mutual

/-- A field whose check comes to an end in every object is steady. -/
theorem Field.isSteady_of_check {f : Field}
    (h : ∀ fields, ∃ path, (f.checkAt (.obj fields) path).isOk = true) : f.isSteady = true := by
  have hinfo : f.info.isSteady = true := isSteady_info fun fields => by
    obtain ⟨path, h⟩ := h fields
    obtain ⟨value, -, h⟩ := exists_of_isOk_bind h
    exact ⟨value, isRequired_of_check h⟩
  match f with
  | .plain info type | .select info options => exact hinfo
  | .repeatable info title fields =>
    refine Bool.and_eq_true_iff.2 ⟨hinfo, areSteady_of_checkAll fun item => ?_⟩
    -- Any value is an item of a list that stands at the key.
    obtain ⟨members, hitem⟩ := Json.exists_at?_eq info.key (.arr [item])
    obtain ⟨path, h⟩ := h members
    obtain ⟨value, hvalue, h⟩ := exists_of_isOk_bind h
    obtain rfl : some (Json.arr [item]) = value := Except.ok.inj (hitem.symm.trans hvalue)
    rw [check] at h
    exact ⟨_, isOk_of_bind (inside_of_checkWith h)⟩

theorem Field.areSteady_of_checkAll {fields : List Field}
    (h : ∀ item, ∃ path, (checkAll fields item path).isOk = true) : areSteady fields = true := by
  match fields with
  | [] => rfl
  | f :: rest =>
    have hfield (item) : ∃ path, (f.checkAt item path).isOk = true := by
      obtain ⟨path, h⟩ := h item
      rw [checkAll_cons] at h
      exact ⟨_, isOk_of_bind h⟩
    have hrest (item) : ∃ path, (checkAll rest item path).isOk = true := by
      obtain ⟨path, h⟩ := h item
      rw [checkAll_cons] at h
      obtain ⟨first, -, h⟩ := exists_of_isOk_bind h
      exact ⟨path, isOk_of_bind h⟩
    have hkey : Path.isOpen f.key = true := Json.isOpen_of_at? fun item => by
      obtain ⟨path, h⟩ := hfield item
      exact isOk_of_bind h
    rw [areSteady, hkey, isSteady_of_check fun fields => hfield (.obj fields),
      areSteady_of_checkAll hrest]
    rfl

end

theorem Section.isSteady_of_check {s : Section}
    (h : ∀ fields, (s.check (.obj fields)).isOk = true) : s.isSteady = true := by
  cases hbody : s.body with
  | plain key members =>
    simp only [check, hbody] at h
    rw [isSteady, hbody]
    refine List.all_eq_true.2 fun f hf => ?_
    have hfield (fields) : (f.checkAt (.obj fields) f.key).isOk = true :=
      isOk_of_mapM (isOk_of_bind (h fields)) f hf
    rw [Json.isOpenInside_of_at? fun fields => isOk_of_bind (hfield fields),
      Field.isSteady_of_check fun fields => ⟨f.key, hfield fields⟩]
    rfl
  | repeatable key item =>
    simp only [check, hbody] at h
    rw [isSteady, hbody]
    refine Bool.and_eq_true_iff.2 ⟨Json.isOpenInside_of_at? fun fields => isOk_of_bind (h fields),
      Field.areSteady_of_checkAll fun v => ?_⟩
    obtain ⟨fields, hitem⟩ := Json.exists_at?_eq key (.arr [v])
    obtain ⟨found, hfound, h⟩ := exists_of_isOk_bind (h fields)
    obtain rfl : some (Json.arr [v]) = found := Except.ok.inj (hitem.symm.trans hfound)
    have hitems : (Field.checkItems (Field.checkAll item.fields) key 0 [v]).isOk = true :=
      isOk_of_bind h
    exact ⟨_, isOk_of_bind hitems⟩

/-- A form whose check comes to an end for all form data is steady. -/
theorem FormSchema.isSteady_of_check {schema : FormSchema}
    (h : ∀ fields, (schema.check (.obj fields)).isOk = true) : schema.isSteady = true := by
  refine List.all_eq_true.2 fun s hs => Section.isSteady_of_check fun fields => ?_
  exact isOk_of_mapM (isOk_of_bind (h fields)) s hs

theorem FormSchema.isSteady_iff {schema : FormSchema} :
    schema.isSteady = true ↔ ∀ fields, ∃ problems, schema.check (.obj fields) = .ok problems := by
  constructor
  · intro hsteady fields
    cases h : schema.check (.obj fields) with
    | ok problems => exact ⟨problems, rfl⟩
    | error fault => exact absurd (hsteady.symm.trans (check_error h).1) Bool.false_ne_true.symm
  · intro h
    refine isSteady_of_check fun fields => ?_
    obtain ⟨problems, hproblems⟩ := h fields
    rw [hproblems]
    rfl

end FlexForm
