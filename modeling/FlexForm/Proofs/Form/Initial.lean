import FlexForm.Proofs.Form.Occurrences
import FlexForm.Proofs.Path.Several

/-! # Initial form data

The data with which a form starts is written key by key, section after section. When no key leads
through another one, every default is found at its key at the end, and every list has its items. It
comes to an end unless a key has an index to which no list grows.

* `Section.Writes`: what a section writes.
* `FormSchema.KeysApart`, `FormSchema.KeysBounded`: forms whose keys do not meet, or have bounded
  indices.
* `FormSchema.Carries`: data with all defaults, whose lists have the numbers of items asked for.
* `FormSchema.defaults_carry`: the initial data of such forms.
-/

namespace FlexForm
set_option autoImplicit false

open FlexForm.Path FlexForm.Json

/-! ## What is written -/

/-- The defaults of fields at their keys; a null default is none. -/
def Field.writes (fields : List Field) : List (String × Json) :=
  (fields.filter fun f => !f.info.default.isNull).map fun f => (f.key, f.info.default)

theorem Field.fill_eq_writeAll (data : Json) (fields : List Field) :
    Field.fill data fields = data.writeAll (Field.writes fields) := by
  induction fields generalizing data with
  | nil => rfl
  | cons f fields ih =>
    unfold fill at ih ⊢
    rw [List.foldlM_cons, writes, List.filter_cons]
    cases hnull : f.info.default.isNull with
    | true =>
      rw [if_pos rfl, if_neg (by simp)]
      exact ih data
    | false =>
      rw [if_neg Bool.false_ne_true, if_pos (by simp), List.map_cons, writeAll_cons]
      exact bind_congr ih

/-- The fields with a default read it at their keys. -/
def Field.Default (fields : List Field) (data : Json) : Prop :=
  ∀ f ∈ fields, f.info.default.isNull = false → data.at? f.key = .ok (some f.info.default)

/-- The number of items with which a list starts. -/
def Section.startCount (s : Section) : ℕ := (s.constraints.minItems.getD 0).toNat

/-- What a section writes: the defaults of its fields, or a list of items with theirs. -/
inductive Section.Writes (s : Section) : List (String × Json) → Prop
  | plain {key : Option String} {fields : List Field} (hbody : s.body = .plain key fields) :
      Writes s (Field.writes fields)
  | repeatable {key : String} {item : ItemSchema} {items : List Json}
      (hbody : s.body = .repeatable key item) (hcount : items.length = s.startCount)
      (hitems : ∀ v ∈ items, Field.fill (.obj []) item.fields = .ok v) :
      Writes s [(key, .arr items)]

section
variable {s : Section} {data after : Json} {fields : List (String × Json)}

theorem Section.exists_writes (h : s.fill data = .ok after) :
    ∃ writes, s.Writes writes ∧ data.writeAll writes = .ok after := by
  cases hbody : s.body with
  | plain key members =>
    simp only [fill, hbody] at h
    exact ⟨_, .plain hbody, (Field.fill_eq_writeAll data members) ▸ h⟩
  | repeatable key item =>
    simp only [fill, hbody] at h
    obtain ⟨items, hitems, h⟩ := exists_of_bind_ok h
    refine ⟨[(key, .arr items)], .repeatable hbody ?_ ?_, ?_⟩
    · rw [← (forall₂_of_mapM_ok hitems).length_eq, List.length_replicate, startCount]
    · intro v hv
      obtain ⟨-, -, hv⟩ := (mem_of_mapM_ok hitems).1 hv
      exact hv
    · rw [writeAll_cons, h]
      rfl

theorem exists_writes_of_foldlM {sections : List Section}
    (h : sections.foldlM (fun data s => s.fill data) data = .ok after) :
    ∃ writes, List.Forall₂ Section.Writes sections writes ∧
      data.writeAll writes.flatten = .ok after := by
  induction sections generalizing data with
  | nil => exact ⟨[], .nil, h⟩
  | cons s sections ih =>
    rw [List.foldlM_cons] at h
    obtain ⟨middle, hmiddle, h⟩ := exists_of_bind_ok h
    obtain ⟨first, hfirst, hwrite⟩ := Section.exists_writes hmiddle
    obtain ⟨others, hothers, h⟩ := ih h
    refine ⟨first :: others, .cons hfirst hothers, ?_⟩
    rw [List.flatten_cons, writeAll_append, hwrite]
    exact h

end

/-! ## Keys -/

/-- The keys at which a section keeps its data. -/
def Section.keys (s : Section) : List String :=
  match s.body with
  | .plain _ fields => fields.map Field.key
  | .repeatable key _ => [key]

def FormSchema.keys (schema : FormSchema) : List String := schema.sections.flatMap Section.keys

/-- No key of a section leads through another one, and no key of an item through another one of the
item. -/
structure FormSchema.KeysApart (schema : FormSchema) : Prop where
  sections : AreApart schema.keys
  items : ∀ s ∈ schema.sections, ∀ key item, s.body = .repeatable key item →
    AreApart (item.fields.map Field.key)

/-- What a section writes has bounded indices, the items only if there are some. -/
def Section.keysBounded (s : Section) : Bool :=
  match s.body with
  | .plain _ fields => (Field.writes fields).all fun w => isBoundedInside w.1
  | .repeatable key item =>
    isBoundedInside key &&
      (s.startCount == 0 || (Field.writes item.fields).all fun w => isBoundedInside w.1)

def FormSchema.KeysBounded (schema : FormSchema) : Prop :=
  ∀ s ∈ schema.sections, s.keysBounded = true

instance (schema : FormSchema) : Decidable schema.KeysBounded :=
  inferInstanceAs (Decidable (∀ s ∈ schema.sections, s.keysBounded = true))

theorem Field.keys_writes_sublist (fields : List Field) :
    ((Field.writes fields).map Prod.fst).Sublist (fields.map Field.key) := by
  rw [writes, List.map_map]
  exact List.filter_sublist.map Field.key

theorem keys_sublist {sections : List Section} {writes : List (List (String × Json))}
    (h : List.Forall₂ Section.Writes sections writes) :
    (writes.flatten.map Prod.fst).Sublist (sections.flatMap Section.keys) := by
  induction h with
  | nil => exact List.Sublist.refl _
  | @cons s w sections writes hs _ ih =>
    rw [List.flatten_cons, List.map_append, List.flatMap_cons]
    refine List.Sublist.append ?_ ih
    cases hs with
    | plain hbody =>
      rw [Section.keys, hbody]
      exact Field.keys_writes_sublist _
    | repeatable hbody =>
      rw [Section.keys, hbody]
      exact List.Sublist.refl _

/-! ## The data comes to be -/

theorem Field.exists_filledItems {fields : List Field} {count : ℕ}
    (h : count = 0 ∨ ∀ w ∈ Field.writes fields, isBoundedInside w.1 = true) :
    ∃ items, (List.replicate count ()).mapM (fun _ => Field.fill (.obj []) fields) = .ok items := by
  induction count with
  | zero => exact ⟨[], rfl⟩
  | succ count ih =>
    have hbounded := h.resolve_left count.succ_ne_zero
    obtain ⟨items, hitems⟩ := ih (.inr hbounded)
    obtain ⟨more, hmore⟩ : ∃ more, Field.fill (.obj []) fields = .ok (.obj more) := by
      rw [Field.fill_eq_writeAll]
      exact exists_writeAll hbounded
    exact ⟨.obj more :: items, by rw [List.replicate_succ, List.mapM_cons, hitems, hmore]; rfl⟩

theorem Section.exists_fill {s : Section} {fields : List (String × Json)}
    (h : s.keysBounded = true) : ∃ more, s.fill (.obj fields) = .ok (.obj more) := by
  unfold keysBounded at h
  cases hbody : s.body with
  | plain key members =>
    rw [hbody, List.all_eq_true] at h
    simp only [fill, hbody, Field.fill_eq_writeAll]
    exact exists_writeAll h
  | repeatable key item =>
    rw [hbody, Bool.and_eq_true, Bool.or_eq_true, beq_iff_eq, List.all_eq_true] at h
    obtain ⟨hkey, hitem⟩ := h
    obtain ⟨items, hitems⟩ := Field.exists_filledItems hitem
    obtain ⟨after, hafter⟩ : ∃ after, (obj fields).assigned key (.arr items) = .ok after :=
      exists_assigned hkey
    obtain ⟨inner, rfl⟩ := exists_obj_of_assigned hafter
    rw [startCount] at hitems
    refine ⟨inner, ?_⟩
    simp only [fill, hbody, hitems]
    exact hafter

theorem FormSchema.exists_defaults {schema : FormSchema} (h : schema.KeysBounded) :
    ∃ fields, schema.defaults = .ok (.obj fields) := by
  unfold defaults
  unfold KeysBounded at h
  generalize schema.sections = sections at h ⊢
  generalize ([] : List (String × Json)) = fields
  induction sections generalizing fields with
  | nil => exact ⟨fields, rfl⟩
  | cons s sections ih =>
    obtain ⟨hs, hsections⟩ := List.forall_mem_cons.1 h
    obtain ⟨more, hmore⟩ : ∃ more, s.fill (.obj fields) = .ok (.obj more) := Section.exists_fill hs
    rw [List.foldlM_cons, hmore]
    exact ih hsections more

/-! ## Where problems can be -/

mutual

theorem Field.prefix_of_mem_occurrences {f : Field} {value : Option Json} {path : String}
    {scope : Json} {o : Occurrence} (h : o ∈ f.occurrences value path scope) :
    segments path <+: segments o.path := by
  match f with
  | .plain info type | .select info options =>
    rw [occurrences, List.mem_singleton] at h
    rw [h]
    exact List.prefix_rfl
  | .repeatable info title fields =>
    rw [occurrences, List.mem_cons, List.mem_flatMap] at h
    obtain rfl | ⟨item, -, h⟩ := h
    · exact List.prefix_rfl
    · refine List.IsPrefix.trans ?_ (prefix_of_mem_occurrencesAll h)
      rw [segments_item]
      exact List.prefix_append _ _

theorem Field.prefix_of_mem_occurrencesAll {fields : List Field} {item : Json} {path : String}
    {o : Occurrence} (h : o ∈ occurrencesAll fields item path) :
    segments path <+: segments o.path := by
  match fields with
  | [] =>
    rw [occurrencesAll] at h
    cases h
  | f :: rest =>
    rw [occurrencesAll, List.mem_append] at h
    obtain h | h := h
    · refine List.IsPrefix.trans ?_ (prefix_of_mem_occurrences h)
      rw [segments_dot]
      exact List.prefix_append _ _
    · exact prefix_of_mem_occurrencesAll h

end

section
variable {s : Section} {schema : FormSchema} {data : Json} {key : String} {item : ItemSchema}
  {o : Occurrence}

theorem Section.exists_key_of_mem_occurrences (h : o ∈ s.occurrences data) :
    ∃ k ∈ s.keys, segments k <+: segments o.path := by
  unfold occurrences at h
  unfold keys
  cases hbody : s.body with
  | plain title fields =>
    simp only [hbody, List.mem_flatMap] at h
    obtain ⟨f, hf, h⟩ := h
    exact ⟨f.key, List.mem_map_of_mem hf, Field.prefix_of_mem_occurrences h⟩
  | repeatable key item =>
    refine ⟨key, List.mem_singleton_self key, ?_⟩
    simp only [hbody, List.mem_cons, List.mem_flatMap] at h
    obtain rfl | ⟨v, -, h⟩ := h
    · exact List.prefix_rfl
    · refine List.IsPrefix.trans ?_ (Field.prefix_of_mem_occurrencesAll h)
      rw [segments_item]
      exact List.prefix_append _ _

/-- What stands inside of an item is not at the path of its list. -/
theorem Section.eq_list_of_mem_occurrences (hbody : s.body = .repeatable key item)
    (h : o ∈ s.occurrences data) (hpath : o.path = key) : o = .list s (data.found? key) key := by
  simp only [occurrences, hbody, List.mem_cons, List.mem_flatMap] at h
  obtain h | ⟨v, -, h⟩ := h
  · exact h
  · have hle := (Field.prefix_of_mem_occurrencesAll h).length_le
    rw [hpath, segments_item, List.length_append, List.length_singleton] at hle
    omega

theorem FormSchema.eq_of_keys {other : Section} {k k' : String} (h : AreApart schema.keys)
    (hs : s ∈ schema.sections) (hother : other ∈ schema.sections) (hk : k ∈ s.keys)
    (hk' : k' ∈ other.keys) (hbelow : segments k <+: segments k') : s = other := by
  by_contra hne
  have hsections : schema.sections.Pairwise fun a b => ∀ x ∈ a.keys, ∀ y ∈ b.keys, Apart x y :=
    (List.pairwise_flatMap.1 h.apart).2
  have hsymm : Std.Symm fun a b : Section => ∀ x ∈ a.keys, ∀ y ∈ b.keys, Apart x y :=
    ⟨fun _ _ h x hx y hy => (h y hy x hx).symm⟩
  exact (hsections.forall hs hother hne k hk k' hk').1 hbelow

theorem FormSchema.eq_list_of_mem_occurrences (h : AreApart schema.keys)
    (hs : s ∈ schema.sections) (hbody : s.body = .repeatable key item)
    (ho : o ∈ schema.occurrences data) (hpath : o.path = key) :
    o = .list s (data.found? key) key := by
  obtain ⟨other, hother, ho⟩ := List.mem_flatMap.1 ho
  obtain ⟨k, hk, hbelow⟩ := Section.exists_key_of_mem_occurrences ho
  have hkey : key ∈ s.keys := by
    rw [Section.keys, hbody]
    exact List.mem_singleton_self key
  obtain rfl := eq_of_keys h hother hs hk hkey (hpath ▸ hbelow)
  exact Section.eq_list_of_mem_occurrences hbody ho hpath

theorem Reported.exists_occurrence {os : List Occurrence} {problems : List Problem} {p : Problem}
    (h : Reported data os problems) (hp : p ∈ problems) :
    ∃ o ∈ os, ∃ own, o.Reports data own ∧ p ∈ own := by
  obtain ⟨perOccurrence, hreports, rfl⟩ := h
  obtain ⟨own, hown, hp⟩ := List.mem_flatten.1 hp
  obtain ⟨o, ho, hreports⟩ := exists_of_forall₂ hreports.flip hown
  exact ⟨o, ho, own, hreports, hp⟩

theorem Section.tooMany_of_mem_listFlaws {items : List Json} {flaw : Flaw}
    (hcount : items.length = s.startCount) (h : flaw ∈ s.listFlaws (some (.arr items))) :
    ∃ max : Int, s.constraints.maxItems = some max ∧ max < s.startCount ∧
      flaw = .tooMany s.label max s.startCount := by
  rw [listFlaws, hcount, Constraints.countFlaws, List.mem_append] at h
  obtain h | h := h
  · -- no list has fewer items than it starts with
    split at h
    next n hmin =>
      have hle : n ≤ (s.startCount : Int) := by
        rw [startCount, hmin]
        exact Int.self_le_toNat n
      rw [if_neg (not_lt.2 hle)] at h
      cases h
    next => cases h
  · split at h
    next max hmax =>
      split at h
      next hlt => exact ⟨max, hmax, hlt, List.mem_singleton.1 h⟩
      next => cases h
    next => cases h

end

/-! ## The initial data -/

/-- The data has every default at its key, and its lists have the numbers of items with which they
start, so that checking finds at most too many of them. -/
structure FormSchema.Carries (schema : FormSchema) (data : Json) : Prop where
  fields : ∀ s ∈ schema.sections, ∀ key fields, s.body = .plain key fields →
    Field.Default fields data
  lists : ∀ s ∈ schema.sections, ∀ key item, s.body = .repeatable key item →
    ∃ items, data.at? key = .ok (some (.arr items)) ∧ items.length = s.startCount ∧
      ∀ v ∈ items, Field.Default item.fields v
  counts : ∀ s ∈ schema.sections, ∀ key item, s.body = .repeatable key item →
    ∀ problems, schema.check data = .ok problems → ∀ p ∈ problems, p.path = key →
      ∃ max : Int, s.constraints.maxItems = some max ∧ max < s.startCount ∧
        p.flaw = .tooMany s.label max s.startCount

theorem Field.default_of_writes {fields : List Field} {data : Json}
    (h : ∀ w ∈ writes fields, data.at? w.1 = .ok (some w.2)) : Default fields data := by
  intro f hf hnull
  refine h (f.key, f.info.default) (List.mem_map_of_mem (List.mem_filter.2 ⟨hf, ?_⟩))
  rw [hnull]
  rfl

theorem Field.default_of_fill {fields : List Field} {data : Json}
    (hapart : AreApart (fields.map Field.key)) (h : fill (.obj []) fields = .ok data) :
    Default fields data := by
  rw [fill_eq_writeAll] at h
  exact default_of_writes (at?_writeAll (hapart.sublist (keys_writes_sublist fields)) h)

section
variable {schema : FormSchema} {data : Json}

theorem FormSchema.exists_writes_of_defaults (h : AreApart schema.keys)
    (hdata : schema.defaults = .ok data) {s : Section} (hs : s ∈ schema.sections) :
    ∃ writes, s.Writes writes ∧ ∀ w ∈ writes, data.at? w.1 = .ok (some w.2) := by
  obtain ⟨writes, hwrites, hdata⟩ := exists_writes_of_foldlM hdata
  obtain ⟨own, hown, hs⟩ := exists_of_forall₂ hwrites hs
  refine ⟨own, hs, fun w hw => ?_⟩
  exact at?_writeAll (h.sublist (keys_sublist hwrites)) hdata w (List.mem_flatten_of_mem hown hw)

theorem FormSchema.exists_items (h : schema.KeysApart) (hdata : schema.defaults = .ok data)
    {s : Section} (hs : s ∈ schema.sections) {key : String} {item : ItemSchema}
    (hbody : s.body = .repeatable key item) :
    ∃ items, data.at? key = .ok (some (.arr items)) ∧ items.length = s.startCount ∧
      ∀ v ∈ items, Field.Default item.fields v := by
  obtain ⟨writes, hwrites, hfound⟩ := exists_writes_of_defaults h.sections hdata hs
  cases hwrites with
  | plain hplain =>
    rw [hbody] at hplain
    cases hplain
  | repeatable hlist hcount hitems =>
    rw [hbody] at hlist
    cases hlist
    refine ⟨_, hfound _ (List.mem_singleton_self _), hcount, fun v hv => ?_⟩
    exact Field.default_of_fill (h.items s hs key item hbody) (hitems v hv)

theorem FormSchema.carries_of_defaults (h : schema.KeysApart) (hdata : schema.defaults = .ok data) :
    schema.Carries data where
  fields := by
    intro s hs key fields hbody
    obtain ⟨writes, hwrites, hfound⟩ := exists_writes_of_defaults h.sections hdata hs
    cases hwrites with
    | plain hplain =>
      rw [hbody] at hplain
      cases hplain
      exact Field.default_of_writes hfound
    | repeatable hlist =>
      rw [hbody] at hlist
      cases hlist
  lists := by
    intro s hs key item hbody
    exact exists_items h hdata hs hbody
  counts := by
    intro s hs key item hbody problems hcheck p hp hpath
    obtain ⟨items, hitems, hcount, -⟩ := exists_items h hdata hs hbody
    obtain ⟨perSection, hperSection, hcheck⟩ := exists_of_bind_ok hcheck
    cases hcheck
    have hreported : Reported data (schema.occurrences data) perSection.flatten :=
      .mapM (fun _ _ _ hown => Section.check_reported hown) hperSection
    obtain ⟨o, ho, own, hreports, hp⟩ := hreported.exists_occurrence hp
    have hplace : o.path = key := (hreports.located p hp).symm.trans hpath
    obtain rfl := eq_list_of_mem_occurrences h.sections hs hbody ho hplace
    have hown := hreports.check
    rw [Json.found?_of_at? hitems] at hown
    cases hown
    obtain ⟨flaw, hflaw, rfl⟩ := List.mem_map.1 hp
    exact Section.tooMany_of_mem_listFlaws hcount hflaw

/-- The data with which a form starts carries every default, when no key leads through another one.
It comes to be when the indices in the keys are bounded. -/
theorem FormSchema.defaults_carry (h : schema.KeysApart) :
    (schema.KeysBounded → ∃ data, schema.defaults = .ok data) ∧
      ∀ data, schema.defaults = .ok data → schema.Carries data := by
  refine ⟨fun hbounded => ?_, fun data => carries_of_defaults h⟩
  obtain ⟨fields, hfields⟩ := exists_defaults hbounded
  exact ⟨_, hfields⟩

end

/-- A letter with its lines and two pages, of which it should have only one. -/
def letterForm : FormSchema where
  sections := [
    { id := "letter"
      body := .plain none [
        .plain { key := "letter.lines[1]", default := .str "Dear friend" } .text,
        .plain { key := "letter.lines[0]", default := .str "Hello" } .text,
        .plain { key := "letter.date" } .text] },
    { id := "pages"
      constraints := { minItems := some 2, maxItems := some 1 }
      body := .repeatable "pages" { fields := [
        .plain { key := "size[0]", default := .int 210 } .number] } }]

def letterData : Json := .obj [
  ("letter", .obj [("lines", .arr [.str "Hello", .str "Dear friend"])]),
  ("pages", .arr [.obj [("size", .arr [.int 210])], .obj [("size", .arr [.int 210])]])]

theorem FormSchema.keysApart_letterForm : letterForm.KeysApart where
  sections := ⟨by decide +kernel, by decide +kernel⟩
  items := by
    intro s hs key item hbody
    obtain rfl | rfl : s = letterForm.sections[0] ∨ s = letterForm.sections[1] := by
      simpa [letterForm] using hs
    · cases hbody
    · cases hbody
      exact ⟨by decide +kernel, by decide +kernel⟩

/-- The lines come in the order of their indices, and there is a page too many. -/
theorem FormSchema.defaults_carry_letter :
    letterForm.KeysApart ∧ (∃ data, letterForm.defaults = .ok data) ∧
      letterForm.defaults = .ok letterData ∧ letterForm.Carries letterData := by
  have hbounded : letterForm.KeysBounded := by decide +kernel
  have hdefaults : letterForm.defaults = .ok letterData := by rfl
  obtain ⟨hexists, hcarries⟩ := defaults_carry keysApart_letterForm
  exact ⟨keysApart_letterForm, hexists hbounded, hdefaults, hcarries _ hdefaults⟩

/-- No list grows to an index that is too large. -/
example : FormSchema.defaults { sections := [{ id := "s", body := .plain none [
    .plain { key := "a[99999999999999999999]", default := .str "x" } .text] }] } =
      .error .noIndex := by
  rfl

end FlexForm
