import FlexForm.Record.Loader

/-! # Where the reading of a record stops

All parts of a record are read, so the reading of the whole stops exactly if that of some part does,
whatever complaints there are about the others.

* `Checked.Stops`: reading stopped.
* `Load.Part`, `Load.Item`: the values that the loaders of records and lists come to.
* `Load.stops_optional`, `Load.stops_list`: a loader stops exactly at a part or item where its own
  loader stops.
-/

namespace FlexForm
set_option autoImplicit false

variable {α β : Type}

namespace Checked

def Stops (x : Checked α) : Prop := ∃ why, x = .stopped why

variable {x : Checked α} {y : Checked β}

@[simp] theorem stops_stopped (why : String) : (stopped why : Checked α).Stops := ⟨why, rfl⟩

@[simp] theorem not_stops_ok (a : α) : ¬ (ok a).Stops := by
  rintro ⟨_, h⟩
  cases h

@[simp] theorem not_stops_refused (e : List Complaint) : ¬ (refused e : Checked α).Stops := by
  rintro ⟨_, h⟩
  cases h

@[simp] theorem not_stops_fail (issue : Issue) (input : Json) :
    ¬ (fail issue input : Checked α).Stops :=
  not_stops_refused _

@[simp] theorem stops_zip : (zip x y).Stops ↔ x.Stops ∨ y.Stops := by
  cases x <;> cases y <;> simp [zip]

@[simp] theorem stops_map (f : α → β) : (map f x).Stops ↔ x.Stops := by
  cases x <;> simp [map]

@[simp] theorem stops_functor (f : α → β) : (f <$> x).Stops ↔ x.Stops := stops_map f

@[simp] theorem stops_seq (f : Checked (α → β)) : (f <*> x).Stops ↔ f.Stops ∨ x.Stops :=
  (stops_map _).trans stops_zip

@[simp] theorem stops_under (key : String) : (under key x).Stops ↔ x.Stops := by
  cases x <;> simp [under]

@[simp] theorem stops_ite (p : Prop) [Decidable p] (x y : Checked α) :
    (if p then x else y).Stops ↔ if p then x.Stops else y.Stops := by
  split <;> rfl

theorem stops_all {xs : List (Checked α)} : (all xs).Stops ↔ ∃ x ∈ xs, x.Stops := by
  induction xs with
  | nil => simp [all]
  | cons x rest ih => simp [all, ih]

/-- The value has the property, if there is one. -/
def Yields (p : α → Prop) (x : Checked α) : Prop := ∀ a, x = .ok a → p a

theorem yields_functor {p : β → Prop} {f : α → β} (h : ∀ a, p (f a)) : (f <$> x).Yields p := by
  intro b hb
  cases x with
  | ok a =>
    cases hb
    exact h a
  | refused e => cases hb
  | stopped why => cases hb

theorem yields_seq {p : β → Prop} {f : Checked (α → β)} (h : f.Yields fun g => ∀ a, p (g a)) :
    (f <*> x).Yields p := by
  intro b hb
  cases f with
  | ok g =>
    cases x with
    | ok a =>
      cases hb
      exact h g rfl a
    | refused e => cases hb
    | stopped why => cases hb
  | refused e => cases x <;> cases hb
  | stopped why => cases hb

theorem stops_andThen_of_yields {f : α → Checked β} (h : x.Yields fun a => ¬ (f a).Stops) :
    (x.andThen f).Stops ↔ x.Stops := by
  cases x with
  | ok a => simpa [andThen] using h a rfl
  | refused e => simp [andThen]
  | stopped why => simp [andThen]

end Checked

namespace Load

open Checked

/-! ## Single values -/

variable (v : Json)

@[simp] theorem not_stops_any : ¬ (any v).Stops := not_stops_ok v

@[simp] theorem not_stops_text : ¬ (text v).Stops := by
  cases v <;> simp [text]

@[simp] theorem not_stops_integer : ¬ (integer v).Stops := by
  cases v with
  | float x =>
    rw [integer]
    cases x.trunc? <;> simp
  | str s =>
    rw [integer]
    cases integerOf? s.toList <;> simp
  | null | bool | int | arr | obj => simp [integer]

@[simp] theorem not_stops_boolean : ¬ (boolean v).Stops := by
  cases v with
  | float x =>
    rw [boolean]
    cases x.trunc? <;> simp
  | null | bool | int | str | arr | obj => simp [boolean]

@[simp] theorem not_stops_oneOf (choices : List (String × α)) : ¬ (oneOf choices v).Stops := by
  unfold oneOf
  split
  next s => cases choices.lookup s <;> simp
  next => simp

@[simp] theorem not_stops_object : ¬ (object v).Stops := by
  cases v <;> simp [object]

/-! ## Parts and items -/

/-- The value is a record with the part under its name, or else under its other name. -/
def Part (name other : String) (v w : Json) : Prop :=
  ∃ r key, v = .obj r ∧ part? r name other = some (key, w)

def Item (v w : Json) : Prop := ∃ items, v = .arr items ∧ w ∈ items

variable {v} {r : List (String × Json)} {name other : String} {load : Loader α}

/-- Null is a value of its own, so a loader that does not stop there is looked at alone. -/
theorem stops_nullable (h : ¬ (load .null).Stops) : (nullable load v).Stops ↔ (load v).Stops := by
  cases v <;> simp [nullable, h]

@[simp] theorem stops_optional {otherwise : α} :
    (optional r name other load otherwise).Stops ↔
      ∃ w, Part name other (.obj r) w ∧ (load w).Stops := by
  unfold optional Part
  cases hpart : part? r name other with
  | none => simp [hpart]
  | some part =>
    obtain ⟨key, w⟩ := part
    simp [hpart]

@[simp] theorem stops_required :
    (required r name other load).Stops ↔ ∃ w, Part name other (.obj r) w ∧ (load w).Stops := by
  unfold required Part
  cases hpart : part? r name other with
  | none => simp [hpart]
  | some part =>
    obtain ⟨key, w⟩ := part
    simp [hpart]

@[simp] theorem stops_list : (list load v).Stops ↔ ∃ w, Item v w ∧ (load w).Stops := by
  cases v with
  | arr items =>
    rw [list, stops_all]
    simp only [List.mem_mapIdx, Item, Json.arr.injEq, exists_eq_left']
    constructor
    · rintro ⟨_, ⟨i, hi, rfl⟩, hstops⟩
      exact ⟨items[i], List.getElem_mem hi, (stops_under _).1 hstops⟩
    · rintro ⟨w, hw, hstops⟩
      obtain ⟨i, hi, rfl⟩ := List.getElem_of_mem hw
      exact ⟨_, ⟨i, hi, rfl⟩, (stops_under _).2 hstops⟩
  | null | bool | int | float | str | obj => simp [list, Item]

theorem stops_record {kind : String} {parts : List (String × Json) → Checked α} :
    (record kind parts v).Stops ↔ ∃ r, v = .obj r ∧ (parts r).Stops := by
  cases v <;> simp [record]

theorem exists_obj_part {p : Json → Prop} :
    (∃ r, v = .obj r ∧ ∃ w, Part name other (.obj r) w ∧ p w) ↔
      ∃ w, Part name other v w ∧ p w := by
  constructor
  · rintro ⟨r, rfl, h⟩
    exact h
  · rintro ⟨w, hpart, hw⟩
    obtain ⟨r, key, rfl, -⟩ := id hpart
    exact ⟨r, rfl, w, hpart, hw⟩

/-! ## Nesting -/

theorem mem_of_get? {fields : List (String × Json)} {key : String}
    (h : Fields.get? fields key = some v) : (key, v) ∈ fields := by
  induction fields with
  | nil => cases h
  | cons f rest ih =>
    obtain ⟨k, w⟩ := f
    rw [Fields.get?_cons] at h
    split at h
    next hk =>
      cases h
      exact hk ▸ List.mem_cons_self
    next => exact List.mem_cons_of_mem _ (ih h)

theorem Part.depth_lt {w : Json} (h : Part name other v w) : w.depth < v.depth := by
  obtain ⟨r, key, rfl, h⟩ := h
  simp only [part?, Option.or_eq_some_iff, Option.map_eq_some_iff] at h
  rcases h with ⟨u, hu, h⟩ | ⟨-, u, hu, h⟩
  · cases h
    exact Json.depth_lt_of_mem_fields (mem_of_get? hu)
  · cases h
    exact Json.depth_lt_of_mem_fields (mem_of_get? hu)

theorem Item.depth_lt {w : Json} (h : Item v w) : w.depth < v.depth := by
  obtain ⟨items, rfl, h⟩ := h
  exact Json.depth_lt_of_mem_items h

end Load

end FlexForm
