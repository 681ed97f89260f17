import FlexForm.Proofs.Record.Stop
import FlexForm.Schema.Dump
import Mathlib.Data.List.Forall2

/-! # Reading back what was written

A record is written part by part and read part by part, so it is given back exactly if all its parts
are. Where a part is not, the only complaint here is about a value that was left out.

* `Checked.Yields`: what every value that a loader accepts has; `Load.yields_list`,
  `Load.yields_optional`: for the items of lists and the parts of records.
* `Checked.Restores`: a value is given back exactly under a condition.
* `Load.restores_list`, `Load.restores_value`, `Load.restores_nullable`: lists and parts that were
  written.
-/

namespace FlexForm
set_option autoImplicit false

variable {α β : Type}

/-! ## What loaders accept -/

namespace Checked

variable {x : Checked α} {f : Checked (α → β)} {p : β → Prop} {q : α → Prop}

theorem yields_ok {a : α} (h : q a) : (ok a).Yields q := by
  intro b hb
  cases hb
  exact h

theorem yields_refused (e : List Complaint) : (refused e).Yields q := fun _ h => nomatch h

theorem yields_stopped (why : String) : (stopped why).Yields q := fun _ h => nomatch h

theorem yields_fail (issue : Issue) (input : Json) : (fail issue input : Checked α).Yields q :=
  yields_refused _

theorem Yields.map {g : α → β} (hx : x.Yields q) (hg : ∀ a, q a → p (g a)) :
    (g <$> x).Yields p := by
  cases x with
  | ok a => exact yields_ok (hg a (hx a rfl))
  | refused e => exact yields_refused e
  | stopped why => exact yields_stopped why

theorem Yields.seq (hf : f.Yields fun g => ∀ a, q a → p (g a)) (hx : x.Yields q) :
    (f <*> x).Yields p := by
  cases f with
  | ok g =>
    cases x with
    | ok a => exact yields_ok (hf g rfl a (hx a rfl))
    | refused e => exact yields_refused e
    | stopped why => exact yields_stopped why
  | refused e =>
    cases x with
    | ok a => exact yields_refused e
    | refused d => exact yields_refused _
    | stopped why => exact yields_stopped why
  | stopped why => exact yields_stopped why

theorem Yields.under (hx : x.Yields q) (key : String) : (under key x).Yields q := by
  cases x with
  | ok a => exact hx
  | refused e => exact yields_refused _
  | stopped why => exact yields_stopped why

theorem Yields.andThen {f : α → Checked β} (hx : x.Yields q) (hf : ∀ a, q a → (f a).Yields p) :
    (x.andThen f).Yields p := by
  cases x with
  | ok a => exact hf a (hx a rfl)
  | refused e => exact yields_refused e
  | stopped why => exact yields_stopped why

theorem all_cons (x : Checked α) (rest : List (Checked α)) :
    all (x :: rest) = List.cons <$> x <*> all rest := by
  rw [all]
  cases x <;> cases all rest <;> rfl

theorem ok_of_under {key : String} {a : α} (h : under key x = .ok a) : x = .ok a := by
  cases x with
  | ok b => exact h
  | refused e => cases h
  | stopped why => cases h

theorem yields_length_all {xs : List (Checked α)} :
    (all xs).Yields fun as => as.length = xs.length := by
  induction xs with
  | nil => exact yields_ok rfl
  | cons x rest ih =>
    rw [all_cons]
    refine Yields.seq (yields_functor fun a as has => ?_) ih
    rw [List.length_cons, List.length_cons, has]

theorem yields_all {xs : List (Checked α)} (h : ∀ x ∈ xs, x.Yields q) :
    (all xs).Yields fun as => ∀ a ∈ as, q a := by
  induction xs with
  | nil => exact yields_ok fun a ha => absurd ha List.not_mem_nil
  | cons x rest ih =>
    rw [all_cons]
    refine Yields.seq ?_ (ih fun y hy => h y (List.mem_cons_of_mem x hy))
    exact (h x List.mem_cons_self).map fun a ha as has => List.forall_mem_cons.2 ⟨ha, has⟩

end Checked

namespace Load

open Checked

variable {load : Loader α} {q : α → Prop} {r : List (String × Json)} {name other : String}

theorem yields_nullable (h : ∀ v, (load v).Yields q) (v : Json) :
    (nullable load v).Yields fun o => ∀ a ∈ o, q a := by
  intro o ho a ha
  cases v with
  | null =>
    cases ho
    cases ha
  | bool | int | float | str | arr | obj =>
    rw [nullable] at ho
    · exact (Yields.map (p := fun o : Option α => ∀ a ∈ o, q a) (h _)
        (fun b hb a ha => by cases ha; exact hb)) o ho a ha
    · intro hnull
      cases hnull

theorem yields_optional {otherwise : α} (h : ∀ v, (load v).Yields q) (hotherwise : q otherwise) :
    (optional r name other load otherwise).Yields q := by
  unfold optional
  cases part? r name other with
  | none => exact yields_ok hotherwise
  | some part => exact (h part.2).under part.1

theorem yields_required (h : ∀ v, (load v).Yields q) : (required r name other load).Yields q := by
  unfold required
  cases part? r name other with
  | none => exact (yields_fail _ _).under name
  | some part => exact (h part.2).under part.1

theorem yields_list (h : ∀ v, (load v).Yields q) (v : Json) :
    (list load v).Yields fun as => ∀ a ∈ as, q a := by
  cases v with
  | arr items =>
    refine yields_all fun x hx => ?_
    obtain ⟨i, hi, rfl⟩ := List.mem_mapIdx.1 hx
    exact (h items[i]).under (toString i)
  | null | bool | int | float | str | obj => exact yields_fail _ _

theorem length_of_list {items : List Json} {as : List α} (h : list load (.arr items) = .ok as) :
    as.length = items.length := by
  rw [yields_length_all as h, List.length_mapIdx]

theorem yields_record {kind : String} {parts : List (String × Json) → Checked α}
    (h : ∀ r, (parts r).Yields q) (v : Json) : (record kind parts v).Yields q := by
  cases v with
  | obj r => exact h r
  | null | bool | int | float | str | arr => exact yields_fail _ _

end Load

/-! ## Giving back a value -/

/-- The complaint is that a condition has no value. -/
def Complaint.LacksValue (c : Complaint) : Prop := c.issue = .missing ∧ c.loc.getLast? = some "is"

/-- The value is given back if the condition holds; if not, all complaints are about conditions
without a value. -/
structure Checked.Restores (condition : Prop) (a : α) (x : Checked α) : Prop where
  ok : condition → x = .ok a
  refused : ¬ condition → ∃ e, x = .refused e ∧ e ≠ [] ∧ ∀ c ∈ e, c.LacksValue

namespace Checked

variable {x : Checked α} {f : Checked (α → β)} {g : α → β} {a : α} {p q : Prop}

theorem restores_ok (h : x = .ok a) : x.Restores True a := ⟨fun _ => h, fun hn => absurd trivial hn⟩

theorem Restores.congr (h : x.Restores p a) (hpq : p ↔ q) : x.Restores q a := by
  cases propext hpq
  exact h

theorem Restores.eq_ok_iff (h : x.Restores p a) : x = .ok a ↔ p := by
  constructor
  · intro hx
    by_contra hp
    obtain ⟨e, he, -⟩ := h.refused hp
    rw [hx] at he
    cases he
  · exact h.ok

theorem Restores.map (h : x.Restores p a) (g : α → β) : (g <$> x).Restores p (g a) where
  ok hp := by rw [h.ok hp]; rfl
  refused hp := by
    obtain ⟨e, rfl, he⟩ := h.refused hp
    exact ⟨e, rfl, he⟩

/-- The complaints about both parts are joined. -/
theorem Restores.seq (hf : f.Restores p g) (hx : x.Restores q a) :
    (f <*> x).Restores (p ∧ q) (g a) where
  ok h := by rw [hf.ok h.1, hx.ok h.2]; rfl
  refused h := by
    by_cases hp : p
    · obtain ⟨e, rfl, he⟩ := hx.refused fun hq => h ⟨hp, hq⟩
      rw [hf.ok hp]
      exact ⟨e, rfl, he⟩
    · obtain ⟨d, rfl, hd, hlacks⟩ := hf.refused hp
      by_cases hq : q
      · rw [hx.ok hq]
        exact ⟨d, rfl, hd, hlacks⟩
      · obtain ⟨e, rfl, -, hlacks'⟩ := hx.refused hq
        refine ⟨d ++ e, rfl, fun hnil => hd (List.append_eq_nil_iff.1 hnil).1, fun c hc => ?_⟩
        exact (List.mem_append.1 hc).elim (hlacks c) (hlacks' c)

theorem Restores.apply (h : x.Restores p a) (g : α → β) :
    (Checked.ok g <*> x).Restores p (g a) :=
  ((restores_ok rfl).seq h).congr (true_and p).to_iff

theorem Restores.seq_ok (h : f.Restores p g) (a : α) : (f <*> Checked.ok a).Restores p (g a) :=
  (h.seq (restores_ok rfl)).congr (and_true p).to_iff

theorem Restores.under (h : x.Restores p a) (key : String) : (under key x).Restores p a where
  ok hp := by rw [h.ok hp]; rfl
  refused hp := by
    obtain ⟨e, rfl, hne, hlacks⟩ := h.refused hp
    refine ⟨e.map (Complaint.under key), rfl, fun hnil => hne (List.map_eq_nil_iff.1 hnil), ?_⟩
    intro c hc
    obtain ⟨d, hd, rfl⟩ := List.mem_map.1 hc
    obtain ⟨hissue, hloc⟩ := hlacks d hd
    refine ⟨hissue, ?_⟩
    rw [Complaint.under, List.getLast?_cons, hloc]
    rfl

theorem Restores.andThen {b : β} {next : α → Checked β} (h : x.Restores p a)
    (hnext : next a = .ok b) : (x.andThen next).Restores p b where
  ok hp := by rw [h.ok hp]; exact hnext
  refused hp := by
    obtain ⟨e, rfl, he⟩ := h.refused hp
    exact ⟨e, rfl, he⟩

theorem restores_all {condition : α → Prop} {xs : List (Checked α)} {as : List α}
    (h : List.Forall₂ (fun x a => x.Restores (condition a) a) xs as) :
    (all xs).Restores (∀ a ∈ as, condition a) as := by
  induction h with
  | nil => exact (restores_ok rfl).congr (by simp)
  | cons hx _ ih =>
    rw [all_cons]
    exact ((hx.map List.cons).seq ih).congr List.forall_mem_cons.symm

end Checked

namespace Dump

variable {style : Style} {name key : String} {v : Json}

theorem get?_part_of_ne (h : name ≠ key) : Fields.get? (part style name v) key = none := by
  unfold part
  split
  next => rfl
  next => simp [Fields.get?_cons, h]

theorem get?_part (h : style.writesNulls = true ∨ v.isNull = false) :
    Fields.get? (part style name v) name = some v := by
  rcases h with h | h
  · simp [part, h, Fields.get?_cons]
  · simp [part, h, Fields.get?_cons]

theorem get?_part_of_null (hstyle : style.writesNulls = false) (h : v.isNull = true) :
    Fields.get? (part style name v) name = none := by
  simp [part, hstyle, h]

/-- The part stands under its name as it is written, and nothing stands under its other name. -/
def HasPart (style : Style) (r : List (String × Json)) (name other : String) (v : Json) : Prop :=
  Fields.get? r name = Fields.get? (part style name v) name ∧
    (other = name ∨ Fields.get? r other = none)

end Dump

namespace Load

open Checked Dump

variable {load : Loader α} {r : List (String × Json)} {name other : String} {v : Json} {a : α}
  {p : Prop} {style : Style} {write : α → Json} {o : Option α}

theorem part?_of_get? (h : Fields.get? r name = some v) : part? r name other = some (name, v) := by
  simp [part?, h]

theorem part?_of_null (hpart : HasPart style r name other v) (hstyle : style.writesNulls = false)
    (h : v.isNull = true) : part? r name other = none := by
  obtain ⟨hname, hother⟩ := hpart
  rw [get?_part_of_null hstyle h] at hname
  rcases hother with rfl | hother
  · simp [part?, hname]
  · simp [part?, hname, hother]

theorem required_of_get? (h : Fields.get? r name = some v) :
    required r name other load = (load v).under name := by
  rw [required, part?_of_get? h]

theorem optional_of_get? {otherwise : α} (h : Fields.get? r name = some v) :
    optional r name other load otherwise = (load v).under name := by
  rw [optional, part?_of_get? h]

/-- The value of a condition is missed if it was left out. -/
theorem restores_value (hpart : HasPart style r "is" other v) (h : load v = .ok a) :
    (required r "is" other load).Restores (style.writesNulls = true ∨ v.isNull = false) a where
  ok hshown := by
    rw [required_of_get? (hpart.1.trans (get?_part hshown)), h]
    rfl
  refused hshown := by
    obtain ⟨hstyle, hnull⟩ := not_or.1 hshown
    rw [required, part?_of_null hpart (Bool.eq_false_iff.2 hstyle) (Bool.not_eq_false _ ▸ hnull)]
    refine ⟨_, rfl, List.cons_ne_nil _ _, fun c hc => ?_⟩
    cases List.mem_singleton.1 hc
    exact ⟨rfl, rfl⟩

theorem optional_any_eq_ok (hpart : HasPart style r name other v) :
    optional r name other any .null = .ok v := by
  by_cases hshown : style.writesNulls = true ∨ v.isNull = false
  · rw [optional_of_get? (hpart.1.trans (get?_part hshown))]
    rfl
  · obtain ⟨hstyle, hnull⟩ := not_or.1 hshown
    have hnull : v.isNull = true := Bool.not_eq_false _ ▸ hnull
    rw [optional, part?_of_null hpart (Bool.eq_false_iff.2 hstyle) hnull]
    cases v with
    | null => rfl
    | bool | int | float | str | arr | obj => cases hnull

theorem nullable_of_not_null (h : v.isNull = false) : nullable load v = some <$> load v := by
  cases v with
  | null => cases h
  | bool | int | float | str | arr | obj => rfl

/-- A part without a value is written as null or left out; both are read as no value. -/
theorem restores_nullable {condition : α → Prop}
    (hpart : HasPart style r name other (ofOption write o)) (hnull : ∀ a, (write a).isNull = false)
    (h : ∀ a ∈ o, (load (write a)).Restores (condition a) a) :
    (optional r name other (nullable load) none).Restores (∀ a ∈ o, condition a) o := by
  cases o with
  | none =>
    refine (restores_ok ?_).congr (by simp)
    cases hstyle : style.writesNulls with
    | true =>
      rw [optional_of_get? (hpart.1.trans (get?_part (.inl hstyle)))]
      rfl
    | false => rw [optional, part?_of_null hpart hstyle rfl]
  | some a =>
    have hload := (h a rfl).map some
    rw [← nullable_of_not_null (hnull a)] at hload
    rw [optional_of_get? (hpart.1.trans (get?_part (.inr (hnull a))))]
    exact (hload.under name).congr (by simp)

theorem optional_eq_ok (hpart : HasPart style r name other (ofOption write o))
    (hnull : ∀ a, (write a).isNull = false) (h : ∀ a, load (write a) = .ok a) :
    optional r name other (nullable load) none = .ok o :=
  (restores_nullable hpart hnull fun a _ => restores_ok (h a)).ok fun _ _ => trivial

theorem restores_list {condition : α → Prop} {as : List α}
    (h : ∀ a ∈ as, (load (write a)).Restores (condition a) a) :
    (list load (.arr (as.map write))).Restores (∀ a ∈ as, condition a) as := by
  -- The place of an item plays no part, so any places will do for the induction.
  have hplaces (place : ℕ → String) : List.Forall₂ (fun x a => x.Restores (condition a) a)
      ((as.map write).mapIdx fun i v => (load v).under (place i)) as := by
    induction as generalizing place with
    | nil => exact .nil
    | cons a as ih =>
      rw [List.map_cons, List.mapIdx_cons]
      exact .cons ((h a List.mem_cons_self).under (place 0))
        (ih (fun b hb => h b (List.mem_cons_of_mem a hb)) fun i => place (i + 1))
  exact restores_all (hplaces toString)

theorem list_eq_ok {as : List α} (h : ∀ a, load (write a) = .ok a) :
    list load (.arr (as.map write)) = .ok as :=
  (restores_list fun a _ => restores_ok (h a)).ok fun _ _ => trivial

end Load

end FlexForm
