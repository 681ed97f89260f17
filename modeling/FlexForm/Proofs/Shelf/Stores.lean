import FlexForm.Proofs.Steps
import FlexForm.Shelf
import Mathlib.Data.List.Induction
import Mathlib.Data.List.Nodup

/-! # Several stores as one

Looking up stops at the first store that has an id, and listing keeps the first template of each id.
Where every store looks up what it lists, both come to the same template.

* `Shelf.map_id_distinct`, `Shelf.find?_distinct`: of each id the first template is kept.
* `Store.Serves`, `Store.IsCoherent`: stores that look up what they list, as the catalog does.
* `Store.first?_eq_iff`: what comes out comes from the first store that has more than nothing.
* `Store.isCoherent_combine`: several such stores are one.
-/

namespace FlexForm
set_option autoImplicit false

namespace Shelf

variable {t : Template} {ts us : List Template}

/-! ## The first of each id -/

theorem distinct_concat (ts : List Template) (t : Template) : distinct (ts ++ [t]) =
    if (distinct ts).any fun other => other.id == t.id then distinct ts else distinct ts ++ [t] := by
  rw [distinct, List.foldl_append]
  rfl

theorem mem_of_mem_distinct (h : t ∈ distinct ts) : t ∈ ts := by
  induction ts using List.reverseRecOn with
  | nil => exact h
  | append_singleton before last ih =>
    rw [distinct_concat] at h
    split at h
    next => exact List.mem_append_left _ (ih h)
    next =>
      exact (List.mem_append.1 h).elim (fun h => List.mem_append_left _ (ih h))
        (List.mem_append_right _)

theorem exists_mem_distinct (h : t ∈ ts) : ∃ u ∈ distinct ts, u.id = t.id := by
  induction ts using List.reverseRecOn with
  | nil => cases h
  | append_singleton before last ih =>
    rw [distinct_concat]
    rcases List.mem_append.1 h with h | h
    · obtain ⟨u, hu, hid⟩ := ih h
      split
      next => exact ⟨u, hu, hid⟩
      next => exact ⟨u, List.mem_append_left _ hu, hid⟩
    · cases List.mem_singleton.1 h
      split
      next hany =>
        obtain ⟨u, hu, hid⟩ := List.any_eq_true.1 hany
        exact ⟨u, hu, eq_of_beq hid⟩
      next => exact ⟨t, List.mem_append_right _ h, rfl⟩

theorem nodup_distinct (ts : List Template) : ((distinct ts).map Template.id).Nodup := by
  induction ts using List.reverseRecOn with
  | nil => exact List.nodup_nil
  | append_singleton before last ih =>
    rw [distinct_concat]
    split
    next => exact ih
    next hany =>
      rw [List.map_append, List.map_singleton, List.nodup_append]
      refine ⟨ih, by simp, fun a ha b hb hab => hany ?_⟩
      obtain ⟨u, hu, rfl⟩ := List.mem_map.1 ha
      cases List.mem_singleton.1 hb
      exact List.any_eq_true.2 ⟨u, hu, beq_iff_eq.2 hab⟩

/-- A template of the second row is listed only if the first row has none of its id. -/
theorem mem_of_mem_distinct_append (h : t ∈ distinct (ts ++ us)) :
    t ∈ ts ∨ t ∈ us ∧ ∀ u ∈ ts, u.id ≠ t.id := by
  induction us using List.reverseRecOn with
  | nil => exact .inl (mem_of_mem_distinct (by simpa using h))
  | append_singleton before last ih =>
    have hbefore (h : t ∈ distinct (ts ++ before)) :
        t ∈ ts ∨ t ∈ before ++ [last] ∧ ∀ u ∈ ts, u.id ≠ t.id :=
      (ih h).imp_right (And.imp_left (List.mem_append_left _))
    rw [← List.append_assoc, distinct_concat] at h
    split at h
    next => exact hbefore h
    next hany =>
      rcases List.mem_append.1 h with h | h
      · exact hbefore h
      · refine .inr ⟨List.mem_append_right _ h, fun u hu hid => hany ?_⟩
        cases List.mem_singleton.1 h
        obtain ⟨w, hw, hwid⟩ := exists_mem_distinct (List.mem_append_left before hu)
        exact List.any_eq_true.2 ⟨w, hw, beq_iff_eq.2 (hwid.trans hid)⟩

/-- What is kept has the ids in the order in which they come up first. -/
theorem map_id_distinct (ts : List Template) :
    (distinct ts).map Template.id = (ts.map Template.id).eraseDups := by
  induction ts using List.reverseRecOn with
  | nil => rfl
  | append_singleton before last ih =>
    rw [distinct_concat, List.map_append, List.map_singleton, List.eraseDups_append, ← ih]
    have hany : ((distinct before).any fun other => other.id == last.id) = true ↔
        last.id ∈ before.map Template.id := by
      rw [← List.mem_eraseDups, ← ih]
      simp
    by_cases hid : last.id ∈ before.map Template.id
    · have hnone : [last.id].removeAll (before.map Template.id) = [] :=
        List.filter_eq_nil_iff.2 (by simpa using hid)
      rw [if_pos (hany.2 hid), hnone, List.eraseDups_nil, List.append_nil]
    · have hall : [last.id].removeAll (before.map Template.id) = [last.id] :=
        List.filter_eq_self.2 (by simpa using hid)
      rw [if_neg (mt hany.1 hid), hall, List.map_append]
      rfl

/-- The first template of an id is still the first one. -/
theorem find?_distinct (ts : List Template) (id : Option String) :
    (distinct ts).find? (fun t => t.id == id) = ts.find? fun t => t.id == id := by
  induction ts using List.reverseRecOn with
  | nil => rfl
  | append_singleton before last ih =>
    rw [distinct_concat, List.find?_append, ← ih]
    split
    next hany =>
      obtain ⟨u, hu, hid⟩ := List.any_eq_true.1 hany
      cases hfound : (distinct before).find? fun t => t.id == id with
      | some t => rw [Option.some_or]
      | none =>
        have hne : ¬ (last.id == id) = true := by
          rw [← eq_of_beq hid]
          exact List.find?_eq_none.1 hfound u hu
        rw [Option.none_or, List.find?_singleton, if_neg hne]
    next => rw [List.find?_append]

end Shelf

/-! ## Stores that look up what they list -/

namespace Store

variable {ε : Type} {s : Store ε} {stores : List (Store ε)} {ts : List Template}
  {rows : List (List Template)} {id : String} {t : Template}

/-- The store lists the templates, no id twice, and looks up each id as it is listed. -/
structure Serves (s : Store ε) (ts : List Template) : Prop where
  list : s.list = .ok ts
  nodup : (ts.map Template.id).Nodup
  get? : ∀ id, s.get? id = .ok (ts.find? fun t => t.id == some id)

/-- No id is listed twice, and an id is looked up as it is listed. -/
def IsCoherent (s : Store ε) : Prop := ∃ ts, s.Serves ts

/-- The template is one of those that the store lists. -/
def Lists (s : Store ε) (t : Template) : Prop := ∃ ts, s.list = .ok ts ∧ t ∈ ts

theorem Serves.lists_iff (h : s.Serves ts) : s.Lists t ↔ t ∈ ts := by
  constructor
  · rintro ⟨us, hlist, ht⟩
    cases h.list.symm.trans hlist
    exact ht
  · exact fun ht => ⟨ts, h.list, ht⟩

theorem Serves.get?_eq_some (h : s.Serves ts) :
    s.get? id = .ok (some t) ↔ s.Lists t ∧ t.id = some id := by
  rw [h.get?, h.lists_iff, Except.ok.injEq]
  constructor
  · intro hfound
    have hid := List.find?_some hfound
    exact ⟨List.mem_of_find?_eq_some hfound, eq_of_beq hid⟩
  · rintro ⟨ht, hid⟩
    cases hfound : ts.find? fun t => t.id == some id with
    | none => exact absurd (beq_iff_eq.2 hid) (List.find?_eq_none.1 hfound t ht)
    | some u =>
      have huid := List.find?_some hfound
      have hu := List.mem_of_find?_eq_some hfound
      rw [List.inj_on_of_nodup_map h.nodup hu ht ((eq_of_beq huid).trans hid.symm)]

theorem Serves.get?_eq_none (h : s.Serves ts) :
    s.get? id = .ok none ↔ ∀ u, s.Lists u → u.id ≠ some id := by
  rw [h.get?, Except.ok.injEq, List.find?_eq_none]
  refine forall_congr' fun u => ?_
  rw [h.lists_iff, beq_iff_eq]

/-- The templates as they are. -/
def ofTemplates (ts : List Template) : Store ε where
  get? id := .ok (ts.find? fun t => t.id == some id)
  list := .ok ts

theorem isCoherent_ofTemplates (h : (ts.map Template.id).Nodup) :
    (ofTemplates ts : Store ε).IsCoherent := ⟨ts, rfl, h, fun _ => rfl⟩

theorem isCoherent_catalog (f : Folder) : (Shelf.catalog.store f).IsCoherent :=
  isCoherent_ofTemplates (by decide)

/-! ## Looking up in several stores -/

/-- What comes out, unless there is nothing, comes from the first store that has more to say. -/
theorem first?_eq_iff {out : Except ε (Option Template)} (hout : out ≠ .ok none) :
    first? id stores = out ↔ ∃ before s after, stores = before ++ s :: after ∧
      (∀ other ∈ before, other.get? id = .ok none) ∧ s.get? id = out := by
  constructor
  · intro h
    induction stores with
    | nil => exact absurd h.symm hout
    | cons s rest ih =>
      by_cases hnone : s.get? id = .ok none
      · rw [first?_cons_of_none hnone] at h
        obtain ⟨before, found, after, rfl, hbefore, hfound⟩ := ih h
        exact ⟨s :: before, found, after, rfl, List.forall_mem_cons.2 ⟨hnone, hbefore⟩, hfound⟩
      · rw [first?_cons_of_ne hnone] at h
        exact ⟨[], s, rest, rfl, by simp, h⟩
  · rintro ⟨before, s, after, rfl, hbefore, rfl⟩
    -- Each store before has nothing and hands over to the next one.
    induction before with
    | nil => exact first?_cons_of_ne hout after
    | cons first rest ih =>
      obtain ⟨hfirst, hrest⟩ := List.forall_mem_cons.1 hbefore
      rw [List.cons_append, first?_cons_of_none hfirst, ih hrest]

theorem first?_of_serves (h : List.Forall₂ Serves stores rows) (id : String) :
    first? id stores = .ok (rows.flatten.find? fun t => t.id == some id) := by
  induction h with
  | nil => rfl
  | @cons s ts _ _ hs _ ih =>
    rw [first?, hs.get?, List.flatten_cons, List.find?_append]
    cases ts.find? fun t => t.id == some id with
    | none => exact ih
    | some t => rfl

/-! ## Coherent stores as one -/

theorem exists_serves (h : ∀ s ∈ stores, s.IsCoherent) : ∃ rows, List.Forall₂ Serves stores rows := by
  induction stores with
  | nil => exact ⟨[], .nil⟩
  | cons s rest ih =>
    obtain ⟨⟨ts, hs⟩, hrest⟩ := List.forall_mem_cons.1 h
    obtain ⟨rows, hrows⟩ := ih hrest
    exact ⟨ts :: rows, .cons hs hrows⟩

/-- Stores that look up what they list do so together: their rows are listed one behind the other,
without the templates whose id has come up. -/
theorem serves_combine (h : List.Forall₂ Serves stores rows) :
    (combine stores).Serves (Shelf.distinct rows.flatten) where
  list := by
    have hlists : stores.mapM list = .ok rows := mapM_ok_of_forall₂ (h.imp fun _ _ hs => hs.list)
    rw [combine, listAll, hlists]
    rfl
  nodup := Shelf.nodup_distinct _
  get? id := by
    rw [Shelf.find?_distinct]
    exact first?_of_serves h id

/-- Coherent stores are a coherent store. An id is looked up in the first store that lists it, and
the ids of all stores are listed in the order in which they come up first. -/
theorem isCoherent_combine (h : ∀ s ∈ stores, s.IsCoherent) :
    (combine stores).IsCoherent ∧
    (∀ id t, (combine stores).get? id = .ok (some t) ↔ ∃ before s after,
      stores = before ++ s :: after ∧ (∀ other ∈ before, ∀ u, other.Lists u → u.id ≠ some id) ∧
        s.Lists t ∧ t.id = some id) ∧
    ∃ rows ts, List.Forall₂ (fun s us => s.list = .ok us) stores rows ∧
      (combine stores).list = .ok ts ∧
        ts.map Template.id = (rows.flatten.map Template.id).eraseDups := by
  obtain ⟨rows, hrows⟩ := exists_serves h
  have hcombined := serves_combine hrows
  refine ⟨⟨_, hcombined⟩, fun id t => ?_, rows, _, ?_, hcombined.list, Shelf.map_id_distinct _⟩
  · have hlooked : (combine stores).get? id = .ok (some t) ↔ _ := first?_eq_iff (by simp)
    rw [hlooked]
    refine exists_congr fun before => exists_congr fun s => exists_congr fun after => ?_
    refine and_congr_right ?_
    rintro rfl
    have hbefore : ∀ other ∈ before, other.IsCoherent :=
      fun other hother => h other (List.mem_append_left _ hother)
    obtain ⟨ts, hs⟩ := h s (by simp)
    refine and_congr (forall₂_congr fun other hother => ?_) hs.get?_eq_some
    obtain ⟨us, hother⟩ := hbefore other hother
    exact hother.get?_eq_none
  · exact hrows.imp fun _ _ hs => hs.list

/-- A template under an id of the catalog. -/
def own : Template := { id := some "builtin-single-poster", name := "Own" }

theorem isCoherent_combine_own :
    let stores := [ofTemplates [own], Shelf.catalog.store {}]
    (∀ s ∈ stores, s.IsCoherent) ∧
      (combine stores).get? "builtin-single-poster" = .ok (some own) ∧
      ∃ ts, (combine stores).list = .ok ts ∧
        ts.map Template.id = [some "builtin-single-poster", some "builtin-carousel"] := by
  intro stores
  have hstores : ∀ s ∈ stores, s.IsCoherent := by
    intro s hs
    rcases List.mem_pair.1 hs with rfl | rfl
    · exact isCoherent_ofTemplates (by decide)
    · exact isCoherent_catalog {}
  obtain ⟨-, hget, rows, ts, hrows, hlist, hids⟩ := isCoherent_combine hstores
  refine ⟨hstores, ?_, ts, hlist, ?_⟩
  · refine (hget _ own).2 ⟨[], _, _, rfl, by simp, ⟨[own], rfl, by simp⟩, rfl⟩
  · obtain ⟨_, _, hown, hrest, rfl⟩ := List.forall₂_cons_left_iff.1 hrows
    obtain ⟨_, _, hcatalog, hnil, rfl⟩ := List.forall₂_cons_left_iff.1 hrest
    cases List.forall₂_nil_left_iff.1 hnil
    cases hown
    cases hcatalog
    rw [hids]
    decide

end Store

end FlexForm
