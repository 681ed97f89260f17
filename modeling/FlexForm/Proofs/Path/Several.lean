import FlexForm.Form.Defaults
import FlexForm.Proofs.Path.Writing

/-! # Writing at several paths

Writing into an object stops only at an index to which no list grows. What was written at one path
is still found there after writing at other paths, as long as none of these leads to it, through it
or away from it.

* `Path.isBoundedInside`: paths at which writing into an object comes to an end.
* `Path.Apart`, `Path.AreApart`: paths that do not meet.
* `Json.writeAll`: writing at one path after the other.
* `Json.exists_writeAll`, `Json.at?_writeAll`: it comes to an end, and each value is found.
-/

namespace FlexForm
set_option autoImplicit false

namespace Path

/-- The segment is no index, or one to which a list can grow. -/
def isBounded (segment : String) : Bool :=
  !isIndex segment || match index segment with
    | .ok n => decide (n < maxLength)
    | .error _ => false

/-- Behind its first segment, which an object takes as a key, the path has bounded indices only. -/
def isBoundedInside (path : String) : Bool := (segments path).tail.all isBounded

/-- Neither of the paths is the other one or goes on from it. -/
def Apart (p q : String) : Prop := ¬ segments p <+: segments q ∧ ¬ segments q <+: segments p

instance (p q : String) : Decidable (Apart p q) := inferInstanceAs (Decidable (_ ∧ _))

theorem Apart.symm {p q : String} (h : Apart p q) : Apart q p := ⟨h.2, h.1⟩

/-- The paths are apart from one another, and each index in them is the only spelling of its
number. -/
structure AreApart (paths : List String) : Prop where
  apart : paths.Pairwise Apart
  unambiguous : ∀ p ∈ paths, ∀ s ∈ segments p, IsUnambiguous s

theorem AreApart.sublist {paths more : List String} (h : AreApart more) (hsub : paths.Sublist more) :
    AreApart paths :=
  ⟨h.apart.sublist hsub, fun p hp => h.unambiguous p (hsub.subset hp)⟩

theorem exists_of_isBounded {segment : String} (hindex : isIndex segment = true)
    (h : isBounded segment = true) : ∃ n, position segment = .ok n ∧ n < maxLength := by
  rw [isBounded, hindex, Bool.not_true, Bool.false_or] at h
  split at h
  next n hn => exact ⟨n, by rw [position, hn], of_decide_eq_true h⟩
  next => cases h

end Path

namespace Json

open FlexForm.Path

variable {v value found after : Json} {fields : List (String × Json)} {segment path q : String}
  {rest : List String}

/-! ## One path -/

theorem exists_slot (htakes : v.takes segment = true)
    (h : v.isObject = true ∨ isBounded segment = true) : ∃ slot, v.slot? segment = .ok slot := by
  cases v with
  | obj fields => exact ⟨_, rfl⟩
  | arr items =>
    obtain ⟨n, hn, hlt⟩ := exists_of_isBounded htakes (h.resolve_left Bool.false_ne_true)
    have hgrowth : growthFault? items.length n = none := if_pos hlt
    refine ⟨⟨items[n]?, fun child => .arr (setItem items n child)⟩, ?_⟩
    rw [slot?, hn]
    simp only [bind, Except.bind, hgrowth]
  | null | bool | int | float | str => cases htakes

/-- All containers on the way are there or can be made. -/
theorem exists_assignAt (htakes : v.takes segment = true)
    (hfirst : v.isObject = true ∨ isBounded segment = true) (hrest : rest.all isBounded = true) :
    ∃ after, assignAt value (segment :: rest) v = (after, none) := by
  induction rest generalizing v segment with
  | nil =>
    obtain ⟨slot, hslot⟩ := exists_slot htakes hfirst
    exact ⟨_, assignAt_last htakes hslot⟩
  | cons next rest ih =>
    obtain ⟨slot, hslot⟩ := exists_slot htakes hfirst
    rw [List.all_cons, Bool.and_eq_true] at hrest
    obtain ⟨child, hchild⟩ := ih (takes_readyFor next slot.found) (.inr hrest.1) hrest.2
    exact ⟨slot.put child, by rw [assignAt_down next htakes hslot, hchild]⟩

theorem assigned_obj_iff (hsegments : segments path = segment :: rest) :
    (obj fields).assigned path value = .ok after ↔
      assignAt value (segment :: rest) (obj fields) = (after, none) := by
  simp only [assigned, assign, hsegments]
  rcases assignAt value (segment :: rest) (obj fields) with ⟨w, fault⟩
  cases fault <;> simp

theorem exists_assigned (hpath : isBoundedInside path = true) :
    ∃ after, (obj fields).assigned path value = .ok after := by
  obtain ⟨segment, rest, hsegments⟩ := List.exists_cons_of_ne_nil (segments_ne_nil path)
  rw [isBoundedInside, hsegments, List.tail_cons] at hpath
  obtain ⟨after, hafter⟩ : ∃ after, assignAt value (segment :: rest) (obj fields) = (after, none) :=
    exists_assignAt rfl (.inl rfl) hpath
  exact ⟨after, (assigned_obj_iff hsegments).2 hafter⟩

theorem exists_obj_of_assigned (h : (obj fields).assigned path value = .ok after) :
    ∃ more, after = obj more := by
  obtain ⟨segment, rest, hsegments⟩ := List.exists_cons_of_ne_nil (segments_ne_nil path)
  rw [assigned_obj_iff hsegments] at h
  cases rest with
  | nil =>
    cases h
    exact ⟨_, rfl⟩
  | cons next rest =>
    rw [assignAt, Prod.mk.injEq] at h
    exact ⟨_, h.1.symm⟩

theorem at?_assigned (h : (obj fields).assigned path value = .ok after) :
    after.at? path = .ok (some value) := by
  obtain ⟨segment, rest, hsegments⟩ := List.exists_cons_of_ne_nil (segments_ne_nil path)
  rw [assigned_obj_iff hsegments] at h
  rw [at?, hsegments]
  exact follow?_assignAt rfl h

theorem at?_assigned_of_apart (hpath : ∀ s ∈ segments path, IsUnambiguous s)
    (hq : ∀ s ∈ segments q, IsUnambiguous s) (hapart : Apart path q)
    (hfound : (obj fields).at? q = .ok (some found))
    (h : (obj fields).assigned path value = .ok after) : after.at? q = .ok (some found) := by
  obtain ⟨segment, rest, hsegments⟩ := List.exists_cons_of_ne_nil (segments_ne_nil path)
  obtain ⟨hpq, hqp⟩ := hapart
  rw [assigned_obj_iff hsegments] at h
  rw [hsegments] at hpath hpq hqp
  have hkept : (assignAt value (segment :: rest) (obj fields)).1.at? q = .ok (some found) :=
    follow?_assignAt_of_apart rfl hpath hq hpq hqp hfound
  rwa [h] at hkept

/-! ## One path after the other -/

/-- The data after all values have been written at their paths. -/
def writeAll (data : Json) (writes : List (String × Json)) : Except PathFault Json :=
  writes.foldlM (fun data w => data.assigned w.1 w.2) data

variable {writes more : List (String × Json)}

theorem writeAll_cons (data : Json) (w : String × Json) (writes : List (String × Json)) :
    data.writeAll (w :: writes) = data.assigned w.1 w.2 >>= fun data => data.writeAll writes :=
  List.foldlM_cons

theorem writeAll_append (data : Json) (writes more : List (String × Json)) :
    data.writeAll (writes ++ more) = data.writeAll writes >>= fun data => data.writeAll more :=
  List.foldlM_append

theorem exists_writeAll (h : ∀ w ∈ writes, isBoundedInside w.1 = true) :
    ∃ more, (obj fields).writeAll writes = .ok (obj more) := by
  induction writes generalizing fields with
  | nil => exact ⟨fields, rfl⟩
  | cons w writes ih =>
    obtain ⟨hw, hwrites⟩ := List.forall_mem_cons.1 h
    obtain ⟨after, hafter⟩ : ∃ after, (obj fields).assigned w.1 w.2 = .ok after :=
      exists_assigned hw
    obtain ⟨inner, rfl⟩ := exists_obj_of_assigned hafter
    rw [writeAll_cons, hafter]
    exact ih hwrites

theorem at?_writeAll_of_apart (hwrites : ∀ w ∈ writes, ∀ s ∈ segments w.1, IsUnambiguous s)
    (hq : ∀ s ∈ segments q, IsUnambiguous s) (hapart : ∀ w ∈ writes, Apart w.1 q)
    (hfound : (obj fields).at? q = .ok (some found))
    (h : (obj fields).writeAll writes = .ok after) : after.at? q = .ok (some found) := by
  induction writes generalizing fields with
  | nil =>
    cases h
    exact hfound
  | cons w writes ih =>
    rw [writeAll_cons] at h
    obtain ⟨middle, hmiddle, h⟩ := exists_of_bind_ok h
    obtain ⟨inner, rfl⟩ := exists_obj_of_assigned hmiddle
    obtain ⟨hw, hwrites⟩ := List.forall_mem_cons.1 hwrites
    obtain ⟨hwq, hapart⟩ := List.forall_mem_cons.1 hapart
    exact ih hwrites hapart (at?_assigned_of_apart hw hq hwq hfound hmiddle) h

/-- Each value is found at its path, when the paths are apart from one another. -/
theorem at?_writeAll (hapart : AreApart (writes.map Prod.fst))
    (h : (obj fields).writeAll writes = .ok after) :
    ∀ w ∈ writes, after.at? w.1 = .ok (some w.2) := by
  induction writes generalizing fields with
  | nil =>
    intro w hw
    cases hw
  | cons w writes ih =>
    rw [writeAll_cons] at h
    obtain ⟨middle, hmiddle, h⟩ := exists_of_bind_ok h
    obtain ⟨inner, rfl⟩ := exists_obj_of_assigned hmiddle
    have hlater : AreApart (writes.map Prod.fst) := hapart.sublist (List.sublist_cons_self _ _)
    have hplain : ∀ v ∈ w :: writes, ∀ s ∈ segments v.1, IsUnambiguous s := fun v hv =>
      hapart.unambiguous v.1 (List.mem_map_of_mem hv)
    obtain ⟨hfirst, -⟩ := List.pairwise_cons.1 hapart.apart
    refine List.forall_mem_cons.2 ⟨?_, ih hlater h⟩
    obtain ⟨hw, hwrites⟩ := List.forall_mem_cons.1 hplain
    refine at?_writeAll_of_apart hwrites hw ?_ (at?_assigned hmiddle) h
    intro v hv
    exact (hfirst v.1 (List.mem_map_of_mem hv)).symm

end Json

end FlexForm
