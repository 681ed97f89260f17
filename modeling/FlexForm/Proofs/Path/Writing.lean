import FlexForm.Proofs.Path.Location

/-! # Writing at a path

One segment leads to one place of a container. Writing below that place replaces what stands there
and nothing else, so that all laws of writing come from those of a single place, by induction on
the segments. On its way down, writing may have to turn a list into an object keyed by index; what
was found in the list is found in the object, unless its index is spelled in an unusual way.

* `Slot`, `Json.slot?`: the place to which a segment leads.
* `Json.at?_assign`: what was written is found.
* `Json.at?_assign_of_apart`: what stands elsewhere is found as before.
-/

namespace FlexForm
set_option autoImplicit false

/-- A place of a container: what stands there, and the container with another value there. -/
structure Slot where
  found : Option Json
  put : Json → Json

namespace Json

open FlexForm.Path

/-- The container can hold a value at the segment. -/
def takes : Json → String → Bool
  | .obj _, _ => true
  | .arr _, segment => isIndex segment
  | _, _ => false

/-- The place to which a segment leads. -/
def slot? (v : Json) (segment : String) : Except PathFault Slot :=
  match v with
  | .obj fields =>
    .ok ⟨Fields.get? fields segment, fun child => .obj (Fields.insert fields segment child)⟩
  | .arr items => do
    let n ← position segment
    match growthFault? items.length n with
    | some e => .error e
    | none => .ok ⟨items[n]?, fun child => .arr (setItem items n child)⟩
  | _ => .error (.noWriting v.typeName)

variable {v w value found : Json} {segment other : String} {rest q : List String} {slot : Slot}
  {fault : PathFault}

/-! ## Places -/

theorem slot?_cases (htakes : v.takes segment = true) (h : v.slot? segment = .ok slot) :
    (∃ fields, v = .obj fields ∧
      slot = ⟨Fields.get? fields segment, fun child => .obj (Fields.insert fields segment child)⟩) ∨
    (∃ items n, v = .arr items ∧ isIndex segment = true ∧ position segment = .ok n ∧
      growthFault? items.length n = none ∧
      slot = ⟨items[n]?, fun child => .arr (setItem items n child)⟩) := by
  cases v with
  | obj fields =>
    cases h
    exact .inl ⟨fields, rfl, rfl⟩
  | arr items =>
    obtain ⟨n, hn, h⟩ := exists_of_bind_ok h
    split at h
    next => cases h
    next hgrowth =>
      cases h
      exact .inr ⟨items, n, rfl, htakes, hn, hgrowth, rfl⟩
  | null | bool | int | float | str => cases htakes

theorem step?_slot (htakes : v.takes segment = true) (h : v.slot? segment = .ok slot) :
    v.step? segment = .ok slot.found := by
  rcases slot?_cases htakes h with ⟨fields, rfl, rfl⟩ | ⟨items, n, rfl, hindex, hn, -, rfl⟩
  · rfl
  · exact step?_arr hindex hn

theorem step?_put (htakes : v.takes segment = true) (h : v.slot? segment = .ok slot) :
    (slot.put w).step? segment = .ok (some w) := by
  rcases slot?_cases htakes h with ⟨fields, rfl, rfl⟩ | ⟨items, n, rfl, hindex, hn, -, rfl⟩
  · exact congrArg Except.ok (Fields.get?_insert_self fields segment w)
  · rw [step?_arr hindex hn, getElem?_setItem_self]

theorem getElem?_setItem_of_ne {items : List Json} {n m : ℕ} (hne : n ≠ m)
    (h : items[m]? = some found) : (setItem items n w)[m]? = some found := by
  have hlt : m < items.length := (List.getElem?_eq_some_iff.1 h).1
  unfold setItem
  split
  · rw [List.getElem?_set_ne hne, h]
  · rw [List.append_assoc, List.getElem?_append_left hlt, h]

theorem position_eq_ok {n : ℕ} (h : position segment = .ok n) : index segment = .ok n := by
  unfold position at h
  split at h
  next hindex =>
    cases h
    exact hindex
  next => cases h

/-- Segments of which each is the only spelling of its number lead to different items. -/
theorem ne_of_position {n m : ℕ} (hindex : isIndex segment = true)
    (hplain : isPlain segment = true) (hn : position segment = .ok n)
    (hindex' : isIndex other = true) (hplain' : isPlain other = true)
    (hm : position other = .ok m) (hne : segment ≠ other) : n ≠ m := by
  rintro rfl
  have hleft := toString_of_index hindex hplain (position_eq_ok hn)
  have hright := toString_of_index hindex' hplain' (position_eq_ok hm)
  exact hne (hleft.symm.trans hright)

theorem step?_put_of_ne (htakes : v.takes segment = true) (h : v.slot? segment = .ok slot)
    (hsegment : IsUnambiguous segment) (hother : IsUnambiguous other)
    (hne : segment ≠ other) (hfound : v.step? other = .ok (some found)) :
    (slot.put w).step? other = .ok (some found) := by
  rcases slot?_cases htakes h with ⟨fields, rfl, rfl⟩ | ⟨items, n, rfl, hindex, hn, -, rfl⟩
  · have hget : Fields.get? fields other = some found := Except.ok.inj hfound
    rw [step?, Fields.get?_insert_of_ne _ _ hne, hget]
  · obtain ⟨hindex', m, hm, hitem⟩ := step?_arr_eq_some hfound
    have hnm : n ≠ m := ne_of_position hindex (hsegment hindex) hn hindex' (hother hindex') hm hne
    rw [step?_arr hindex' hm, getElem?_setItem_of_ne hnm hitem]

/-! ## Ways down -/

theorem takes_readyFor (next : String) (child : Option Json) :
    (readyFor next child).takes next = true := by
  unfold readyFor
  split
  next => rfl
  next =>
    split
    next hindex => exact hindex
    next => rfl
  next =>
    split
    next hindex => exact hindex
    next => rfl

theorem get?_mapIdx (items : List Json) (start n : ℕ) :
    Fields.get? (items.mapIdx fun m v => (toString (m + start), v)) (toString (n + start)) =
      items[n]? := by
  induction items generalizing start n with
  | nil => rfl
  | cons item items ih =>
    have hshift : (fun (m : ℕ) (v : Json) => (toString (m + 1 + start), v)) =
        fun m v => (toString (m + (start + 1)), v) := by
      funext m v
      rw [Nat.add_right_comm, Nat.add_assoc]
    rw [List.mapIdx_cons, hshift, Fields.get?_cons]
    cases n with
    | zero => rw [if_pos rfl, List.getElem?_cons_zero]
    | succ n =>
      have hne : toString (0 + start) ≠ toString (n + 1 + start) := fun h => by
        have := toString_inj h
        omega
      rw [if_neg hne, Nat.add_right_comm, Nat.add_assoc, ih, List.getElem?_cons_succ]

/-- What is found in a list is found in the object that takes its place. -/
theorem step?_keyedByIndex {items : List Json} (hplain : IsUnambiguous segment)
    (h : (arr items).step? segment = .ok (some found)) :
    (keyedByIndex items).step? segment = .ok (some found) := by
  obtain ⟨hindex, n, hn, hitem⟩ := step?_arr_eq_some h
  have hkey := toString_of_index hindex (hplain hindex) (position_eq_ok hn)
  have hget : Fields.get? (items.mapIdx fun m v => (toString m, v)) (toString n) = items[n]? :=
    get?_mapIdx items 0 n
  rw [keyedByIndex, step?, ← hkey, hget, hitem]

theorem step?_readyFor (next : String) (hplain : IsUnambiguous segment)
    (h : v.step? segment = .ok (some found)) :
    (readyFor next (some v)).step? segment = .ok (some found) := by
  cases v with
  | obj fields => exact h
  | arr items =>
    rw [readyFor]
    split
    next => exact h
    next => exact step?_keyedByIndex hplain h
  | null | bool | int | float | str => cases h

theorem slot?_arr_error {items : List Json} (h : (arr items).slot? segment = .error fault) :
    position segment = .error fault ∨
      ∃ n, position segment = .ok n ∧ growthFault? items.length n = some fault := by
  rcases bind_eq_error_iff.1 h with h | ⟨n, hn, h⟩
  · exact .inl h
  · split at h
    next hgrowth =>
      cases h
      exact .inr ⟨n, hn, hgrowth⟩
    next => cases h

theorem assignAt_fault (htakes : v.takes segment = true) (h : v.slot? segment = .error fault) :
    assignAt value (segment :: rest) v = (v, some fault) := by
  cases v with
  | obj fields => cases h
  | arr items =>
    rcases slot?_arr_error h with h | ⟨n, hn, hgrowth⟩
    · cases rest <;> simp only [assignAt, h]
    · cases rest <;> simp only [assignAt, hn, hgrowth]
  | null | bool | int | float | str => cases htakes

theorem assignAt_last (htakes : v.takes segment = true) (h : v.slot? segment = .ok slot) :
    assignAt value [segment] v = (slot.put value, none) := by
  cases v with
  | obj fields =>
    cases h
    rfl
  | arr items =>
    obtain ⟨n, hn, h⟩ := exists_of_bind_ok h
    split at h
    next => cases h
    next hgrowth =>
      cases h
      simp only [assignAt, hn, hgrowth]
  | null | bool | int | float | str => cases htakes

/-- What is below the place of the first segment is written there, with all its faults. -/
theorem assignAt_down (next : String) (htakes : v.takes segment = true)
    (h : v.slot? segment = .ok slot) :
    assignAt value (segment :: next :: rest) v =
      (slot.put (assignAt value (next :: rest) (readyFor next slot.found)).1,
        (assignAt value (next :: rest) (readyFor next slot.found)).2) := by
  cases v with
  | obj fields =>
    cases h
    rfl
  | arr items =>
    obtain ⟨n, hn, h⟩ := exists_of_bind_ok h
    split at h
    next => cases h
    next hgrowth =>
      cases h
      simp only [assignAt, hn, hgrowth]
  | null | bool | int | float | str => cases htakes

/-! ## What was written -/

theorem follow?_assignAt {after : Json} (htakes : v.takes segment = true)
    (h : assignAt value (segment :: rest) v = (after, none)) :
    after.follow? (segment :: rest) = .ok (some value) := by
  induction rest generalizing v segment after with
  | nil =>
    cases hslot : v.slot? segment with
    | error fault =>
      rw [assignAt_fault htakes hslot] at h
      cases h
    | ok slot =>
      rw [assignAt_last htakes hslot] at h
      cases h
      rw [follow?_of_step (step?_put htakes hslot)]
      rfl
  | cons next rest ih =>
    cases hslot : v.slot? segment with
    | error fault =>
      rw [assignAt_fault htakes hslot] at h
      cases h
    | ok slot =>
      rw [assignAt_down next htakes hslot, Prod.mk.injEq] at h
      obtain ⟨rfl, hnone⟩ := h
      rw [follow?_of_step (step?_put htakes hslot)]
      exact ih (takes_readyFor next slot.found) (Prod.ext rfl hnone)

/-! ## What stands elsewhere -/

/-- Writing below one segment leaves what is found below another one. -/
theorem follow?_assignAt_of_ne (htakes : v.takes segment = true)
    (hsegment : IsUnambiguous segment) (hother : IsUnambiguous other) (hne : segment ≠ other)
    (h : v.follow? (other :: q) = .ok (some found)) :
    (assignAt value (segment :: rest) v).1.follow? (other :: q) = .ok (some found) := by
  cases hslot : v.slot? segment with
  | error fault =>
    rw [assignAt_fault htakes hslot]
    exact h
  | ok slot =>
    obtain ⟨child, hchild⟩ : ∃ child, (assignAt value (segment :: rest) v).1 = slot.put child := by
      cases rest with
      | nil => exact ⟨value, by rw [assignAt_last htakes hslot]⟩
      | cons next rest => exact ⟨_, by rw [assignAt_down next htakes hslot]⟩
    obtain ⟨w, hstep, hw⟩ := exists_step_of_follow? h
    have hput : (slot.put child).step? other = .ok (some w) :=
      step?_put_of_ne htakes hslot hsegment hother hne hstep
    rw [hchild, follow?_of_step hput, hw]

/-- A container made ready for the written path still shows what the other path finds. -/
theorem follow?_readyFor (next : String) (hother : IsUnambiguous other)
    (h : v.follow? (other :: q) = .ok (some found)) :
    (readyFor next (some v)).follow? (other :: q) = .ok (some found) := by
  obtain ⟨w, hstep, hw⟩ := exists_step_of_follow? h
  rw [follow?_of_step (step?_readyFor next hother hstep), hw]

theorem exists_cons_of_not_prefix {p : List String} (h : ¬ q <+: p) :
    ∃ segment rest, q = segment :: rest := by
  refine List.exists_cons_of_ne_nil ?_
  rintro rfl
  exact h List.nil_prefix

/-- What stands off the written path is found as before, also if the writing fails half-way. -/
theorem follow?_assignAt_of_apart (htakes : v.takes segment = true)
    (hp : ∀ s ∈ segment :: rest, IsUnambiguous s) (hq : ∀ s ∈ q, IsUnambiguous s)
    (hpq : ¬ segment :: rest <+: q) (hqp : ¬ q <+: segment :: rest)
    (h : v.follow? q = .ok (some found)) :
    (assignAt value (segment :: rest) v).1.follow? q = .ok (some found) := by
  -- on the written segments; the other path goes along until the two part
  induction rest generalizing v segment q with
  | nil =>
    obtain ⟨other, q, rfl⟩ := exists_cons_of_not_prefix hqp
    have hne : segment ≠ other := fun heq =>
      hpq (List.cons_prefix_cons.2 ⟨heq, List.nil_prefix⟩)
    exact follow?_assignAt_of_ne htakes (hp _ List.mem_cons_self) (hq _ List.mem_cons_self) hne h
  | cons next rest ih =>
    obtain ⟨other, q, rfl⟩ := exists_cons_of_not_prefix hqp
    by_cases hne : segment = other
    · subst hne
      rw [List.cons_prefix_cons, not_and] at hpq hqp
      cases hslot : v.slot? segment with
      | error fault =>
        rw [assignAt_fault htakes hslot]
        exact h
      | ok slot =>
        obtain ⟨w, hstep, hw⟩ := exists_step_of_follow? h
        have hfound : slot.found = some w := by
          rw [step?_slot htakes hslot] at hstep
          exact Except.ok.inj hstep
        obtain ⟨after, q, rfl⟩ := exists_cons_of_not_prefix (hqp rfl)
        rw [assignAt_down next htakes hslot, follow?_of_step (step?_put htakes hslot), hfound]
        obtain ⟨-, hp⟩ := List.forall_mem_cons.1 hp
        obtain ⟨-, hq⟩ := List.forall_mem_cons.1 hq
        have hready := follow?_readyFor next (hq _ List.mem_cons_self) hw
        exact ih (takes_readyFor next (some w)) hp hq (hpq rfl) (hqp rfl) hready
    · exact follow?_assignAt_of_ne htakes (hp _ List.mem_cons_self) (hq _ List.mem_cons_self) hne h

/-! ## Written paths -/

variable {root after : Json} {path p : String}

section
variable (hsegments : segments path = segment :: rest)
include hsegments

theorem assign_of_takes (htakes : root.takes segment = true) (value : Json) :
    root.assign path value = assignAt value (segment :: rest) root := by
  cases root with
  | obj fields => simp only [assign, hsegments]
  | arr items =>
    have hindex : isIndex segment = true := htakes
    simp only [assign, hsegments, hindex, if_true]
  | null | bool | int | float | str => cases htakes

/-- A list takes no key at the top, and a value that is no container takes nothing. -/
theorem exists_fault_of_not_takes (htakes : root.takes segment = false) :
    ∃ fault, ∀ value, root.assign path value = (root, some fault) := by
  cases root with
  | obj fields => cases htakes
  | arr items =>
    have hindex : isIndex segment = false := htakes
    exact ⟨_, fun value => by simp only [assign, hsegments, hindex]; rfl⟩
  | null | bool | int | float | str =>
    cases rest with
    | nil => exact ⟨_, fun value => by simp only [assign, hsegments, assignAt]; rfl⟩
    | cons next rest => exact ⟨_, fun value => by simp only [assign, hsegments, assignAt]; rfl⟩

end

theorem assign_eq (root : Json) (path : String) (value : Json) :
    (∃ fault, root.assign path value = (root, some fault)) ∨
      ∃ segment rest, segments path = segment :: rest ∧ root.takes segment = true ∧
        root.assign path value = assignAt value (segment :: rest) root := by
  obtain ⟨segment, rest, hsegments⟩ := List.exists_cons_of_ne_nil (segments_ne_nil path)
  cases htakes : root.takes segment with
  | true => exact .inr ⟨segment, rest, hsegments, htakes, assign_of_takes hsegments htakes value⟩
  | false =>
    obtain ⟨fault, hfault⟩ := exists_fault_of_not_takes hsegments htakes
    exact .inl ⟨fault, hfault value⟩

/-- What was written is found at the path, however its indices are spelled. -/
theorem at?_assign (h : root.assign path value = (after, none)) {q : String}
    (hq : segments q = segments path) : after.at? q = .ok (some value) := by
  rcases assign_eq root path value with ⟨fault, hfault⟩ | ⟨segment, rest, hsegments, htakes, heq⟩
  · rw [hfault] at h
    cases h
  · rw [at?, hq, hsegments]
    exact follow?_assignAt htakes (heq ▸ h)

/-- A list in the way becomes an object, and a list is filled up. -/
theorem at?_assign_through_list :
    ∃ after, (obj [("a", .arr [.int 1])]).assign "a.b[2].c" (.bool true) = (after, none) ∧
      after.at? "a.b.2.c" = .ok (some (.bool true)) := by
  have h : (obj [("a", .arr [.int 1])]).assign "a.b[2].c" (.bool true) =
      (.obj [("a", .obj [("0", .int 1), ("b", .arr [.null, .null, .obj [("c", .bool true)]])])],
        none) := by rfl
  exact ⟨_, h, at?_assign h (by decide +kernel)⟩

/-- What was found at a path, neither above nor below the written one, is found there still. -/
theorem at?_assign_of_apart {q : String} (value : Json)
    (hp : ∀ s ∈ segments p, IsUnambiguous s) (hq : ∀ s ∈ segments q, IsUnambiguous s)
    (hpq : ¬ segments p <+: segments q) (hqp : ¬ segments q <+: segments p)
    (h : root.at? q = .ok (some found)) : (root.assign p value).1.at? q = .ok (some found) := by
  rcases assign_eq root p value with ⟨fault, hfault⟩ | ⟨segment, rest, hsegments, htakes, heq⟩
  · rw [hfault]
    exact h
  · rw [hsegments] at hp hpq hqp
    rw [heq, at?]
    exact follow?_assignAt_of_apart htakes hp hq hpq hqp h

/-- A note beside the items of a list leaves their headlines. -/
theorem at?_assign_of_apart_note :
    ((obj [("pages", .arr [.obj [("headline", .str "one")]])]).assign "pages.note" (.str "x")).1.at?
      "pages[0].headline" = .ok (some (.str "one")) :=
  at?_assign_of_apart (.str "x") (by decide +kernel) (by decide +kernel) (by decide +kernel)
    (by decide +kernel) rfl

end Json

end FlexForm
