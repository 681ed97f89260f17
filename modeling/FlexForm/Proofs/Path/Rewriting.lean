import FlexForm.Proofs.Path.Resolution
import FlexForm.Proofs.Path.Writing

/-! # Writing again

A place of a container is a lens: what is put there is found there, putting something else there
leaves no trace of it, and putting back what is found changes nothing. Writing makes each container
on its way ready for the next segment; one that takes that segment is ready as it stands. So a
second call at a path finds the way of the first one made, and along a way that leads somewhere
nothing has to be made.

* `Json.slot?_put`, `Json.put_found`: the laws of one place.
* `Json.assignAt_assignAt`: writing twice.
* `Json.assignAt_of_leadsTo`: writing below a value to which the segments lead.
* `Json.assign_again`: the laws of written paths.
-/

namespace FlexForm.Json
set_option autoImplicit false

open FlexForm.Path

variable {v w child value found : Json} {segment next : String} {front rest : List String}
  {slot : Slot}

/-! ## Items -/

theorem setItem_setItem (items : List Json) (n : ℕ) (v w : Json) :
    setItem (setItem items n v) n w = setItem items n w := by
  by_cases hlt : n < items.length
  · rw [setItem, setItem, setItem, if_pos hlt, if_pos hlt, List.length_set, if_pos hlt,
      List.set_set]
  · have hlength : (items ++ List.replicate (n - items.length) null).length = n := by
      rw [List.length_append, List.length_replicate]
      omega
    have hafter (v : Json) :
        setItem items n v = items ++ List.replicate (n - items.length) null ++ [v] := if_neg hlt
    rw [hafter, hafter, setItem, if_pos (by simp only [List.length_append, hlength]; simp),
      List.set_append_right _ _ (Nat.le_of_eq hlength), hlength, Nat.sub_self, List.set_cons_zero]

theorem setItem_of_getElem? {items : List Json} {n : ℕ} (h : items[n]? = some v) :
    setItem items n v = items := by
  obtain ⟨hlt, rfl⟩ := List.getElem?_eq_some_iff.1 h
  rw [setItem, if_pos hlt, List.set_getElem_self]

theorem growthFault?_eq_none_iff {count n : ℕ} : growthFault? count n = none ↔ n < maxLength := by
  simp [growthFault?]

/-! ## Places -/

/-- After something was put at a place, it is found there, and puts of other values are the same. -/
theorem slot?_put (child : Json) (htakes : v.takes segment = true)
    (h : v.slot? segment = .ok slot) :
    (slot.put child).slot? segment = .ok ⟨some child, slot.put⟩ := by
  rcases slot?_cases htakes h with ⟨fields, rfl, rfl⟩ | ⟨items, n, rfl, -, hn, hgrowth, rfl⟩
  · simp only [slot?, Fields.get?_insert_self, Fields.insert_insert_self]
  · have hlonger (more : List Json) : growthFault? more.length n = none :=
      growthFault?_eq_none_iff.2 (growthFault?_eq_none_iff.1 hgrowth)
    simp only [slot?, hn, bind, Except.bind, hlonger, getElem?_setItem_self, setItem_setItem]

theorem takes_put (child : Json) (htakes : v.takes segment = true)
    (h : v.slot? segment = .ok slot) : (slot.put child).takes segment = true := by
  rcases slot?_cases htakes h with ⟨fields, rfl, rfl⟩ | ⟨items, n, rfl, hindex, -, -, rfl⟩
  · rfl
  · exact hindex

/-- Putting back what is found changes nothing. -/
theorem put_found (htakes : v.takes segment = true) (h : v.slot? segment = .ok slot)
    (hfound : slot.found = some child) : slot.put child = v := by
  rcases slot?_cases htakes h with ⟨fields, rfl, rfl⟩ | ⟨items, n, rfl, -, -, -, rfl⟩
  · exact congrArg obj (Fields.insert_of_get? hfound)
  · exact congrArg arr (setItem_of_getElem? hfound)

theorem readyFor_of_takes (h : child.takes next = true) : readyFor next (some child) = child := by
  cases child with
  | obj fields => rfl
  | arr items => exact if_pos h
  | null | bool | int | float | str => cases h

/-! ## Writing twice -/

theorem takes_assignAt (htakes : v.takes segment = true) :
    (assignAt value (segment :: rest) v).1.takes segment = true := by
  cases hslot : v.slot? segment with
  | error fault =>
    rw [assignAt_fault htakes hslot]
    exact htakes
  | ok slot =>
    cases rest with
    | nil =>
      rw [assignAt_last htakes hslot]
      exact takes_put value htakes hslot
    | cons next rest =>
      rw [assignAt_down next htakes hslot]
      exact takes_put _ htakes hslot

/-- Of two calls at the same segments, the second does what it would do alone. -/
theorem assignAt_assignAt (v w : Json) {root : Json} (htakes : root.takes segment = true) :
    assignAt w (segment :: rest) (assignAt v (segment :: rest) root).1 =
      assignAt w (segment :: rest) root := by
  -- on the segments; below the first one, the second call finds the container of the first ready
  induction rest generalizing root segment with
  | nil =>
    cases hslot : root.slot? segment with
    | error fault => rw [assignAt_fault htakes hslot]
    | ok slot =>
      rw [assignAt_last htakes hslot, assignAt_last htakes hslot,
        assignAt_last (takes_put v htakes hslot) (slot?_put v htakes hslot)]
  | cons next rest ih =>
    cases hslot : root.slot? segment with
    | error fault => rw [assignAt_fault htakes hslot]
    | ok slot =>
      have hready := takes_readyFor next slot.found
      rw [assignAt_down next htakes hslot, assignAt_down next htakes hslot,
        assignAt_down next (takes_put _ htakes hslot) (slot?_put _ htakes hslot),
        readyFor_of_takes (takes_assignAt hready), ih hready]

/-- Where writing stops does not depend on what is written. -/
theorem assignAt_snd (v w : Json) {root : Json} (htakes : root.takes segment = true) :
    (assignAt v (segment :: rest) root).2 = (assignAt w (segment :: rest) root).2 := by
  induction rest generalizing root segment with
  | nil =>
    cases hslot : root.slot? segment with
    | error fault => rw [assignAt_fault htakes hslot, assignAt_fault htakes hslot]
    | ok slot => rw [assignAt_last htakes hslot, assignAt_last htakes hslot]
  | cons next rest ih =>
    cases hslot : root.slot? segment with
    | error fault => rw [assignAt_fault htakes hslot, assignAt_fault htakes hslot]
    | ok slot =>
      rw [assignAt_down next htakes hslot, assignAt_down next htakes hslot]
      exact ih (takes_readyFor next slot.found)

/-! ## Writing along a way that is there -/

theorem LeadsTo.takes (h : v.LeadsTo (segment :: rest) w) : v.takes segment = true := by
  cases h with
  | field => rfl
  | item hnumeral => exact hnumeral.isIndex

theorem leadsTo_cons_iff_of_slot (htakes : v.takes segment = true)
    (hslot : v.slot? segment = .ok slot) :
    v.LeadsTo (segment :: rest) w ↔ ∃ inside, slot.found = some inside ∧ inside.LeadsTo rest w :=
  leadsTo_cons_iff (step?_slot htakes hslot)

/-- No container is made on the way to a value. So if writing leaves that value alone, it leaves the
whole alone. -/
theorem assignAt_of_leadsTo {root : Json} (hway : root.LeadsTo front w)
    (htakes : w.takes segment = true) (h : (assignAt value (segment :: rest) w).1 = w) :
    (assignAt value (front ++ segment :: rest) root).1 = root := by
  induction front generalizing root with
  | nil =>
    cases hway
    exact h
  | cons first front ih =>
    have hfirst := hway.takes
    cases hslot : root.slot? first with
    | error fault => rw [List.cons_append, assignAt_fault hfirst hslot]
    | ok slot =>
      obtain ⟨inside, hfound, hinside⟩ := (leadsTo_cons_iff_of_slot hfirst hslot).1 hway
      obtain ⟨next, more, hmore, hnext⟩ : ∃ next more, front ++ segment :: rest = next :: more ∧
          inside.takes next = true := by
        cases front with
        | nil =>
          cases hinside
          exact ⟨segment, rest, rfl, htakes⟩
        | cons next front => exact ⟨next, front ++ segment :: rest, rfl, hinside.takes⟩
      have hsame := ih hinside
      rw [hmore] at hsame
      rw [List.cons_append, hmore, assignAt_down next hfirst hslot, hfound, readyFor_of_takes hnext,
        hsame, put_found hfirst hslot hfound]

theorem assignAt_self {root : Json} (hway : root.LeadsTo (front ++ [segment]) value) :
    (assignAt value (front ++ [segment]) root).1 = root := by
  obtain ⟨inside, hfront, hlast⟩ := hway.split
  have htakes := hlast.takes
  refine assignAt_of_leadsTo hfront htakes ?_
  cases hslot : inside.slot? segment with
  | error fault => rw [assignAt_fault htakes hslot]
  | ok slot =>
    obtain ⟨found, hfound, hvalue⟩ := (leadsTo_cons_iff_of_slot htakes hslot).1 hlast
    cases hvalue
    rw [assignAt_last htakes hslot, put_found htakes hslot hfound]

/-! ## Written paths -/

/-- Of two calls at a path, the second leaves what it leaves alone, with the same order of keys, and
both stop in the same cases. Writing the value that stands at the path changes nothing. -/
theorem assign_again (root : Json) (path : String) (v w : Json) :
    (root.assign path v).1.assign path w = root.assign path w ∧
      (root.assign path v).2 = (root.assign path w).2 ∧
      (root.at? path = .ok (some v) → (root.assign path v).1 = root) := by
  obtain ⟨segment, rest, hsegments⟩ := List.exists_cons_of_ne_nil (segments_ne_nil path)
  cases htakes : root.takes segment with
  | false =>
    obtain ⟨fault, hfault⟩ := exists_fault_of_not_takes hsegments htakes
    simp only [hfault, implies_true, and_self]
  | true =>
    have hassign := assign_of_takes hsegments htakes
    refine ⟨?_, ?_, ?_⟩
    · rw [hassign, hassign, assign_of_takes hsegments (takes_assignAt htakes),
        assignAt_assignAt v w htakes]
    · rw [hassign, hassign]
      exact assignAt_snd v w htakes
    · intro h
      obtain ⟨front, last, hlast⟩ : ∃ front last, segment :: rest = front ++ [last] :=
        (List.eq_nil_or_concat' _).resolve_left (List.cons_ne_nil segment rest)
      have hway : root.LeadsTo (segments path) v := (leadsTo_iff_of_follow? h).2 rfl
      rw [hsegments, hlast] at hway
      rw [hassign, hlast]
      exact assignAt_self hway

/-- The first call turns a list into an object and makes another list; the second finds both. The
item of a list is written back. -/
theorem assign_again_through_list :
    let root : Json := obj [("a", .arr [.int 1])]
    (root.assign "a.b[2]" (.str "x")).1.assign "a.b[2]" (.str "y") =
        root.assign "a.b[2]" (.str "y") ∧
      root.assign "a.b[2]" (.str "y") =
        (obj [("a", obj [("0", .int 1), ("b", .arr [.null, .null, .str "y"])])], none) ∧
      root.at? "a[0]" = .ok (some (.int 1)) ∧ (root.assign "a[0]" (.int 1)).1 = root := by
  intro root
  have hitem : root.at? "a[0]" = .ok (some (.int 1)) := by rfl
  exact ⟨(assign_again root "a.b[2]" (.str "x") (.str "y")).1, by rfl, hitem,
    (assign_again root "a[0]" (.int 1) .null).2.2 hitem⟩

end FlexForm.Json
