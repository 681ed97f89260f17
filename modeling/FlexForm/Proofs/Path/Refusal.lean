import FlexForm.Proofs.Path.Rewriting
import FlexForm.Proofs.Path.Several

/-! # Where writing stops

Writing into a list needs an index to which the list can grow. Digits that are no number, and
numbers that are too great, stop it where they meet a list. The list is often one that the call has
made itself: the containers on the way to it are made first, and stay. So a call that stops leaves
what writing an empty list would leave, and changes nothing only if the list was there.

* `PathFault.isOfIndex`: the faults of indices.
* `Path.isBounded_eq_false_iff`: the segments to which no list can grow.
* `Json.RefusesKey`, `Json.Blocks`: where a call stops.
* `Json.BreaksOff`, `Json.breaksOff_of_fault`: the place where it stops, and what it leaves.
* `Json.assign_outcome`: when a call stops, why, and when nothing has changed.
-/

namespace FlexForm
set_option autoImplicit false

/-- Reading or writing stops at an index, and not at a key. -/
def PathFault.isOfIndex : PathFault → Bool
  | .index _ | .tooFar | .noIndex => true
  | .keyOnList _ | .noInside _ | .noWriting _ => false

namespace Path

/-- No list can grow to a segment of digits that has no value, nor to a value that is too great. -/
theorem isBounded_eq_false_iff {segment : String} :
    isBounded segment = false ↔
      IsUnreadable segment ∨ ∃ n, IsNumeral segment n ∧ maxLength ≤ n := by
  rw [isBounded, Bool.or_eq_false_iff, Bool.not_eq_false']
  constructor
  · rintro ⟨hindex, hvalue⟩
    rcases index_cases hindex with ⟨n, hn, hnumeral, -⟩ | ⟨e, -, hunreadable⟩
    · rw [hn] at hvalue
      exact .inr ⟨n, hnumeral, Nat.not_lt.1 (of_decide_eq_false hvalue)⟩
    · exact .inl hunreadable
  · rintro (hunreadable | ⟨n, hnumeral, hgreat⟩)
    · obtain ⟨e, he⟩ := hunreadable.exists_error
      exact ⟨hunreadable.1, by rw [he]⟩
    · refine ⟨hnumeral.isIndex, ?_⟩
      rcases index_cases hnumeral.isIndex with ⟨m, hm, hsame, -⟩ | ⟨e, he, -⟩
      · obtain rfl := hsame.unique hnumeral
        rw [hm]
        exact decide_eq_false (Nat.not_lt.2 hgreat)
      · rw [he]

theorem isIndex_of_unbounded {segment : String} (h : isBounded segment = false) :
    isIndex segment = true := by
  rcases isBounded_eq_false_iff.1 h with hunreadable | ⟨n, hnumeral, -⟩
  · exact hunreadable.1
  · exact hnumeral.isIndex

end Path

namespace Json

open FlexForm.Path

variable {v w value after : Json} {found : Option Json} {segment next : String}
  {rest : List String} {slot : Slot} {fault : PathFault}

/-! ## Places for items -/

theorem isOfIndex_of_growthFault? {count n : ℕ} (h : growthFault? count n = some fault) :
    fault.isOfIndex = true := by
  unfold growthFault? at h
  split at h
  next => cases h
  next =>
    cases h
    split <;> rfl

theorem slot?_error (htakes : v.takes segment = true) (h : v.slot? segment = .error fault) :
    (∃ items, v = .arr items) ∧ isBounded segment = false ∧ fault.isOfIndex = true := by
  have hunbounded : isBounded segment = false := by
    refine Bool.eq_false_iff.2 fun hbounded => ?_
    obtain ⟨slot, hslot⟩ := exists_slot htakes (.inr hbounded)
    rw [hslot] at h
    cases h
  cases v with
  | obj fields => cases h
  | arr items =>
    refine ⟨⟨items, rfl⟩, hunbounded, ?_⟩
    rcases slot?_arr_error h with h | ⟨n, -, hgrowth⟩
    · obtain ⟨e, rfl⟩ := position_error h
      rfl
    · exact isOfIndex_of_growthFault? hgrowth
  | null | bool | int | float | str => cases htakes

theorem exists_slot?_error (items : List Json) (h : isBounded segment = false) :
    ∃ fault, (arr items).slot? segment = .error fault := by
  have htakes : (arr items).takes segment = true := isIndex_of_unbounded h
  cases hslot : (arr items).slot? segment with
  | error fault => exact ⟨fault, rfl⟩
  | ok slot =>
    obtain ⟨fields, hobj, -⟩ | ⟨_, n, -, -, hn, hgrowth, -⟩ := slot?_cases htakes hslot
    · cases hobj
    · have hlt : n < maxLength := growthFault?_eq_none_iff.1 hgrowth
      simp only [isBounded, position_eq_ok hn, hlt, decide_true, Bool.or_true] at h
      cases h

/-! ## Ways below a place -/

theorem LeadsTo.readyFor {front more : List String} {fields : List (String × Json)}
    (h : v.LeadsTo front (.obj fields)) (hsegments : next :: rest = front ++ segment :: more) :
    (readyFor next (some v)).LeadsTo front (.obj fields) := by
  cases front with
  | nil =>
    cases h
    exact .here
  | cons first front =>
    obtain rfl : next = first := (List.cons.inj hsegments).1
    rwa [readyFor_of_takes h.takes]

/-- Making a container ready opens no way into it that was not there. -/
theorem leadsTo_of_readyFor (h : (readyFor next found).LeadsTo (next :: rest) w) :
    ∃ v, found = some v ∧ v.LeadsTo (next :: rest) w := by
  have hempty : ¬ (if isIndex next then arr [] else obj []).LeadsTo (next :: rest) w := by
    split
    next =>
      rintro (_ | _ | ⟨-, hitem, -⟩)
      cases hitem
    next =>
      rintro (_ | ⟨hfield, -⟩)
      cases hfield
  cases found with
  | none => exact absurd h hempty
  | some v =>
    refine ⟨v, rfl, ?_⟩
    cases v with
    | obj fields => exact h
    | arr items =>
      rw [readyFor] at h
      split at h
      next => exact h
      next hindex =>
        -- a list that was turned into an object has its indices as keys, and nothing else
        cases h with
        | field hfield _ =>
          obtain ⟨n, hn, hkey⟩ := List.mem_mapIdx.1 (Fields.mem_of_get? hfield)
          simp only [Prod.mk.injEq] at hkey
          exact absurd (hkey.1 ▸ isIndex_toString n) hindex
    | null | bool | int | float | str => exact absurd h hempty

theorem eq_of_readyFor_obj {fields : List (String × Json)} (hindex : isIndex next = true)
    (h : readyFor next found = .obj fields) : found = some (.obj fields) := by
  unfold readyFor at h
  split at h
  next =>
    cases h
    rfl
  next =>
    rw [if_pos hindex] at h
    cases h
  next =>
    rw [if_pos hindex] at h
    cases h

/-- In front of a segment that needs a list, an object is one that was there. -/
theorem leadsTo_obj_of_readyFor {front more : List String} {fields : List (String × Json)}
    (hsegments : next :: rest = front ++ segment :: more) (hindex : isIndex segment = true)
    (h : (readyFor next found).LeadsTo front (.obj fields)) :
    ∃ v, found = some v ∧ v.LeadsTo front (.obj fields) := by
  cases front with
  | nil =>
    obtain rfl : next = segment := (List.cons.inj hsegments).1
    exact ⟨_, eq_of_readyFor_obj hindex (h.unique .here).symm, .here⟩
  | cons first front =>
    obtain rfl : next = first := (List.cons.inj hsegments).1
    exact leadsTo_of_readyFor h

/-! ## Stops -/

/-- The first segment is a key, and the value is a list. -/
def RefusesKey (v : Json) (segments : List String) : Prop :=
  ∃ items key rest, v = .arr items ∧ segments = key :: rest ∧ isIndex key = false

/-- No list can grow to one of the segments, and no object takes it as a key where it stands. -/
def Blocks (v : Json) (segments : List String) : Prop :=
  ∃ front segment rest, segments = front ++ segment :: rest ∧ isBounded segment = false ∧
    ∀ fields, ¬ v.LeadsTo front (.obj fields)

/-- The segments lead to a list that cannot grow to the next one. -/
def BlocksAtList (v : Json) (segments : List String) : Prop :=
  ∃ front segment rest items, segments = front ++ segment :: rest ∧ isBounded segment = false ∧
    v.LeadsTo front (.arr items)

/-- A call stops at a segment with a list before it. It leaves the value if that is the list, and
otherwise what the call would leave that writes the list at the segments before. -/
def BreaksOff (v : Json) (segments : List String) (after : Json) : Prop :=
  ∃ front last more, segments = front ++ last :: more ∧ isBounded last = false ∧
    (∀ fields, ¬ v.LeadsTo front (.obj fields)) ∧
    ∃ items, front = [] ∧ v = .arr items ∧ after = v ∨
      ∃ segment behind, front = segment :: behind ∧
        assignAt (.arr items) (segment :: behind) v = (after, none)

theorem breaksOff_here (htakes : v.takes segment = true) (hslot : v.slot? segment = .error fault) :
    v.BreaksOff (segment :: rest) v := by
  obtain ⟨⟨items, rfl⟩, hunbounded, -⟩ := slot?_error htakes hslot
  refine ⟨[], segment, rest, rfl, hunbounded, ?_, items, .inl ⟨rfl, rfl, rfl⟩⟩
  rintro fields ⟨⟩

theorem breaksOff_below {child : Json} (htakes : v.takes segment = true)
    (hslot : v.slot? segment = .ok slot)
    (h : (readyFor next slot.found).BreaksOff (next :: rest) child) :
    v.BreaksOff (segment :: next :: rest) (slot.put child) := by
  obtain ⟨front, last, more, hsegments, hunbounded, hno, items, hleft⟩ := h
  refine ⟨segment :: front, last, more, by rw [hsegments, List.cons_append], hunbounded, ?_, items,
    .inr ⟨segment, front, rfl, ?_⟩⟩
  · intro fields hway
    obtain ⟨inside, hfound, hinside⟩ := (leadsTo_cons_iff_of_slot htakes hslot).1 hway
    refine hno fields ?_
    rw [hfound]
    exact hinside.readyFor hsegments
  · rcases hleft with ⟨rfl, hlist, rfl⟩ | ⟨first, behind, rfl, hbehind⟩
    · rw [assignAt_last htakes hslot, hlist]
    · obtain rfl : next = first := (List.cons.inj hsegments).1
      rw [assignAt_down next htakes hslot, hbehind]

/-- A call that does not come to an end breaks off, for a reason to do with an index. -/
theorem breaksOff_of_fault (htakes : v.takes segment = true)
    (h : assignAt value (segment :: rest) v = (after, some fault)) :
    fault.isOfIndex = true ∧ v.BreaksOff (segment :: rest) after := by
  induction rest generalizing v segment after with
  | nil =>
    cases hslot : v.slot? segment with
    | ok slot =>
      rw [assignAt_last htakes hslot] at h
      cases h
    | error e =>
      rw [assignAt_fault htakes hslot] at h
      cases h
      exact ⟨(slot?_error htakes hslot).2.2, breaksOff_here htakes hslot⟩
  | cons next rest ih =>
    cases hslot : v.slot? segment with
    | error e =>
      rw [assignAt_fault htakes hslot] at h
      cases h
      exact ⟨(slot?_error htakes hslot).2.2, breaksOff_here htakes hslot⟩
    | ok slot =>
      rw [assignAt_down next htakes hslot, Prod.mk.injEq] at h
      obtain ⟨rfl, hfault⟩ := h
      obtain ⟨hindex, hbelow⟩ := ih (takes_readyFor next slot.found) (Prod.ext rfl hfault)
      exact ⟨hindex, breaksOff_below htakes hslot hbelow⟩

theorem BreaksOff.blocks {segments : List String} (h : v.BreaksOff segments after) :
    v.Blocks segments := by
  obtain ⟨front, last, more, hsegments, hunbounded, hno, -⟩ := h
  exact ⟨front, last, more, hsegments, hunbounded, hno⟩

/-- A call that breaks off and leaves the value as it was has found the list there. -/
theorem BreaksOff.blocksAtList (htakes : v.takes segment = true)
    (h : v.BreaksOff (segment :: rest) v) : v.BlocksAtList (segment :: rest) := by
  obtain ⟨front, last, more, hsegments, hunbounded, -, items, hleft⟩ := h
  refine ⟨front, last, more, items, hsegments, hunbounded, ?_⟩
  rcases hleft with ⟨rfl, rfl, -⟩ | ⟨first, behind, rfl, hbehind⟩
  · exact .here
  · obtain rfl : segment = first := (List.cons.inj hsegments).1
    exact (leadsTo_iff_of_follow? (follow?_assignAt htakes hbehind)).2 rfl

theorem exists_fault_of_blocks (htakes : v.takes segment = true)
    (h : v.Blocks (segment :: rest)) :
    ∃ fault, (assignAt value (segment :: rest) v).2 = some fault := by
  obtain ⟨front, last, more, hsegments, hunbounded, hno⟩ := h
  -- on the segments in front; they lead to no object in any container that is made ready
  induction front generalizing v segment rest with
  | nil =>
    obtain ⟨rfl, rfl⟩ := List.cons.inj hsegments
    cases v with
    | obj fields => exact absurd .here (hno fields)
    | arr items =>
      obtain ⟨fault, hslot⟩ := exists_slot?_error items hunbounded
      exact ⟨fault, by rw [assignAt_fault htakes hslot]⟩
    | null | bool | int | float | str => cases htakes
  | cons first front ih =>
    obtain ⟨rfl, hrest⟩ := List.cons.inj hsegments
    cases hslot : v.slot? segment with
    | error fault => exact ⟨fault, by rw [assignAt_fault htakes hslot]⟩
    | ok slot =>
      obtain ⟨next, others, rfl⟩ : ∃ next others, rest = next :: others :=
        List.exists_cons_of_ne_nil (by simp [hrest])
      rw [assignAt_down next htakes hslot]
      refine ih (takes_readyFor next slot.found) hrest ?_
      intro fields hway
      exact hno fields ((leadsTo_cons_iff_of_slot htakes hslot).2
        (leadsTo_obj_of_readyFor hrest (isIndex_of_unbounded hunbounded) hway))

theorem assignAt_stops_iff (htakes : v.takes segment = true) :
    (∃ fault, (assignAt value (segment :: rest) v).2 = some fault) ↔
      v.Blocks (segment :: rest) := by
  constructor
  · rintro ⟨fault, hfault⟩
    exact (breaksOff_of_fault htakes (Prod.ext rfl hfault)).2.blocks
  · exact exists_fault_of_blocks htakes

/-- A list that was there stops the call before anything is made. -/
theorem assignAt_kept_of_blocksAtList (h : v.BlocksAtList (segment :: rest)) :
    (assignAt value (segment :: rest) v).1 = v := by
  obtain ⟨front, last, more, items, hsegments, hunbounded, hway⟩ := h
  have htakes : (arr items).takes last = true := isIndex_of_unbounded hunbounded
  obtain ⟨fault, hslot⟩ := exists_slot?_error items hunbounded
  -- nothing is made on the way to the list, so the case of a value that leaves it alone applies
  rw [hsegments]
  exact assignAt_of_leadsTo hway htakes (by rw [assignAt_fault htakes hslot])

theorem BlocksAtList.blocks {segments : List String} (h : v.BlocksAtList segments) :
    v.Blocks segments := by
  obtain ⟨front, segment, rest, items, hsegments, hunbounded, hway⟩ := h
  refine ⟨front, segment, rest, hsegments, hunbounded, fun fields hother => ?_⟩
  cases hway.unique hother

/-! ## Written paths -/

theorem refusesKey_iff (hroot : v.isContainer = true) :
    v.RefusesKey (segment :: rest) ↔ v.takes segment = false := by
  constructor
  · rintro ⟨items, key, more, rfl, hsegments, hkey⟩
    obtain ⟨rfl, -⟩ := List.cons.inj hsegments
    exact hkey
  · intro htakes
    cases v with
    | arr items => exact ⟨items, segment, rest, rfl, rfl, htakes⟩
    | obj => cases htakes
    | null | bool | int | float | str => cases hroot

theorem assign_of_refusesKey {root : Json} {path : String} (h : root.RefusesKey (segments path)) :
    ∃ key, root.assign path value = (root, some (.keyOnList key)) := by
  obtain ⟨items, key, rest, rfl, hsegments, hkey⟩ := h
  refine ⟨key, ?_⟩
  simp only [assign, hsegments, hkey]
  rfl

/-- A call at a path stops in two cases only. A list takes no key at the top; that is told and
changes nothing. And no list grows to an index that is no number or too great a one; then nothing
has changed exactly if the list was there. -/
theorem assign_outcome {root : Json} (hroot : root.isContainer = true) (path : String)
    (value : Json) :
    ((∃ key, (root.assign path value).2 = some (.keyOnList key)) ↔
        root.RefusesKey (segments path)) ∧
      ((∃ fault, (root.assign path value).2 = some fault ∧ fault.isOfIndex = true) ↔
        ¬ root.RefusesKey (segments path) ∧ root.Blocks (segments path)) ∧
      ((root.assign path value).2 = none ↔
        ¬ root.RefusesKey (segments path) ∧ ¬ root.Blocks (segments path)) ∧
      ((root.assign path value).2 ≠ none ∧ (root.assign path value).1 = root ↔
        root.RefusesKey (segments path) ∨ root.BlocksAtList (segments path)) := by
  obtain ⟨segment, rest, hsegments⟩ := List.exists_cons_of_ne_nil (segments_ne_nil path)
  cases htakes : root.takes segment with
  | false =>
    have hrefuses : root.RefusesKey (segments path) := by
      rw [hsegments]
      exact (refusesKey_iff hroot).2 htakes
    obtain ⟨key, hkey⟩ : ∃ key, root.assign path value = (root, some (.keyOnList key)) :=
      assign_of_refusesKey hrefuses
    simp [hkey, hrefuses, PathFault.isOfIndex]
  | true =>
    have hrefuses : ¬ root.RefusesKey (segment :: rest) := by
      rw [refusesKey_iff hroot, htakes]
      exact Bool.false_ne_true.symm
    have hstops : (∃ fault, (assignAt value (segment :: rest) root).2 = some fault) ↔
        root.Blocks (segment :: rest) := assignAt_stops_iff htakes
    rw [hsegments, assign_of_takes hsegments htakes]
    rcases hassign : assignAt value (segment :: rest) root with ⟨after, _ | fault⟩
    · have hblocks : ¬ root.Blocks (segment :: rest) := by
        rw [← hstops, hassign]
        simp
      have hlist : ¬ root.BlocksAtList (segment :: rest) := fun h => hblocks h.blocks
      simp [hrefuses, hblocks, hlist]
    · have hblocks : root.Blocks (segment :: rest) := hstops.1 ⟨fault, by rw [hassign]⟩
      obtain ⟨hindex, hbreaks⟩ := breaksOff_of_fault htakes hassign
      have hkept : after = root ↔ root.BlocksAtList (segment :: rest) := by
        constructor
        · rintro rfl
          exact hbreaks.blocksAtList htakes
        · intro h
          have hsame : (assignAt value (segment :: rest) root).1 = root :=
            assignAt_kept_of_blocksAtList h
          rwa [hassign] at hsame
      cases fault with
      | index | tooFar | noIndex => simp [hrefuses, hblocks, hkept, PathFault.isOfIndex]
      | keyOnList | noInside | noWriting => cases hindex

/-- The list that is made for a superscript does not take it, and stays. -/
theorem assign_outcome_superscript :
    (obj []).isContainer = true ∧
      (obj []).assign "a.²" (.int 1) =
        (obj [("a", .arr [])], some (.index (.notDecimal "²"))) ∧
      ¬ (obj []).RefusesKey (segments "a.²") ∧ (obj []).Blocks (segments "a.²") ∧
      ¬ (obj []).BlocksAtList (segments "a.²") := by
  have hroot : (obj []).isContainer = true := rfl
  have hassign : (obj []).assign "a.²" (.int 1) =
      (obj [("a", .arr [])], some (.index (.notDecimal "²"))) := by rfl
  obtain ⟨-, hindex, -, hkept⟩ := assign_outcome hroot "a.²" (.int 1)
  rw [hassign] at hindex hkept
  obtain ⟨hrefuses, hblocks⟩ := hindex.1 ⟨_, rfl, rfl⟩
  refine ⟨hroot, hassign, hrefuses, hblocks, fun hlist => ?_⟩
  obtain ⟨-, hsame⟩ := hkept.2 (.inr hlist)
  cases hsame

end Json

end FlexForm
