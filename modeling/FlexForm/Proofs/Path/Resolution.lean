import FlexForm.Proofs.Path.Location
import Mathlib.Data.Nat.Digits.Defs

/-! # What a path leads to

The segments of a path lead through keys of objects and indices of lists. An index is a number in
decimal digits of any script. There are digits besides those, and a limit to how many are read; a
segment that is all digits and still no index is harmless as a key, and stops the reading when it
meets a list. Everything else that leads nowhere is just not found.

* `Path.IsNumeral`, `Path.IsUnreadable`: segments with and without a value as an index.
* `Json.LeadsTo`: the value to which segments lead.
* `Json.Stalls`: the segments lead to a list and on to an unreadable one.
* `Json.at?_outcome`: what is read, and where the reading stops.
-/

namespace FlexForm
set_option autoImplicit false

namespace Path

variable {segment : String} {n m : ℕ}

/-! ## Numbers -/

/-- The segment is made of decimal digits, of whatever script, and this is their value. -/
def IsNumeral (segment : String) (n : ℕ) : Prop :=
  ∃ digits : List ℕ, digits ≠ [] ∧ segment.toList.map Text.decimalValue? = digits.map some ∧
    n = Nat.ofDigits 10 digits.reverse

/-- The segment is made of digits and has no value: not all of them are decimal, or there are more
than are read. -/
def IsUnreadable (segment : String) : Prop :=
  isIndex segment = true ∧
    ((∃ c ∈ segment.toList, Text.isDecimalDigit c = false) ∨ 4300 < segment.toList.length)

theorem isDigit_of_isDecimalDigit {c : Char} (h : Text.isDecimalDigit c = true) :
    Text.isDigit c = true := by
  unfold Text.isDigit
  split
  next hascii =>
    rw [Text.isDecimalDigit, Text.decimalValue?, if_pos hascii] at h
    split at h
    next hrange =>
      simp only [Bool.and_eq_true, decide_eq_true_eq] at hrange
      simpa [Char.isDigit, UInt32.le_iff_toNat_le] using hrange
    next => cases h
  next => rw [h, Bool.true_or]

theorem IsNumeral.isDecimalDigit (h : IsNumeral segment n) :
    ∀ c ∈ segment.toList, Text.isDecimalDigit c = true := by
  obtain ⟨digits, -, hdigits, -⟩ := h
  intro c hc
  have hmem : Text.decimalValue? c ∈ digits.map some :=
    hdigits ▸ List.mem_map_of_mem (f := Text.decimalValue?) hc
  obtain ⟨d, -, hd⟩ := List.mem_map.1 hmem
  rw [Text.isDecimalDigit, ← hd]
  rfl

theorem IsNumeral.isIndex (h : IsNumeral segment n) : isIndex segment = true := by
  obtain ⟨digits, hne, hdigits, -⟩ := id h
  rw [Path.isIndex, Bool.and_eq_true, List.all_eq_true]
  refine ⟨bne_iff_ne.2 ?_, fun c hc => isDigit_of_isDecimalDigit (h.isDecimalDigit c hc)⟩
  rintro rfl
  exact hne (List.map_eq_nil_iff.1 hdigits.symm)

theorem IsNumeral.unique (hn : IsNumeral segment n) (hm : IsNumeral segment m) : n = m := by
  obtain ⟨digits, -, hdigits, rfl⟩ := hn
  obtain ⟨others, -, hothers, rfl⟩ := hm
  rw [List.map_injective_iff.2 (Option.some_injective ℕ) (hdigits.symm.trans hothers)]

theorem foldl_getD (digits : List ℕ) :
    (digits.map some).foldl (fun n v => n * 10 + v.getD 0) 0 = Nat.ofDigits 10 digits.reverse := by
  have hstep (d n : ℕ) : n * 10 + d = d + 10 * n := by omega
  rw [List.foldl_map, List.foldl_eq_foldr_reverse, Nat.ofDigits_eq_foldr]
  simp only [Option.getD_some, Nat.cast_id, hstep]

theorem exists_map_some {values : List (Option ℕ)} (h : ∀ v ∈ values, v.isSome = true) :
    ∃ digits : List ℕ, digits.map some = values := by
  have hsame : values.map (some ∘ (·.getD 0)) = values.map id := by
    refine List.map_congr_left fun v hv => ?_
    obtain ⟨d, rfl⟩ := Option.isSome_iff_exists.1 (h v hv)
    rfl
  exact ⟨values.map (·.getD 0), by rw [List.map_map, hsame, List.map_id]⟩

theorem index_cases (hindex : isIndex segment = true) :
    (∃ n, index segment = .ok n ∧ IsNumeral segment n ∧ segment.toList.length ≤ 4300) ∨
      ∃ e, index segment = .error e ∧ IsUnreadable segment := by
  simp only [index]
  by_cases hdecimal : ∀ v ∈ segment.toList.map Text.decimalValue?, v.isSome = true
  · have hcount : ((segment.toList.map Text.decimalValue?).takeWhile Option.isSome).length =
        segment.toList.length := by
      rw [List.takeWhile_eq_self_iff.2 hdecimal, List.length_map]
    by_cases hlong : segment.toList.length > 4300
    · refine .inr ⟨.tooLong segment.toList.length, ?_, hindex, .inr hlong⟩
      simp only [hcount, hlong, if_true]
    · obtain ⟨digits, hdigits⟩ : ∃ digits : List ℕ,
          digits.map some = segment.toList.map Text.decimalValue? := exists_map_some hdecimal
      have hne : segment ≠ "" := bne_iff_ne.1 (Bool.and_eq_true_iff.1 hindex).1
      refine .inl ⟨Nat.ofDigits 10 digits.reverse, ?_, ⟨digits, ?_, hdigits.symm, rfl⟩,
        Nat.not_lt.1 hlong⟩
      · rw [if_neg (hcount ▸ hlong), if_pos (List.all_eq_true.2 hdecimal), ← hdigits, foldl_getD]
      · rintro rfl
        simp [hne] at hdigits
  · have hlone : ∃ c ∈ segment.toList, Text.isDecimalDigit c = false := by
      simpa [Text.isDecimalDigit] using hdecimal
    refine .inr ?_
    split
    next => exact ⟨_, rfl, hindex, .inl hlone⟩
    next =>
      rw [if_neg fun hall => hdecimal (List.all_eq_true.1 hall)]
      exact ⟨_, rfl, hindex, .inl hlone⟩

theorem IsNumeral.not_isUnreadable (h : IsNumeral segment n)
    (hlength : segment.toList.length ≤ 4300) : ¬ IsUnreadable segment := by
  rintro ⟨-, ⟨c, hc, hlone⟩ | hlong⟩
  · rw [h.isDecimalDigit c hc] at hlone
    cases hlone
  · exact Nat.not_lt.2 hlength hlong

theorem IsUnreadable.exists_error (h : IsUnreadable segment) : ∃ e, index segment = .error e := by
  rcases index_cases h.1 with ⟨n, -, hnumeral, hlength⟩ | ⟨e, he, -⟩
  · exact absurd h (hnumeral.not_isUnreadable hlength)
  · exact ⟨e, he⟩

theorem isReadable_eq_false_iff : isReadable segment = false ↔ IsUnreadable segment := by
  rw [isReadable, Bool.or_eq_false_iff, Bool.not_eq_false']
  constructor
  · rintro ⟨hindex, hvalue⟩
    rcases index_cases hindex with ⟨n, hn, -⟩ | ⟨e, -, h⟩
    · rw [hn] at hvalue
      cases hvalue
    · exact h
  · intro h
    obtain ⟨e, he⟩ := h.exists_error
    exact ⟨h.1, by rw [he]; rfl⟩

theorem isNumeral_of_position (hindex : isIndex segment = true) (h : position segment = .ok n) :
    IsNumeral segment n := by
  unfold position at h
  rcases index_cases hindex with ⟨m, hm, hnumeral, -⟩ | ⟨e, he, -⟩
  · rw [hm] at h
    cases h
    exact hnumeral
  · rw [he] at h
    cases h

end Path

namespace Json

open FlexForm.Path

/-! ## Ways -/

/-- The segments lead from the first value to the second, by keys and by numbers of items. -/
inductive LeadsTo : Json → List String → Json → Prop
  | here {v : Json} : LeadsTo v [] v
  | field {fields : List (String × Json)} {key : String} {v w : Json} {rest : List String}
      (hfield : Fields.get? fields key = some v) (hrest : LeadsTo v rest w) :
      LeadsTo (.obj fields) (key :: rest) w
  | item {items : List Json} {segment : String} {n : ℕ} {v w : Json} {rest : List String}
      (hnumeral : IsNumeral segment n) (hitem : items[n]? = some v) (hrest : LeadsTo v rest w) :
      LeadsTo (.arr items) (segment :: rest) w

theorem LeadsTo.split {front rest : List String} {v w : Json} (h : v.LeadsTo (front ++ rest) w) :
    ∃ inside, v.LeadsTo front inside ∧ inside.LeadsTo rest w := by
  induction front generalizing v with
  | nil => exact ⟨v, .here, h⟩
  | cons segment front ih =>
    cases h with
    | field hfield hrest =>
      obtain ⟨inside, hfront, hinside⟩ := ih hrest
      exact ⟨inside, .field hfield hfront, hinside⟩
    | item hnumeral hitem hrest =>
      obtain ⟨inside, hfront, hinside⟩ := ih hrest
      exact ⟨inside, .item hnumeral hitem hfront, hinside⟩

theorem LeadsTo.unique {v w u : Json} {rest : List String} (hw : v.LeadsTo rest w)
    (hu : v.LeadsTo rest u) : w = u := by
  induction hw with
  | here =>
    cases hu
    rfl
  | field hfield _ ih =>
    cases hu with
    | field hother hrest =>
      cases hfield.symm.trans hother
      exact ih hrest
  | item hnumeral hitem _ ih =>
    cases hu with
    | item hother hsame hrest =>
      cases hnumeral.unique hother
      cases hitem.symm.trans hsame
      exact ih hrest

/-- On their way, the segments lead to a list and to an unreadable segment behind it. -/
def Stalls (v : Json) (segments : List String) : Prop :=
  ∃ front segment rest items, segments = front ++ segment :: rest ∧
    v.LeadsTo front (.arr items) ∧ IsUnreadable segment

variable {v w : Json} {found : Option Json} {fault : PathFault} {segment : String}
  {rest : List String}

theorem leadsTo_cons_iff (h : v.step? segment = .ok found) :
    v.LeadsTo (segment :: rest) w ↔ ∃ inside, found = some inside ∧ inside.LeadsTo rest w := by
  constructor
  · intro hway
    cases hway with
    | field hfield hrest => exact ⟨_, (Except.ok.inj h).symm.trans hfield, hrest⟩
    | item hnumeral hitem hrest =>
      rw [step?, if_pos hnumeral.isIndex] at h
      obtain ⟨m, hm, h⟩ := exists_of_bind_ok h
      obtain rfl := (isNumeral_of_position hnumeral.isIndex hm).unique hnumeral
      exact ⟨_, (Except.ok.inj h).symm.trans hitem, hrest⟩
  · rintro ⟨inside, rfl, hrest⟩
    cases v with
    | obj fields => exact .field (Except.ok.inj h) hrest
    | arr items =>
      obtain ⟨hindex, n, hn, hitem⟩ := step?_arr_eq_some h
      exact .item (isNumeral_of_position hindex hn) hitem hrest
    | null | bool | int | float | str => cases h

/-- What is read is what the segments lead to. -/
theorem leadsTo_iff_of_follow? (h : v.follow? rest = .ok found) :
    v.LeadsTo rest w ↔ found = some w := by
  induction rest generalizing v with
  | nil =>
    cases h
    constructor
    · rintro ⟨⟩
      rfl
    · rintro ⟨⟩
      exact .here
  | cons segment rest ih =>
    rw [follow?_cons] at h
    obtain ⟨next, hstep, h⟩ := exists_of_bind_ok h
    rw [leadsTo_cons_iff hstep]
    cases next with
    | none =>
      cases h
      simp
    | some inside =>
      rw [← ih h]
      simp

theorem step?_error_iff :
    (∃ fault, v.step? segment = .error fault) ↔ ∃ items, v = .arr items ∧ IsUnreadable segment := by
  constructor
  · rintro ⟨fault, h⟩
    have hsegment := isReadable_eq_false_iff.1 (step?_error h).1
    cases v with
    | arr items => exact ⟨items, rfl, hsegment⟩
    | obj | null | bool | int | float | str => cases h
  · rintro ⟨items, rfl, hsegment⟩
    obtain ⟨e, he⟩ := hsegment.exists_error
    refine ⟨.index e, ?_⟩
    rw [step?, if_pos hsegment.1, position, he]
    rfl

theorem follow?_error_iff :
    (∃ fault, v.follow? rest = .error fault) ↔ v.Stalls rest := by
  constructor
  · rintro ⟨fault, h⟩
    induction rest generalizing v with
    | nil => cases h
    | cons segment rest ih =>
      rw [follow?_cons] at h
      rcases bind_eq_error_iff.1 h with h | ⟨next, hstep, h⟩
      · obtain ⟨items, rfl, hsegment⟩ := step?_error_iff.1 ⟨fault, h⟩
        exact ⟨[], segment, rest, items, rfl, .here, hsegment⟩
      · cases next with
        | none => cases h
        | some inside =>
          obtain ⟨front, last, more, items, rfl, hway, hlast⟩ := ih h
          exact ⟨segment :: front, last, more, items, rfl,
            (leadsTo_cons_iff hstep).2 ⟨inside, rfl, hway⟩, hlast⟩
  · rintro ⟨front, last, more, items, rfl, hway, hlast⟩
    induction front generalizing v with
    | nil =>
      cases hway
      obtain ⟨fault, h⟩ := step?_error_iff.2 ⟨items, rfl, hlast⟩
      exact ⟨fault, by rw [List.nil_append, follow?_cons, h]; rfl⟩
    | cons segment front ih =>
      rw [List.cons_append, follow?_cons]
      cases hstep : v.step? segment with
      | error fault => exact ⟨fault, rfl⟩
      | ok next =>
        obtain ⟨inside, rfl, hinside⟩ := (leadsTo_cons_iff hstep).1 hway
        exact ih hinside

/-! ## Paths -/

/-- Reading finds the value to which the segments lead, or nothing where they lead to none. It stops
with a complaint about an index in the remaining case, when they lead to a list and on to an
unreadable segment; some value is like that exactly if the path has such a segment. -/
theorem at?_outcome (path : String) :
    (∀ v : Json,
      (∀ w, v.at? path = .ok (some w) ↔ v.LeadsTo (segments path) w ∧ ¬ v.Stalls (segments path)) ∧
      (v.at? path = .ok none ↔
        (∀ w, ¬ v.LeadsTo (segments path) w) ∧ ¬ v.Stalls (segments path)) ∧
      ((∃ e, v.at? path = .error (.index e)) ↔ v.Stalls (segments path))) ∧
    ((∃ v : Json, v.Stalls (segments path)) ↔ ∃ s ∈ segments path, IsUnreadable s) := by
  refine ⟨fun v => ?_, ?_⟩
  · have hstalls : (∃ fault, v.at? path = .error fault) ↔ v.Stalls (segments path) :=
      follow?_error_iff
    rw [← hstalls]
    cases h : v.at? path with
    | error fault =>
      obtain ⟨-, e, rfl⟩ := at?_error h
      simp
    | ok found =>
      have hway (w) : v.LeadsTo (segments path) w ↔ found = some w := leadsTo_iff_of_follow? h
      refine ⟨fun w => by simp [hway], ?_, by simp⟩
      cases found <;> simp [hway]
  · constructor
    · rintro ⟨v, front, segment, rest, items, hsegments, -, hsegment⟩
      exact ⟨segment, hsegments ▸ List.mem_append_right _ List.mem_cons_self, hsegment⟩
    · rintro ⟨s, hs, hsegment⟩
      -- otherwise no value would stop the reading, and that is so of readable segments only
      by_contra hnone
      have hopen : isOpen path = true := isOpen_of_at? fun v => by
        cases h : v.at? path with
        | ok found => rfl
        | error fault => exact absurd ⟨v, follow?_error_iff.1 ⟨fault, h⟩⟩ hnone
      have hreadable := List.all_eq_true.1 hopen s hs
      rw [isReadable_eq_false_iff.2 hsegment] at hreadable
      cases hreadable

/-- A superscript is a digit, but no decimal one. -/
example : (arr [.int 1]).at? "²" = .error (.index (.notDecimal "²")) := by rfl

end Json

end FlexForm
