import FlexForm.Proofs.Json.Reading
import FlexForm.Proofs.Json.Sound

/-! # What merging keeps

Merging goes down two values together as long as both are objects, so what it does is said by rows
of keys: what a row leads to in the merged value follows from what it leads to in the two.

* `get?_merge_of_some`, `get?_merge_of_none`: the value of one key of a merged object.
* `keys_mergeFields`: the keys of a merged object, in order.
* `under?`: the value to which a row of keys leads.
* `merge_merge`: merging the same patch again changes nothing.
* `merge_keeps`: what the patch has wins, what it does not touch stays, and nothing else is there.
-/

namespace FlexForm.Json
set_option autoImplicit false

/-! ## Keys -/

theorem fieldsDistinct_erase {fields : List (String × Json)} (key : String)
    (h : fieldsDistinct fields = true) : fieldsDistinct (Fields.erase fields key) = true := by
  induction fields with
  | nil => rfl
  | cons f rest ih =>
    obtain ⟨k, v⟩ := f
    simp only [fieldsDistinct, Bool.and_eq_true, Bool.not_eq_true'] at h
    obtain ⟨⟨hk, hv⟩, hrest⟩ := h
    rw [Fields.erase_cons]
    by_cases hkey : k = key
    · rw [if_pos hkey]
      exact ih hrest
    · have hsame : Fields.has (Fields.erase rest key) k = false := by
        rw [Fields.has, Fields.get?_erase_of_ne _ hkey]
        exact hk
      rw [if_neg hkey, fieldsDistinct, hsame, hv, ih hrest]
      rfl

mutual

theorem hasDistinctKeys_merge {base : Json} (patch : Json) (hbase : hasDistinctKeys base = true)
    (hpatch : hasDistinctKeys patch = true) : hasDistinctKeys (merge base patch) = true := by
  match patch with
  | .obj more =>
    cases base with
    | obj fields => exact fieldsDistinct_mergeFields more hbase hpatch
    | null | bool | int | float | str | arr => exact hpatch
  | .null | .bool _ | .int _ | .float _ | .str _ | .arr _ => exact hpatch

theorem fieldsDistinct_mergeFields {fields : List (String × Json)} (more : List (String × Json))
    (hfields : fieldsDistinct fields = true) (hmore : fieldsDistinct more = true) :
    fieldsDistinct (mergeFields fields more) = true := by
  match more with
  | [] => exact hfields
  | (key, v) :: rest =>
    simp only [fieldsDistinct, Bool.and_eq_true] at hmore
    obtain ⟨⟨-, hv⟩, hrest⟩ := hmore
    rw [mergeFields]
    refine fieldsDistinct_mergeFields rest (fieldsDistinct_insert hfields ?_) hrest
    cases hold : Fields.get? fields key with
    | none => exact hv
    | some old =>
      have hobject : hasDistinctKeys (obj fields) = true := hfields
      exact hasDistinctKeys_merge v (hereditary_hasDistinctKeys.get? hobject hold) hv

end

/-- A key of both sources has the values merged, and a key of one source has its value there. -/
theorem get?_mergeFields {fields patch : List (String × Json)}
    (h : (Fields.keys patch).Nodup) (key : String) :
    Fields.get? (mergeFields fields patch) key =
      match Fields.get? patch key with
      | none => Fields.get? fields key
      | some v => some (match Fields.get? fields key with
        | some old => merge old v
        | none => v) := by
  induction patch generalizing fields with
  | nil => rfl
  | cons f rest ih =>
    obtain ⟨k, v⟩ := f
    rw [Fields.keys, List.map_cons, List.nodup_cons] at h
    rw [mergeFields, ih h.2, Fields.get?_insert, Fields.get?_cons]
    by_cases hk : k = key
    · subst hk
      have hnone := Fields.get?_eq_none_of_not_mem h.1
      cases hold : Fields.get? fields k with
      | none => simp [hnone]
      | some old => simp [hnone]
    · rw [if_neg hk, if_neg hk]

/-- The keys of an object stay in their order, and those that only the patch has follow in its. -/
theorem keys_mergeFields {patch : List (String × Json)} (h : (Fields.keys patch).Nodup)
    (fields : List (String × Json)) :
    Fields.keys (mergeFields fields patch) =
      Fields.keys fields ++ (Fields.keys patch).filter (· ∉ Fields.keys fields) := by
  induction patch generalizing fields with
  | nil => exact (List.append_nil _).symm
  | cons f rest ih =>
    obtain ⟨k, v⟩ := f
    rw [Fields.keys, List.map_cons, List.nodup_cons] at h
    obtain ⟨hk, hrest⟩ := h
    have hcons : Fields.keys ((k, v) :: rest) = k :: Fields.keys rest := rfl
    rw [mergeFields, ih hrest, Fields.keys_insert, hcons]
    by_cases hmem : k ∈ Fields.keys fields
    · rw [if_pos hmem, List.filter_cons_of_neg (by simpa using hmem)]
    · rw [if_neg hmem, List.filter_cons_of_pos (by simpa using hmem), List.append_assoc,
        List.singleton_append]
      -- The key that was added does not come again, so the rest is filtered as before.
      have hsame : ∀ l ∈ Fields.keys rest, decide (l ∉ Fields.keys fields ++ [k]) =
          decide (l ∉ Fields.keys fields) := by
        intro l hl
        have hne : l ≠ k := by
          rintro rfl
          exact hk hl
        simp [hne]
      rw [List.filter_congr hsame]

theorem erase_mergeFields (fields more : List (String × Json)) (key : String) :
    Fields.erase (mergeFields fields more) key =
      mergeFields (Fields.erase fields key) (Fields.erase more key) := by
  induction more generalizing fields with
  | nil => rfl
  | cons f rest ih =>
    obtain ⟨k, v⟩ := f
    rw [mergeFields, ih, Fields.erase_cons]
    by_cases hk : k = key
    · subst hk
      rw [if_pos rfl, Fields.erase_insert_self]
    · rw [if_neg hk, Fields.erase_insert_of_ne _ _ hk, mergeFields, Fields.get?_erase_of_ne _ hk]

/-! ## One key of merged objects -/

section
variable {patch : Json}

@[simp] theorem merge_null (patch : Json) : merge .null patch = patch := by
  cases patch <;> simp [merge]

theorem exists_fields_of_get? {v w : Json} {key : String} (h : v.get? key = some w) :
    ∃ fields, v = .obj fields ∧ Fields.get? fields key = some w := by
  cases v with
  | obj fields => exact ⟨fields, rfl, h⟩
  | null | bool | int | float | str | arr => cases h

/-- What the patch has at a key is merged into what the base has there. -/
theorem get?_merge_of_some (base : Json) (hpatch : hasDistinctKeys patch = true) {key : String}
    {v : Json} (h : patch.get? key = some v) :
    (merge base patch).get? key = some (merge ((base.get? key).getD .null) v) := by
  obtain ⟨more, rfl, hv⟩ := exists_fields_of_get? h
  cases base with
  | obj fields =>
    have hnodup := nodup_keys_of_fieldsDistinct hpatch
    rw [merge, get?, get?_mergeFields hnodup, hv, get?]
    cases Fields.get? fields key with
    | none => simp
    | some old => rfl
  | null | bool | int | float | str | arr => simp [merge, get?, hv]

/-- A key that the patch does not have keeps its value. -/
theorem get?_merge_of_none (fields : List (String × Json)) {more : List (String × Json)}
    {key : String} (h : Fields.get? more key = none) :
    (merge (.obj fields) (.obj more)).get? key = Fields.get? fields key := by
  have hhas : Fields.has more key = false := by rw [Fields.has, h, Option.isSome_none]
  rw [merge, get?, get?_mergeFields_of_not_has more hhas]

end

/-! ## Rows of keys -/

/-- The value to which a row of keys leads, through objects only. -/
def under? : Json → List String → Option Json
  | v, [] => some v
  | v, key :: rest => (v.get? key).bind fun w => under? w rest

theorem under?_cons_eq_some {v w : Json} {key : String} {rest : List String} :
    v.under? (key :: rest) = some w ↔ ∃ u, v.get? key = some u ∧ u.under? rest = some w :=
  Option.bind_eq_some_iff

/-- The front is the longest part from the start of the keys that leads to a value. -/
structure IsLongest (v : Json) (keys front : List String) : Prop where
  begins : front <+: keys
  resolves : (v.under? front).isSome = true
  longest : ∀ longer, longer <+: keys → (v.under? longer).isSome = true →
    longer.length ≤ front.length

theorem IsLongest.tail {v u : Json} {key : String} {rest front : List String}
    (h : IsLongest v (key :: rest) (key :: front)) (hu : v.get? key = some u) :
    IsLongest u rest front := by
  have hstep : ∀ longer, v.under? (key :: longer) = u.under? longer := by
    intro longer
    rw [under?, hu, Option.bind_some]
  refine ⟨(List.cons_prefix_cons.1 h.begins).2, hstep front ▸ h.resolves, ?_⟩
  intro longer hlonger hsome
  have hlength := h.longest (key :: longer) (List.cons_prefix_cons.2 ⟨rfl, hlonger⟩)
    (by rwa [hstep])
  simpa using hlength

/-- Where nothing of a row leads anywhere in an object, the object lacks its first key. -/
theorem IsLongest.get?_eq_none {fields : List (String × Json)} {key : String} {rest : List String}
    (h : IsLongest (.obj fields) (key :: rest) []) : Fields.get? fields key = none := by
  cases hget : Fields.get? fields key with
  | none => rfl
  | some v =>
    have hone : (Json.obj fields).under? [key] = some v :=
      under?_cons_eq_some.2 ⟨v, hget, rfl⟩
    have hlength := h.longest [key] (List.cons_prefix_cons.2 ⟨rfl, List.nil_prefix⟩)
      (by rw [hone]; rfl)
    simp at hlength

theorem Hereditary.under? {p : Json → Bool} {shape : List String → Bool} (hp : Hereditary p shape)
    {keys : List String} {v w : Json} (hv : p v = true) (h : v.under? keys = some w) :
    p w = true := by
  induction keys generalizing v with
  | nil =>
    cases h
    exact hv
  | cons key rest ih =>
    obtain ⟨u, hu, hrest⟩ := under?_cons_eq_some.1 h
    exact ih (hp.get? hv hu) hrest

section
variable {base patch : Json} {keys : List String}

/-- Where the patch has a value that is no object, the merged value has it. -/
theorem under?_merge_of_patch {v : Json} (hpatch : hasDistinctKeys patch = true)
    (h : patch.under? keys = some v) (hv : v.isObject = false) :
    (merge base patch).under? keys = some v := by
  induction keys generalizing base patch with
  | nil =>
    cases h
    exact congrArg some (merge_of_not_object base hv)
  | cons key rest ih =>
    obtain ⟨u, hu, hrest⟩ := under?_cons_eq_some.1 h
    have hkeys : hasDistinctKeys u = true := hereditary_hasDistinctKeys.get? hpatch hu
    exact under?_cons_eq_some.2 ⟨_, get?_merge_of_some base hpatch hu, ih hkeys hrest⟩

/-- Where the patch ends at an object, the merged value has what the base has. -/
theorem under?_merge_of_base {front : List String} {v : Json} {fields : List (String × Json)}
    (hpatch : hasDistinctKeys patch = true) (hbase : base.under? keys = some v)
    (hnone : patch.under? keys = none) (hlongest : IsLongest patch keys front)
    (hfront : patch.under? front = some (.obj fields)) :
    (merge base patch).under? keys = some v := by
  induction keys generalizing base patch front with
  | nil => cases hnone
  | cons key rest ih =>
    obtain ⟨b, hb, hrest⟩ := under?_cons_eq_some.1 hbase
    cases front with
    | nil =>
      -- The patch is the object, so it lacks the first key already.
      cases hfront
      obtain ⟨below, rfl, hget⟩ := exists_fields_of_get? hb
      have hkept := get?_merge_of_none below hlongest.get?_eq_none
      exact under?_cons_eq_some.2 ⟨b, hkept.trans hget, hrest⟩
    | cons k front =>
      obtain rfl := (List.cons_prefix_cons.1 hlongest.begins).1
      obtain ⟨u, hu, hfront⟩ := under?_cons_eq_some.1 hfront
      have hkeys : hasDistinctKeys u = true := hereditary_hasDistinctKeys.get? hpatch hu
      have hmerged := get?_merge_of_some base hpatch hu
      rw [under?, hu, Option.bind_some] at hnone
      rw [hb] at hmerged
      exact under?_cons_eq_some.2
        ⟨_, hmerged, ih hkeys hrest hnone (hlongest.tail hu) hfront⟩

theorem under?_null_eq_some {v : Json} (h : Json.null.under? keys = some v) : keys = [] := by
  cases keys with
  | nil => rfl
  | cons key rest => cases h

/-- A row of keys that leads somewhere in the merged value does so in one of the two. -/
theorem under?_of_merge {v : Json} (hpatch : hasDistinctKeys patch = true)
    (h : (merge base patch).under? keys = some v) :
    (base.under? keys).isSome = true ∨ (patch.under? keys).isSome = true := by
  induction keys generalizing base patch with
  | nil => exact .inr rfl
  | cons key rest ih =>
    obtain ⟨u, hu, hrest⟩ := under?_cons_eq_some.1 h
    cases hp : patch.get? key with
    | some p =>
      rw [get?_merge_of_some base hpatch hp] at hu
      cases hu
      simp only [under?, hp, Option.bind_some]
      have hsplit := ih (hereditary_hasDistinctKeys.get? hpatch hp) hrest
      cases hb : base.get? key with
      | some b =>
        rw [hb] at hsplit
        exact hsplit
      | none =>
        rw [hb] at hsplit
        rcases hsplit with hnull | hsome
        · obtain ⟨w, hw⟩ := Option.isSome_iff_exists.1 hnull
          rw [under?_null_eq_some hw]
          exact .inr rfl
        · exact .inr hsome
    | none =>
      cases patch with
      | obj more =>
        cases base with
        | obj fields =>
          rw [get?_merge_of_none fields hp] at hu
          have hbase : (Json.obj fields).under? (key :: rest) = some v :=
            under?_cons_eq_some.2 ⟨u, hu, hrest⟩
          exact .inl (Option.isSome_iff_exists.2 ⟨v, hbase⟩)
        | null | bool | int | float | str | arr =>
          simp only [merge, hp] at hu
          cases hu
      | null | bool | int | float | str | arr => cases hu

theorem under?_merge_of_some {v w : Json} (hpatch : hasDistinctKeys patch = true)
    (hv : base.under? keys = some v) (hw : patch.under? keys = some w) :
    (merge base patch).under? keys = some (merge v w) := by
  induction keys generalizing base patch with
  | nil =>
    cases hv
    cases hw
    rfl
  | cons key rest ih =>
    obtain ⟨b, hb, hv⟩ := under?_cons_eq_some.1 hv
    obtain ⟨p, hp, hw⟩ := under?_cons_eq_some.1 hw
    have hkeys : hasDistinctKeys p = true := hereditary_hasDistinctKeys.get? hpatch hp
    have hmerged := get?_merge_of_some base hpatch hp
    rw [hb] at hmerged
    exact under?_cons_eq_some.2 ⟨_, hmerged, ih hkeys hv hw⟩

end

/-! ## Merging again -/

/-- Merging changes nothing when every value of the patch is merged in already. -/
theorem mergeFields_of_absorbed {fields more : List (String × Json)}
    (h : ∀ f ∈ more, ∃ w, Fields.get? fields f.1 = some w ∧ merge w f.2 = w) :
    mergeFields fields more = fields := by
  induction more with
  | nil => rfl
  | cons f rest ih =>
    obtain ⟨k, v⟩ := f
    obtain ⟨w, hw, hsame⟩ := h (k, v) (List.mem_cons_self ..)
    rw [mergeFields, hw]
    simp only [hsame]
    rw [Fields.insert_of_get? hw]
    exact ih fun f hf => h f (List.mem_cons_of_mem _ hf)

/-- Merging the same patch again changes nothing. -/
theorem merge_merge (base patch : Json) (hpatch : hasDistinctKeys patch = true) :
    merge (merge base patch) patch = merge base patch := by
  match patch with
  | .obj more =>
    have habsorbed : ∀ f ∈ more, ∃ w,
        (merge base (.obj more)).get? f.1 = some w ∧ merge w f.2 = w := by
      intro f hf
      have hget : (Json.obj more).get? f.1 = some f.2 :=
        Fields.get?_of_mem (nodup_keys_of_fieldsDistinct hpatch) hf
      have hdepth : f.2.depth < (Json.obj more).depth := depth_lt_of_mem_fields hf
      exact ⟨_, get?_merge_of_some base hpatch hget,
        merge_merge _ f.2 (hereditary_hasDistinctKeys.get? hpatch hget)⟩
    cases base with
    | obj fields => exact congrArg obj (mergeFields_of_absorbed habsorbed)
    | null | bool | int | float | str | arr =>
      exact congrArg obj (mergeFields_of_absorbed habsorbed)
  | .null | .bool _ | .int _ | .float _ | .str _ | .arr _ => rfl
termination_by patch.depth

/-! ## All together -/

/-- What the patch has wins, what the base has beside it stays, nothing else is there, the keys of
merged objects keep their order, and merging the same patch again changes nothing. -/
theorem merge_keeps (base patch : Json) (hpatch : hasDistinctKeys patch = true) :
    (∀ keys v, patch.under? keys = some v → v.isObject = false →
      (merge base patch).under? keys = some v) ∧
    (∀ keys v front fields, base.under? keys = some v → patch.under? keys = none →
      IsLongest patch keys front → patch.under? front = some (.obj fields) →
      (merge base patch).under? keys = some v) ∧
    (∀ keys v, (merge base patch).under? keys = some v →
      (base.under? keys).isSome = true ∨ (patch.under? keys).isSome = true) ∧
    (∀ keys fields more, base.under? keys = some (.obj fields) →
      patch.under? keys = some (.obj more) →
      ∃ merged, (merge base patch).under? keys = some (.obj merged) ∧
        Fields.keys merged =
          Fields.keys fields ++ (Fields.keys more).filter (· ∉ Fields.keys fields)) ∧
    merge (merge base patch) patch = merge base patch := by
  refine ⟨?_, ?_, ?_, ?_, merge_merge base patch hpatch⟩
  · intro keys v h hv
    exact under?_merge_of_patch hpatch h hv
  · intro keys v front fields hbase hnone hlongest hfront
    exact under?_merge_of_base hpatch hbase hnone hlongest hfront
  · intro keys v h
    exact under?_of_merge hpatch h
  · intro keys fields more hbase hmore
    have hnodup : (Fields.keys more).Nodup :=
      nodup_keys_of_fieldsDistinct (hereditary_hasDistinctKeys.under? hpatch hmore)
    exact ⟨_, under?_merge_of_some hpatch hbase hmore, keys_mergeFields hnodup fields⟩

/-- An object in which one key is overridden two levels down and a list is replaced. -/
theorem merge_keeps_nested :
    let base := obj [("a", .obj [("x", .int 0), ("y", .int 2)]), ("b", .arr [.int 9])]
    let patch := obj [("c", .null), ("b", .arr []), ("a", .obj [("z", .int 3), ("x", .int 1)])]
    patch.hasDistinctKeys = true ∧
      (merge base patch).under? ["a", "x"] = some (.int 1) ∧
      (merge base patch).under? ["a", "y"] = some (.int 2) ∧
      (∃ merged, (merge base patch).under? ["a"] = some (.obj merged) ∧
        Fields.keys merged = ["x", "y", "z"]) ∧
      merge (merge base patch) patch = merge base patch := by
  intro base patch
  have hpatch : patch.hasDistinctKeys = true := by decide
  obtain ⟨hwins, hstays, -, hkeys, hagain⟩ := merge_keeps base patch hpatch
  have hlongest : IsLongest patch ["a", "y"] ["a"] := by
    refine ⟨⟨["y"], rfl⟩, rfl, ?_⟩
    intro longer hlonger hsome
    by_contra hlength
    have hwhole : longer = ["a", "y"] := hlonger.eq_of_length_le (by simp at hlength ⊢; omega)
    rw [hwhole] at hsome
    cases hsome
  refine ⟨hpatch, hwins ["a", "x"] (.int 1) rfl rfl, ?_, ?_, hagain⟩
  · exact hstays ["a", "y"] (.int 2) ["a"] _ rfl rfl hlongest rfl
  · exact hkeys ["a"] _ _ rfl rfl

end FlexForm.Json
