/-! # Fields in order

The fields of an object, in the order in which their keys first came. All operations keep that
order: a key that is written again keeps its place.

* `Fields.get?`, `Fields.has`, `Fields.keys`: reading.
* `Fields.insert`, `Fields.erase`, `Fields.ofPairs`: writing.
-/

namespace FlexForm.Fields
set_option autoImplicit false

variable {α : Type}

def get? (fields : List (String × α)) (key : String) : Option α := fields.lookup key

def has (fields : List (String × α)) (key : String) : Bool := (get? fields key).isSome

def keys (fields : List (String × α)) : List String := fields.map Prod.fst

/-- Gives the key a value, in its place when it has one and at the end otherwise. -/
def insert : List (String × α) → String → α → List (String × α)
  | [], key, value => [(key, value)]
  | (k, v) :: rest, key, value =>
    if k = key then (k, value) :: rest else (k, v) :: insert rest key value

def erase (fields : List (String × α)) (key : String) : List (String × α) :=
  fields.filter fun f => f.1 ≠ key

/-- The fields that result from writing the pairs one after the other. -/
def ofPairs (pairs : List (String × α)) : List (String × α) :=
  pairs.foldl (fun fields f => insert fields f.1 f.2) []

/-! ## One lemma per operation -/

@[simp] theorem get?_nil (key : String) : get? ([] : List (String × α)) key = none := rfl

theorem get?_cons (k key : String) (v : α) (rest : List (String × α)) :
    get? ((k, v) :: rest) key = if k = key then some v else get? rest key := by
  by_cases h : k = key
  · subst h
    rw [get?, List.lookup_cons_self, if_pos rfl]
  · have hne : (key == k) = false := beq_eq_false_iff_ne.2 (Ne.symm h)
    rw [get?, List.lookup_cons, hne, if_neg h, get?]

theorem get?_append (before after : List (String × α)) (key : String) :
    get? (before ++ after) key = (get? before key).or (get? after key) :=
  List.lookup_append

theorem get?_insert (fields : List (String × α)) (k key : String) (v : α) :
    get? (insert fields k v) key = if k = key then some v else get? fields key := by
  induction fields with
  | nil => simp [insert, get?_cons]
  | cons f rest ih =>
    obtain ⟨l, w⟩ := f
    by_cases hl : l = k
    · subst hl
      by_cases hk : l = key <;> simp [insert, get?_cons, hk]
    · by_cases hk : l = key
      · subst hk
        simp [insert, get?_cons, hl, Ne.symm hl]
      · simp [insert, get?_cons, hl, hk, ih]

theorem get?_insert_self (fields : List (String × α)) (k : String) (v : α) :
    get? (insert fields k v) k = some v := by simp [get?_insert]

theorem get?_insert_of_ne (fields : List (String × α)) {k key : String} (v : α) (h : k ≠ key) :
    get? (insert fields k v) key = get? fields key := by simp [get?_insert, h]

theorem insert_insert_self (fields : List (String × α)) (k : String) (v w : α) :
    insert (insert fields k v) k w = insert fields k w := by
  induction fields with
  | nil => simp [insert]
  | cons f rest ih =>
    obtain ⟨l, x⟩ := f
    by_cases hl : l = k
    · simp [insert, hl]
    · simp [insert, hl, ih]

theorem erase_cons (l k : String) (w : α) (rest : List (String × α)) :
    erase ((l, w) :: rest) k = if l = k then erase rest k else (l, w) :: erase rest k := by
  by_cases hl : l = k <;> simp [erase, hl]

theorem get?_erase_self (fields : List (String × α)) (k : String) :
    get? (erase fields k) k = none := by
  induction fields with
  | nil => rfl
  | cons f rest ih =>
    obtain ⟨l, w⟩ := f
    rw [erase_cons]
    by_cases hl : l = k
    · rw [if_pos hl, ih]
    · rw [if_neg hl, get?_cons, if_neg hl, ih]

theorem get?_erase_of_ne (fields : List (String × α)) {k key : String} (h : key ≠ k) :
    get? (erase fields k) key = get? fields key := by
  induction fields with
  | nil => rfl
  | cons f rest ih =>
    obtain ⟨l, w⟩ := f
    rw [erase_cons]
    by_cases hl : l = k
    · have hne : l ≠ key := fun heq => h (heq.symm.trans hl)
      rw [if_pos hl, get?_cons, if_neg hne, ih]
    · rw [if_neg hl, get?_cons, get?_cons, ih]

theorem erase_insert_self (fields : List (String × α)) (k : String) (v : α) :
    erase (insert fields k v) k = erase fields k := by
  induction fields with
  | nil => rw [insert, erase_cons, if_pos rfl]
  | cons f rest ih =>
    obtain ⟨l, w⟩ := f
    rw [insert]
    by_cases hl : l = k
    · rw [if_pos hl, erase_cons, if_pos hl, erase_cons, if_pos hl]
    · rw [if_neg hl, erase_cons, if_neg hl, erase_cons, if_neg hl, ih]

theorem erase_insert_of_ne (fields : List (String × α)) {k key : String} (v : α) (h : k ≠ key) :
    erase (insert fields k v) key = insert (erase fields key) k v := by
  induction fields with
  | nil => rw [insert, erase_cons, if_neg h, erase, List.filter_nil, insert]
  | cons f rest ih =>
    obtain ⟨l, w⟩ := f
    rw [insert]
    by_cases hl : l = k
    · subst hl
      rw [if_pos rfl, erase_cons, if_neg h, erase_cons, if_neg h, insert, if_pos rfl]
    · rw [if_neg hl, erase_cons, erase_cons]
      by_cases hkey : l = key
      · rw [if_pos hkey, if_pos hkey, ih]
      · rw [if_neg hkey, if_neg hkey, ih, insert, if_neg hl]

theorem mem_of_get? {fields : List (String × α)} {key : String} {v : α}
    (h : get? fields key = some v) : (key, v) ∈ fields := by
  induction fields with
  | nil => cases h
  | cons f rest ih =>
    obtain ⟨k, w⟩ := f
    rw [get?_cons] at h
    split at h
    next hk =>
      cases h
      exact hk ▸ List.mem_cons_self ..
    next => exact List.mem_cons_of_mem _ (ih h)

theorem get?_eq_none_of_not_mem {fields : List (String × α)} {key : String}
    (h : key ∉ keys fields) : get? fields key = none := by
  induction fields with
  | nil => rfl
  | cons f rest ih =>
    obtain ⟨k, v⟩ := f
    rw [keys, List.map_cons, List.mem_cons, not_or] at h
    rw [get?_cons, if_neg (Ne.symm h.1), ih h.2]

theorem get?_of_mem {fields : List (String × α)} (hkeys : (keys fields).Nodup) {key : String}
    {v : α} (h : (key, v) ∈ fields) : get? fields key = some v := by
  induction fields with
  | nil => cases h
  | cons f rest ih =>
    obtain ⟨k, w⟩ := f
    rw [keys, List.map_cons, List.nodup_cons] at hkeys
    rw [get?_cons]
    rcases List.mem_cons.1 h with h | h
    · cases h
      exact if_pos rfl
    · have hne : k ≠ key := by
        intro hk
        exact hkeys.1 (List.mem_map.2 ⟨(key, v), h, hk.symm⟩)
      rw [if_neg hne, ih hkeys.2 h]

theorem insert_of_get? {fields : List (String × α)} {key : String} {v : α}
    (h : get? fields key = some v) : insert fields key v = fields := by
  induction fields with
  | nil => cases h
  | cons f rest ih =>
    obtain ⟨k, w⟩ := f
    rw [get?_cons] at h
    rw [insert]
    split at h
    next hk =>
      cases h
      rw [if_pos hk]
    next hk => rw [if_neg hk, ih h]

theorem keys_insert (fields : List (String × α)) (key : String) (v : α) :
    keys (insert fields key v) =
      if key ∈ keys fields then keys fields else keys fields ++ [key] := by
  induction fields with
  | nil => rfl
  | cons f rest ih =>
    obtain ⟨k, w⟩ := f
    unfold keys at ih ⊢
    rw [insert]
    by_cases hk : k = key
    · simp [hk]
    · by_cases hkey : key ∈ rest.map Prod.fst
      · simp [hk, hkey, ih]
      · simp [hk, hkey, ih, Ne.symm hk]

end FlexForm.Fields
