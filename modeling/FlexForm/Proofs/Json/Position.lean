import FlexForm.Proofs.Json.Written
import FlexForm.Proofs.Overlay

/-! # Positions in a value

A position is a value with one value left out. What is put there stands, in the text of the whole,
between the same two pieces of text, however it is written.

* `Position`, `Position.fill`: the whole with a value at the position.
* `Hereditary`: what holds of a value when it holds of its parts and of its keys.
* `Position.before`, `Position.after`: the text around the position.
* `Position.spells`: any text of a value, put between them, gives a text of the whole.
-/

namespace FlexForm.Json
set_option autoImplicit false

/-- A value with one value left out, which is an item or the value of a key at some depth. -/
inductive Position where
  | here
  | item (before : List Json) (inside : Position) (after : List Json)
  | field (before : List (String × Json)) (key : String) (inside : Position)
      (after : List (String × Json))

namespace Position

/-- The whole with the value at the position. -/
def fill : Position → Json → Json
  | .here, v => v
  | .item before inside after, v => .arr (before ++ inside.fill v :: after)
  | .field before key inside after, v => .obj (before ++ (key, inside.fill v) :: after)

end Position

/-! ## Properties of all parts -/

/-- The property holds of a list when it holds of its items, and of an object when it holds of the
values and its keys are as they should be. -/
structure Hereditary (p : Json → Bool) (keys : List String → Bool) : Prop where
  arr : ∀ items, p (.arr items) = items.all p
  obj : ∀ fields, p (.obj fields) = (keys (fields.map Prod.fst) && fields.all fun f => p f.2)

/-- What is put at a position counts only for itself. -/
theorem Hereditary.fill {p : Json → Bool} {keys : List String → Bool} (hp : Hereditary p keys)
    (position : Position) {v w : Json} (hw : p (position.fill w) = true) (hv : p v = true) :
    p (position.fill v) = true := by
  induction position with
  | here => exact hv
  | item before inside after ih =>
    simp only [Position.fill, hp.arr, List.all_append, List.all_cons, Bool.and_eq_true] at hw ⊢
    exact ⟨hw.1, ih hw.2.1, hw.2.2⟩
  | field before key inside after ih =>
    simp only [Position.fill, hp.obj, List.map_append, List.map_cons, List.all_append,
      List.all_cons, Bool.and_eq_true] at hw ⊢
    exact ⟨hw.1, hw.2.1, ih hw.2.2.1, hw.2.2.2⟩

theorem Hereditary.of_fill {p : Json → Bool} {keys : List String → Bool} (hp : Hereditary p keys)
    (position : Position) {v : Json} (h : p (position.fill v) = true) : p v = true := by
  induction position with
  | here => exact h
  | item before inside after ih =>
    simp only [Position.fill, hp.arr, List.all_append, List.all_cons, Bool.and_eq_true] at h
    exact ih h.2.1
  | field before key inside after ih =>
    simp only [Position.fill, hp.obj, List.all_append, List.all_cons, Bool.and_eq_true] at h
    exact ih h.2.2.1

theorem areFinite_eq_all (items : List Json) : areFinite items = items.all isFinite := by
  induction items with
  | nil => rfl
  | cons v rest ih => rw [areFinite, ih, List.all_cons]

theorem haveFinite_eq_all (fields : List (String × Json)) :
    haveFinite fields = fields.all fun f => isFinite f.2 := by
  induction fields with
  | nil => rfl
  | cons f rest ih => rw [haveFinite, ih, List.all_cons]

theorem areWritable_eq_all (items : List Json) : areWritable items = items.all isWritable := by
  induction items with
  | nil => rfl
  | cons v rest ih => rw [areWritable, ih, List.all_cons]

theorem areWritableFields_eq_all (fields : List (String × Json)) :
    areWritableFields fields = fields.all fun f => isWritable f.2 := by
  induction fields with
  | nil => rfl
  | cons f rest ih => rw [areWritableFields, ih, List.all_cons]

theorem haveDistinctKeys_eq_all (items : List Json) :
    haveDistinctKeys items = items.all hasDistinctKeys := by
  induction items with
  | nil => rfl
  | cons v rest ih => rw [haveDistinctKeys, ih, List.all_cons]

theorem has_eq_contains (fields : List (String × Json)) (k : String) :
    Fields.has fields k = (fields.map Prod.fst).contains k := by
  induction fields with
  | nil => rfl
  | cons f rest ih =>
    obtain ⟨l, v⟩ := f
    unfold Fields.has at ih ⊢
    rw [Fields.get?_cons, List.map_cons, List.contains_cons, ← ih]
    by_cases h : l = k
    · simp [h]
    · simp [h, Ne.symm h]

/-- No key comes twice. -/
def distinct : List String → Bool
  | [] => true
  | k :: rest => !rest.contains k && distinct rest

theorem fieldsDistinct_eq_all (fields : List (String × Json)) :
    fieldsDistinct fields =
      (distinct (fields.map Prod.fst) && fields.all fun f => hasDistinctKeys f.2) := by
  induction fields with
  | nil => rfl
  | cons f rest ih =>
    obtain ⟨k, v⟩ := f
    rw [fieldsDistinct, ih, has_eq_contains, List.map_cons, distinct, List.all_cons]
    cases (rest.map Prod.fst).contains k <;> cases hasDistinctKeys v <;>
      cases distinct (rest.map Prod.fst) <;> rfl

theorem nodup_keys_of_fieldsDistinct {fields : List (String × Json)}
    (h : fieldsDistinct fields = true) : (Fields.keys fields).Nodup := by
  induction fields with
  | nil => exact List.nodup_nil
  | cons f rest ih =>
    obtain ⟨k, v⟩ := f
    simp only [fieldsDistinct, Bool.and_eq_true, Bool.not_eq_true'] at h
    obtain ⟨⟨hk, -⟩, hrest⟩ := h
    rw [has_eq_contains, List.contains_eq_mem, decide_eq_false_iff_not] at hk
    exact List.nodup_cons.2 ⟨hk, ih hrest⟩

theorem itemsLackKey_eq_all (key : String) (items : List Json) :
    itemsLackKey key items = items.all (lacksKey key) := by
  induction items with
  | nil => rfl
  | cons v rest ih => rw [itemsLackKey, ih, List.all_cons]

theorem fieldsLackKey_eq_all (key : String) (fields : List (String × Json)) :
    fieldsLackKey key fields =
      ((fields.map Prod.fst).all (· != key) && fields.all fun f => lacksKey key f.2) := by
  induction fields with
  | nil => rfl
  | cons f rest ih =>
    obtain ⟨k, v⟩ := f
    rw [fieldsLackKey, ih, List.map_cons, List.all_cons, List.all_cons]
    cases k != key <;> cases lacksKey key v <;> simp

theorem hereditary_isFinite : Hereditary isFinite fun _ => true :=
  ⟨areFinite_eq_all, fun fields => by rw [isFinite, haveFinite_eq_all, Bool.true_and]⟩

theorem hereditary_isWritable : Hereditary isWritable fun _ => true :=
  ⟨areWritable_eq_all, fun fields => by rw [isWritable, areWritableFields_eq_all, Bool.true_and]⟩

theorem hereditary_hasDistinctKeys : Hereditary hasDistinctKeys distinct :=
  ⟨haveDistinctKeys_eq_all, fieldsDistinct_eq_all⟩

theorem hereditary_lacksKey (key : String) : Hereditary (lacksKey key) (·.all (· != key)) :=
  ⟨itemsLackKey_eq_all key, fieldsLackKey_eq_all key⟩

/-! ## The text around a position -/

/-- Items with a comma behind each. -/
def leadItems (esc : Char → List Char) : List Json → List Char
  | [] => []
  | v :: rest => charsWith esc v ++ ',' :: ' ' :: leadItems esc rest

/-- Fields with a comma behind each. -/
def leadFields (esc : Char → List Char) : List (String × Json) → List Char
  | [] => []
  | (k, v) :: rest =>
    quoteWith esc k ++ ':' :: ' ' :: charsWith esc v ++ ',' :: ' ' :: leadFields esc rest

namespace Position

/-- The text of the whole up to the position. -/
def before (esc : Char → List Char) : Position → List Char
  | .here => []
  | .item first inside _ => '[' :: leadItems esc first ++ inside.before esc
  | .field first key inside _ =>
    '{' :: leadFields esc first ++ (quoteWith esc key ++ ':' :: ' ' :: inside.before esc)

/-- The text of the whole behind the position. -/
def after (esc : Char → List Char) : Position → List Char
  | .here => []
  | .item _ inside last => inside.after esc ++ (moreItemChars esc last ++ [']'])
  | .field _ _ inside last => inside.after esc ++ (moreFieldChars esc last ++ ['}'])

end Position

section
variable {esc : Char → List Char}

/-! ## Another text at the position -/

variable {special : Bool}

/-- The pieces of items of which the last has its own way to be spelled. -/
theorem spells_leadItems (he : Escapes esc) (first : List Json) (v : Json)
    (hf : areFinite first = true) (hw : areWritable first = true) {s : List Char}
    {qs : List Piece} (h : Spells special s (pieces v qs)) :
    ∃ w rest, first ++ [v] = w :: rest ∧
      Spells special (leadItems esc first ++ s) (pieces w (moreItems rest qs)) := by
  induction first with
  | nil => exact ⟨v, [], rfl, h⟩
  | cons w rest ih =>
    simp only [areFinite, areWritable, Bool.and_eq_true] at hf hw
    obtain ⟨next, more, heq, hmore⟩ := ih hf.2 hw.2
    refine ⟨w, rest ++ [v], rfl, ?_⟩
    rw [heq, leadItems, List.append_assoc]
    exact spells_charsWith he w hf.1 hw.1 (endsNumber_cons (by decide))
      (.mark (by decide) (.space (by decide) hmore))

theorem spells_leadFields (he : Escapes esc) (first : List (String × Json)) (k : String) (v : Json)
    (hf : haveFinite first = true) (hw : areWritableFields first = true) {s : List Char}
    {qs : List Piece} (h : Spells special s (.text k :: .mark ':' :: pieces v qs)) :
    ∃ l w rest, first ++ [(k, v)] = (l, w) :: rest ∧
      Spells special (leadFields esc first ++ s)
        (.text l :: .mark ':' :: pieces w (moreFields rest qs)) := by
  induction first with
  | nil => exact ⟨k, v, [], rfl, h⟩
  | cons f rest ih =>
    obtain ⟨l, w⟩ := f
    simp only [haveFinite, areWritableFields, Bool.and_eq_true] at hf hw
    obtain ⟨l', w', more, heq, hmore⟩ := ih hf.2 hw.2
    refine ⟨l, w, rest ++ [(k, v)], rfl, ?_⟩
    have hvalue := spells_charsWith he w hf.1 hw.1
      (show EndsNumber (',' :: ' ' :: (leadFields esc rest ++ s)) from endsNumber_cons (by decide))
      (.mark (by decide) (.space (by decide) hmore))
    have hkey := spells_quoteWith he l
      (Spells.mark (c := ':') (by decide) (.space (c := ' ') (by decide) hvalue))
    rw [heq]
    simpa [leadFields, moreFields] using hkey

theorem isFinite_arr (first : List Json) (v : Json) (last : List Json) :
    isFinite (.arr (first ++ v :: last)) = true ↔
      areFinite first = true ∧ isFinite v = true ∧ areFinite last = true := by
  rw [isFinite, areFinite_eq_all, areFinite_eq_all, areFinite_eq_all]
  simp

theorem isWritable_arr (first : List Json) (v : Json) (last : List Json) :
    isWritable (.arr (first ++ v :: last)) = true ↔
      areWritable first = true ∧ isWritable v = true ∧ areWritable last = true := by
  rw [isWritable, areWritable_eq_all, areWritable_eq_all, areWritable_eq_all]
  simp

theorem isFinite_obj (first : List (String × Json)) (k : String) (v : Json)
    (last : List (String × Json)) :
    isFinite (.obj (first ++ (k, v) :: last)) = true ↔
      haveFinite first = true ∧ isFinite v = true ∧ haveFinite last = true := by
  rw [isFinite, haveFinite_eq_all, haveFinite_eq_all, haveFinite_eq_all]
  simp

theorem isWritable_obj (first : List (String × Json)) (k : String) (v : Json)
    (last : List (String × Json)) :
    isWritable (.obj (first ++ (k, v) :: last)) = true ↔
      areWritableFields first = true ∧ isWritable v = true ∧ areWritableFields last = true := by
  rw [isWritable, areWritableFields_eq_all, areWritableFields_eq_all, areWritableFields_eq_all]
  simp

/-- Any text that spells a value, put at the position, spells the whole. -/
theorem Position.spells (he : Escapes esc) (position : Position) {v : Json} {word : List Char}
    (hword : ∀ rest qs, EndsNumber rest → Spells special rest qs →
      Spells special (word ++ rest) (pieces v qs))
    (hf : isFinite (position.fill v) = true) (hw : isWritable (position.fill v) = true)
    {rest : List Char} {qs : List Piece} (hr : EndsNumber rest) (h : Spells special rest qs) :
    Spells special (position.before esc ++ word ++ position.after esc ++ rest)
      (pieces (position.fill v) qs) := by
  induction position generalizing rest qs with
  | here => simpa [before, after, fill] using hword rest qs hr h
  | item first inside last ih =>
    rw [fill, isFinite_arr] at hf
    rw [fill, isWritable_arr] at hw
    have hlast := spells_moreItemChars he last hf.2.2 hw.2.2
      (show EndsNumber (']' :: rest) from endsNumber_cons (by decide)) (.mark (by decide) h)
    have hinside := ih hf.2.1 hw.2.1 hlast.1 hlast.2
    obtain ⟨w, more, heq, hfirst⟩ := spells_leadItems he first _ hf.1 hw.1 hinside
    have hitems : pieces (.arr (first ++ inside.fill v :: last)) qs =
        .mark '[' :: pieces w (moreItems more (moreItems last (.mark ']' :: qs))) := by
      rw [show first ++ inside.fill v :: last = w :: (more ++ last) by
        rw [← List.singleton_append, ← List.append_assoc, heq, List.cons_append],
        pieces, moreItems_append]
    rw [fill, hitems]
    simpa [before, after] using Spells.mark (c := '[') (by decide) hfirst
  | field first key inside last ih =>
    rw [fill, isFinite_obj] at hf
    rw [fill, isWritable_obj] at hw
    have hlast := spells_moreFieldChars he last hf.2.2 hw.2.2
      (show EndsNumber ('}' :: rest) from endsNumber_cons (by decide)) (.mark (by decide) h)
    have hinside := ih hf.2.1 hw.2.1 hlast.1 hlast.2
    have hkey := spells_quoteWith he key
      (Spells.mark (c := ':') (by decide) (.space (c := ' ') (by decide) hinside))
    obtain ⟨l, w, more, heq, hfirst⟩ := spells_leadFields he first key _ hf.1 hw.1 hkey
    have hfields : pieces (.obj (first ++ (key, inside.fill v) :: last)) qs = .mark '{' :: .text l ::
        .mark ':' :: pieces w (moreFields more (moreFields last (.mark '}' :: qs))) := by
      rw [show first ++ (key, inside.fill v) :: last = (l, w) :: (more ++ last) by
        rw [← List.singleton_append, ← List.append_assoc, heq, List.cons_append],
        pieces, moreFields_append]
    rw [fill, hfields]
    simpa [before, after] using Spells.mark (c := '{') (by decide) hfirst

end

end FlexForm.Json
