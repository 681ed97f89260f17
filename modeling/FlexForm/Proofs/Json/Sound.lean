import FlexForm.Proofs.Json.Position

/-! # Sound values

A sound value comes back unchanged when it is written, read and expanded. Soundness passes on to
what is inside of a value, and to a value put together from sound parts.

* `Sound`: finite numbers, integers that can be written, distinct keys and no markers.
* `Sound.get?`, `Sound.item`: soundness of parts.
* `sound_arr`, `sound_obj`, `Sound.fill`: soundness of wholes.
-/

namespace FlexForm.Json
set_option autoImplicit false

structure Sound (v : Json) : Prop where
  finite : isFinite v = true
  writable : isWritable v = true
  keys : hasDistinctKeys v = true
  unmarked : lacksKey Overlay.marker v = true

theorem Hereditary.item {p : Json → Bool} {keys : List String → Bool} (hp : Hereditary p keys)
    {items : List Json} (h : p (.arr items) = true) {v : Json} (hv : v ∈ items) : p v = true := by
  rw [hp.arr, List.all_eq_true] at h
  exact h v hv

theorem Hereditary.field {p : Json → Bool} {keys : List String → Bool} (hp : Hereditary p keys)
    {fields : List (String × Json)} (h : p (.obj fields) = true) {f : String × Json}
    (hf : f ∈ fields) : p f.2 = true := by
  rw [hp.obj, Bool.and_eq_true, List.all_eq_true] at h
  exact h.2 f hf

theorem Hereditary.get? {p : Json → Bool} {keys : List String → Bool} (hp : Hereditary p keys)
    {w v : Json} {key : String} (h : p w = true) (hv : w.get? key = some v) : p v = true := by
  cases w with
  | obj fields => exact hp.field h (Fields.mem_of_get? hv)
  | null | bool | int | float | str | arr => cases hv

@[simp] theorem sound_null : Sound .null := ⟨rfl, rfl, rfl, rfl⟩

@[simp] theorem sound_str (s : String) : Sound (.str s) := ⟨rfl, rfl, rfl, rfl⟩

@[simp] theorem sound_bool (b : Bool) : Sound (.bool b) := ⟨rfl, rfl, rfl, rfl⟩

theorem sound_digit (n : ℕ) (hn : n < 10) : Sound (.int n) := by
  refine ⟨rfl, ?_, rfl, rfl⟩
  have hpow : 10 ≤ 10 ^ maxDigits := Nat.le_self_pow (by decide) 10
  rw [isWritable, isShortInt, decide_eq_true_eq, Int.natAbs_natCast]
  exact Nat.lt_of_lt_of_le hn hpow

section
variable {v w : Json}

theorem Sound.item {items : List Json} (h : Sound (.arr items)) (hv : v ∈ items) : Sound v :=
  ⟨hereditary_isFinite.item h.finite hv, hereditary_isWritable.item h.writable hv,
    hereditary_hasDistinctKeys.item h.keys hv, (hereditary_lacksKey _).item h.unmarked hv⟩

theorem Sound.get? {key : String} (h : Sound w) (hv : w.get? key = some v) : Sound v :=
  ⟨hereditary_isFinite.get? h.finite hv, hereditary_isWritable.get? h.writable hv,
    hereditary_hasDistinctKeys.get? h.keys hv, (hereditary_lacksKey _).get? h.unmarked hv⟩

/-- Nothing, or a sound value. -/
def SoundOr (o : Option Json) : Prop := ∀ v, o = some v → v.Sound

theorem soundOr_some (h : v.Sound) : SoundOr (some v) := by
  intro w hw
  cases hw
  exact h

theorem Sound.field (h : Sound w) (key : String) : SoundOr (w.get? key) := fun _ hv => h.get? hv

theorem SoundOr.field {o : Option Json} (h : SoundOr o) (key : String) :
    SoundOr (o.bind (·.get? key)) := by
  intro v hv
  obtain ⟨w, hw, hget⟩ := Option.bind_eq_some_iff.1 hv
  exact (h w hw).get? hget

theorem SoundOr.getD {o : Option Json} (h : SoundOr o) : (o.getD .null).Sound := by
  cases o with
  | none => exact sound_null
  | some v => exact h v rfl

theorem sound_arr {items : List Json} : Sound (.arr items) ↔ ∀ v ∈ items, v.Sound := by
  refine ⟨fun h v hv => h.item hv, fun h => ⟨?_, ?_, ?_, ?_⟩⟩
  · rw [hereditary_isFinite.arr, List.all_eq_true]
    exact fun v hv => (h v hv).finite
  · rw [hereditary_isWritable.arr, List.all_eq_true]
    exact fun v hv => (h v hv).writable
  · rw [hereditary_hasDistinctKeys.arr, List.all_eq_true]
    exact fun v hv => (h v hv).keys
  · rw [(hereditary_lacksKey _).arr, List.all_eq_true]
    exact fun v hv => (h v hv).unmarked

theorem hasDistinctKeys_obj {fields : List (String × Json)}
    (hkeys : distinct (fields.map Prod.fst) = true)
    (h : ∀ f ∈ fields, hasDistinctKeys f.2 = true) : hasDistinctKeys (.obj fields) = true := by
  rw [hereditary_hasDistinctKeys.obj, hkeys, Bool.true_and, List.all_eq_true]
  exact h

/-- Keys that may stand together in a sound object. -/
def areKeys (keys : List String) : Bool := distinct keys && keys.all (· != Overlay.marker)

theorem sound_obj {fields : List (String × Json)} (hkeys : areKeys (fields.map Prod.fst) = true)
    (h : ∀ f ∈ fields, f.2.Sound) : Sound (.obj fields) := by
  rw [areKeys, Bool.and_eq_true] at hkeys
  refine ⟨?_, ?_, ?_, ?_⟩
  · rw [hereditary_isFinite.obj, Bool.true_and, List.all_eq_true]
    exact fun f hf => (h f hf).finite
  · rw [hereditary_isWritable.obj, Bool.true_and, List.all_eq_true]
    exact fun f hf => (h f hf).writable
  · exact hasDistinctKeys_obj hkeys.1 fun f hf => (h f hf).keys
  · rw [(hereditary_lacksKey _).obj, Bool.and_eq_true]
    exact ⟨hkeys.2, List.all_eq_true.2 fun f hf => (h f hf).unmarked⟩

/-- A sound value in place of another one keeps the whole sound. -/
theorem Sound.fill {position : Position} (hw : Sound (position.fill w)) (hv : Sound v) :
    Sound (position.fill v) :=
  ⟨hereditary_isFinite.fill position hw.finite hv.finite,
    hereditary_isWritable.fill position hw.writable hv.writable,
    hereditary_hasDistinctKeys.fill position hw.keys hv.keys,
    (hereditary_lacksKey _).fill position hw.unmarked hv.unmarked⟩

end

end FlexForm.Json
